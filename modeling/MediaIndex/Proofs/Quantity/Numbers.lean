import MediaIndex.Quantity

/-!
# The number behind a measure

A bit rate, a sampling rate and a frame rate are read in two steps: a text is read as a number, with
its unit taken into account, and the number is put into the form in which it is kept. The readers do
both at once. Here the first step is named, and so is the form of a frame rate, so that what a
number is read from and what becomes of it can be told apart.
-/

set_option autoImplicit false

namespace MediaIndex.Quantity

/-- The bits per second that a text gives, not yet rounded. -/
def bitrateNumber? (value : String) : Option Float :=
  let v := firstAlternative (respellUnit (Text.lower value).toList)
  (leadingNumber? v).map fun n =>
    if Text.occursIn "mbps".toList v then n * 1000000.0
    else if Text.occursIn "kbps".toList v then n * 1000.0
    else n

/-- The hertz that a text gives, not yet rounded. -/
def sampleRateNumber? (value : String) : Option Float :=
  let v := (Text.lower (String.ofList (firstAlternative value.toList))).toList
  (leadingNumber? v).map fun n => if Text.occursIn "khz".toList v then n * 1000.0 else n

/-- The frames per second that a text gives. -/
def frameRateNumber? (value : String) : Option Float :=
  (Text.wordChars (firstSpacedAlternative value.toList)).head?.bind rate?

/-- A frame rate in the form in which it is kept: up to three places, without zeros at the end. -/
def writtenRate (rate : Float) : List Char :=
  Text.dropEndText ['.'] (Text.dropEndText ['0'] (Number.writeFixed 3 rate).toList)

theorem bitrate?_eq (value : String) :
    bitrate? value = (bitrateNumber? value).bind wholeMeasure? := by
  unfold bitrate? bitrateNumber?
  dsimp only
  cases leadingNumber? (firstAlternative (respellUnit (Text.lower value).toList)) <;> rfl

theorem sampleRate?_eq (value : String) :
    sampleRate? value = (sampleRateNumber? value).bind wholeMeasure? := by
  unfold sampleRate? sampleRateNumber?
  dsimp only
  cases leadingNumber? (Text.lower (String.ofList (firstAlternative value.toList))).toList <;> rfl

theorem frameRate?_eq (value : String) :
    frameRate? value =
      ((frameRateNumber? value).filter fun x => 0.0 < x && Number.isFinite x).map
        fun x => String.ofList (writtenRate x) := by
  unfold frameRate? frameRateNumber?
  cases Text.wordChars (firstSpacedAlternative value.toList) with
  | nil => rfl
  | cons token _ =>
    simp only [List.head?_cons, Option.bind_some]
    cases rate? token with
    | none => rfl
    | some rate =>
      simp only [Option.filter_some]
      split <;> rfl

end MediaIndex.Quantity
