import MediaIndex.Text.Lower
import MediaIndex.Text.Search
import MediaIndex.Number.Decimal

/-!
# Quantities — the measured values of a report

Reports write numbers for people: with units, with blanks between the thousands, and with several
alternatives for one stream (`48000 / 24000`). One reader per quantity turns such a text into a
number, or into nothing where the text cannot be read.

Bit rate, sampling rate, channels, delay, duration and size are the *first* alternative, the bits of
a sample the *last*. The tools whose reports are read do not agree on which one counts, and both
conventions are kept. A frame rate may be a fraction, so its alternatives are separated by a slash
between blanks only.
-/

set_option autoImplicit false

namespace MediaIndex.Quantity

/-! ## Alternatives -/

/-- The first alternative, without the blanks around it. -/
def firstAlternative (cs : List Char) : List Char :=
  Text.trimChars (Text.beforeChar '/' cs)

/-- The last alternative, without the blanks around it. -/
def lastAlternative (cs : List Char) : List Char :=
  Text.trimChars (Text.afterLastChar '/' cs)

/-- The first of the alternatives that a slash between blanks separates. -/
def firstSpacedAlternative (cs : List Char) : List Char :=
  Text.trimChars (Text.beforeText [' ', '/', ' '] cs)

/-! ## Numbers before units -/

/-- The characters a number before its unit is made of. -/
def isNumberPart (c : Char) : Bool :=
  Number.isAsciiDigit c || c == ' ' || c == '.' || c == '-' || c == Char.ofNat 0xA0

/-- The number a text begins with, its thousands separated by blanks or not; what follows it is a
unit. -/
def leadingNumber? (cs : List Char) : Option Float :=
  let compact := (cs.takeWhile isNumberPart).filter (!Text.isBlank ·)
  if compact.isEmpty then none else Number.readFloat? (String.ofList compact)

/-- The largest value of a measured quantity. -/
def limit : Nat := 0xffffffff

/-- A positive measure up to `limit`, rounded to a whole number. -/
def wholeMeasure? (x : Float) : Option UInt32 :=
  if x ≤ 0.0 || x > Float.ofNat limit then none
  else some (UInt32.ofNat (Number.nearestWithin 0 limit x).toNat)

/-- A positive whole number up to `limit`. -/
def positiveCount? (s : String) : Option UInt32 :=
  ((Number.readNat? limit s).filter (0 < ·)).map UInt32.ofNat

/-! ## The readers -/

/-- Writes the unit `b/s` so that its slash does not separate alternatives. -/
def respellUnit : List Char → List Char
  | 'b' :: '/' :: 's' :: rest => 'b' :: 'p' :: 's' :: respellUnit rest
  | c :: rest => c :: respellUnit rest
  | [] => []

/-- A bit rate in bits per second. -/
def bitrate? (value : String) : Option UInt32 :=
  let v := firstAlternative (respellUnit (Text.lower value).toList)
  match leadingNumber? v with
  | none => none
  | some n =>
    wholeMeasure?
      (if Text.occursIn "mbps".toList v then n * 1000000.0
        else if Text.occursIn "kbps".toList v then n * 1000.0
        else n)

/-- A sampling rate in hertz. -/
def sampleRate? (value : String) : Option UInt32 :=
  let v := (Text.lower (String.ofList (firstAlternative value.toList))).toList
  match leadingNumber? v with
  | none => none
  | some n => wholeMeasure? (if Text.occursIn "khz".toList v then n * 1000.0 else n)

/-- The channels of a named loudspeaker layout. -/
def layoutChannels? : String → Option UInt32
  | "mono" => some 1
  | "stereo" | "downmix" => some 2
  | "2.1" | "3.0" => some 3
  | "quad" | "4.0" | "3.1" => some 4
  | "5.0" | "4.1" => some 5
  | "5.1" | "6.0" => some 6
  | "6.1" | "7.0" => some 7
  | "7.1" => some 8
  | _ => none

/-- A number of channels: a layout's name or a count, with a remark in parentheses or without. -/
def channels? (value : String) : Option UInt32 :=
  let v := (Text.lower (String.ofList (firstAlternative value.toList))).toList
  let layout := Text.trimChars (Text.beforeChar '(' v)
  match layoutChannels? (String.ofList layout) with
  | some n => some n
  | none =>
    positiveCount?
      (Text.trim
        (String.ofList
          (Text.dropEndText "channel".toList (Text.dropEndText "channels".toList layout))))

/-- The bits of a sample. -/
def bitsPerSample? (value : String) : Option UInt32 :=
  let v := (Text.lower (String.ofList (lastAlternative value.toList))).toList
  positiveCount?
    (Text.trim (String.ofList (Text.dropEndText "bit".toList (Text.dropEndText "bits".toList v))))

/-- The delay of an audio stream against the video, in milliseconds. -/
def delay? (value : String) : Option Int32 :=
  let v := (Text.lower (String.ofList (firstAlternative value.toList))).toList
  (Number.readFloat? (Text.trim (String.ofList (Text.dropEndText "ms".toList v)))).map fun ms =>
    Int32.ofInt (Number.nearestWithin (-0x80000000) 0x7fffffff ms)

/-- Hours, minutes and seconds, or any longer or shorter row of numbers of which each counts sixty
of the next. -/
def sexagesimal? (parts : List (List Char)) : Option Float :=
  parts.foldl
    (fun total part =>
      match total, Number.readFloat? (Text.trim (String.ofList part)) with
      | some t, some x => some (t * 60.0 + x)
      | _, _ => none)
    (some 0.0)

/-- A duration in seconds. -/
def duration? (value : String) : Option Float :=
  if Text.sameLetters (Text.trim value) "n/a" then none
  else
    let v := firstAlternative value.toList
    let seconds :=
      if v.contains ':' then sexagesimal? (Text.cutWhere (· == ':') v)
      else Number.readFloat? (String.ofList v)
    seconds.filter fun s => Number.isFinite s && 0.0 ≤ s

/-- A size in pixels; a fraction of a pixel is dropped. -/
def dimension? (value : String) : Option UInt32 :=
  match leadingNumber? (firstAlternative value.toList) with
  | none => none
  | some n =>
    if 1.0 ≤ n && n ≤ Float.ofNat limit then
      some (UInt32.ofNat (Number.truncateWithin 0 limit n).toNat)
    else none

/-- A rate: a decimal, or a fraction with a positive denominator. -/
def rate? (token : List Char) : Option Float :=
  if token.contains '/' then
    match Number.readFloat? (String.ofList (Text.beforeChar '/' token)),
        Number.readFloat? (String.ofList ((token.dropWhile (· != '/')).drop 1)) with
    | some num, some den => if 0.0 < den then some (num / den) else none
    | _, _ => none
  else Number.readFloat? (String.ofList token)

/-- A frame rate, written out with up to three places. -/
def frameRate? (value : String) : Option String :=
  match Text.wordChars (firstSpacedAlternative value.toList) with
  | [] => none
  | token :: _ =>
    match rate? token with
    | none => none
    | some rate =>
      if 0.0 < rate && Number.isFinite rate then
        some (String.ofList
          (Text.dropEndText ['.']
            (Text.dropEndText ['0'] (Number.writeFixed 3 rate).toList)))
      else none

end MediaIndex.Quantity
