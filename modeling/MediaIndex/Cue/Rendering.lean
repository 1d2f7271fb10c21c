import MediaIndex.Cue.Sheet
import MediaIndex.Descriptor

/-!
# The text of a cue sheet

The canonical text: what belongs to the whole sheet first, then file by file and track by track, one
fact a line, with a blank between its words, and every text between quotes. Only what is there gets
a line.

Tools differ in the zeros that they put in front of a number: `width` is how many digits a number
has at least.
-/

set_option autoImplicit false

namespace MediaIndex

variable (width : Nat)

/-- The text of a position. -/
def CueTime.render (t : CueTime) : String :=
  ":".intercalate
    [padNumber width t.minutes.toNat, padNumber width t.seconds.toNat,
      padNumber width t.frames.toNat]

/-- A text between quotes. -/
def quoted (text : String) : String := "\"" ++ text ++ "\""

/-- The line that gives a text, if there is one. -/
def optionalLine (command : List String) (value : Option String) : List String :=
  (value.map fun v => " ".intercalate (command ++ [quoted v])).toList

/-- The lines for the title, the performer and the songwriter. -/
def CueCredits.lines (c : CueCredits) : List String :=
  optionalLine ["TITLE"] c.title ++ optionalLine ["PERFORMER"] c.performer ++
    optionalLine ["SONGWRITER"] c.songwriter

/-- The line for an index. -/
def CueIndex.line (i : CueIndex) : String :=
  " ".intercalate ["INDEX", padNumber width i.number.toNat, i.position.render width]

/-- The lines for a track. -/
def CueTrack.lines (t : CueTrack) : List String :=
  " ".intercalate ["TRACK", padNumber width t.number.toNat, t.dataType] ::
    (t.credits.lines ++ t.indices.map (CueIndex.line width))

/-- The lines for a section. -/
def CueSection.lines (f : CueSection) : List String :=
  " ".intercalate ["FILE", quoted f.file, f.fileType] :: f.tracks.flatMap (CueTrack.lines width)

/-- The lines for a sheet. -/
def CueSheet.lines (s : CueSheet) : List String :=
  optionalLine ["REM", "GENRE"] s.genre ++ optionalLine ["REM", "DATE"] s.date ++
    s.credits.lines ++ s.sections.flatMap (CueSection.lines width)

/-- The text of a sheet. -/
def CueSheet.render (s : CueSheet) : String := String.join ((s.lines width).map (· ++ "\n"))

end MediaIndex
