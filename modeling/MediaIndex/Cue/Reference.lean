import MediaIndex.Number.Decimal
import MediaIndex.Path

/-!
# References to a part of a file

A track of a cue sheet has no file of its own. It is kept under a reference, one line of text: the
path of the file, the bounds of the clip in seconds, and perhaps a title, with `>` between them. The
fields are not escaped, so a path or a title that contains the mark does not come back.
-/

set_option autoImplicit false

namespace MediaIndex

/-- A part of a file. An infinite end is the end of the file. -/
structure ClipReference where
  path : Path
  start : Float
  finish : Float
  title : Option String

namespace ClipReference

/-- The mark between the fields. -/
def mark : Char := '>'

/-- The fields of a reference. -/
def fields (r : ClipReference) : List String :=
  [r.path, Number.writeFloat r.start, Number.writeFloat r.finish] ++ r.title.toList

/-- The text of a reference. -/
def text (r : ClipReference) : String := (String.ofList [mark]).intercalate r.fields

/-- Reads the fields of a reference; the title may be missing, the path may not be empty. -/
def ofFields? : List String → Option ClipReference
  | path :: start :: finish :: more =>
    if path.isEmpty || 1 < more.length then none
    else
      match Number.readFloat? start, Number.readFloat? finish with
      | some start, some finish => some ⟨path, start, finish, more.head?⟩
      | _, _ => none
  | _ => none

/-- Reads a reference. -/
def ofText? (s : String) : Option ClipReference := ofFields? (Text.pieces mark s)

/-- The path in the text of a reference. -/
def pathOf? (s : String) : Option Path := (ofText? s).map (·.path)

end ClipReference

end MediaIndex
