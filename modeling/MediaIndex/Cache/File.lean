import MediaIndex.Cache.Basic

/-!
# Cache files

A cache is kept in a file as text. Each line is an object whose members are texts: first the notes,
then the last number that was used, then for each row of a file one line, with the lines of its
tracks after it. A cell is written as a letter for its kind and its value; a cell without a value is
left out.

Refusals are not kept: they hold for as long as a cache is open.
-/

set_option autoImplicit false

namespace MediaIndex

namespace Cell

/-- The text of a cell, if it has a value. -/
def encode? : Cell → Option String
  | .null => none
  | .integer n => some ("i" ++ toString n)
  | .real x => some ("r" ++ Number.writeFloat x)
  | .text s => some ("t" ++ s)
  | .blob b =>
    some ("b" ++ String.ofList (b.data.toList.flatMap fun x =>
      [Json.hexDigit (x.toNat / 16), Json.hexDigit (x.toNat % 16)]))

/-- Reads an integer. -/
def decodeInteger? (cs : List Char) : Option Int :=
  match cs with
  | '-' :: digits =>
    (Number.readNat? least.natAbs (String.ofList digits)).map fun n => -(n : Int)
  | digits => (Number.readNat? greatest.natAbs (String.ofList digits)).map fun n => (n : Int)

/-- Reads bytes. -/
def decodeBytes? : List Char → Option (List UInt8)
  | [] => some []
  | a :: b :: rest =>
    match Json.hexNumber? [a, b], decodeBytes? rest with
    | some n, some bytes => some (UInt8.ofNat n :: bytes)
    | _, _ => none
  | [_] => none

/-- Reads the text of a cell. -/
def decode? (s : String) : Option Cell :=
  match s.toList with
  | 'i' :: rest => (decodeInteger? rest).map .integer
  | 'r' :: rest => (Number.readFloat? (String.ofList rest)).map .real
  | 't' :: rest => some (.text (String.ofList rest))
  | 'b' :: rest => (decodeBytes? rest).map fun bytes => .blob ⟨bytes.toArray⟩
  | _ => none

end Cell

namespace Cache

/-- The members of a line. -/
abbrev Line : Type := List (String × String)

/-- The value of a member. -/
def member? (line : Line) (key : String) : Option String :=
  (line.find? fun m => m.1 == key).map (·.2)

/-! ## Writing -/

/-- The members for some cells. -/
def cellMembers {κ : Type} (all : List κ) (info : κ → Column) (cells : κ → Cell) : Line :=
  all.filterMap fun k => (cells k).encode?.map fun v => ((info k).name, v)

/-- The lines for a row. -/
def rowLines (r : FileRow) : List Line :=
  ([("row", toString r.number), ("path", r.path), ("modified", toString r.modified)] ++
      cellMembers FileColumn.all FileColumn.info r.cells) ::
    ((r.audio.map fun t =>
        ("audio", toString t.place) :: cellMembers AudioColumn.all AudioColumn.info t.cells) ++
      r.subtitles.map fun t =>
        ("subtitle", toString t.place) ::
          cellMembers SubtitleColumn.all SubtitleColumn.info t.cells)

/-- The lines for a cache. -/
def lines (c : Cache) : List Line :=
  ((c.notes.getD []).map fun n => [("note", n.1), ("value", n.2)]) ++
    [[("last", toString c.lastNumber)]] ++ c.rows.flatMap rowLines

/-- The text of a cache. -/
def encode (c : Cache) : String :=
  String.join (c.lines.map fun line => Json.writeTexts line ++ "\n")

/-! ## Reading -/

/-- Reads the cells of a line; `none` if one of them is malformed. -/
def lineCells? {κ : Type} [DecidableEq κ] (info : κ → Column) (line : Line) :
    List κ → Option (κ → Cell)
  | [] => some fun _ => .null
  | k :: rest =>
    match lineCells? info line rest, (member? line (info k).name).map Cell.decode? with
    | some cells, none => some cells
    | some cells, some (some v) => some fun j => if j = k then v else cells j
    | _, _ => none

/-- Reads a row of a track that stands on the row before it. -/
def addTrackLine? (line : Line) (r : FileRow) : Option FileRow :=
  match (member? line "audio").bind fun s => Cell.decodeInteger? s.toList,
      (member? line "subtitle").bind fun s => Cell.decodeInteger? s.toList with
  | some place, _ =>
    (lineCells? AudioColumn.info line AudioColumn.all).map fun cells =>
      { r with audio := r.audio ++ [⟨place, cells⟩] }
  | none, some place =>
    (lineCells? SubtitleColumn.info line SubtitleColumn.all).map fun cells =>
      { r with subtitles := r.subtitles ++ [⟨place, cells⟩] }
  | none, none => none

/-- Reads the row of a file. -/
def fileLine? (line : Line) : Option FileRow :=
  match (member? line "row").bind (Number.readNat? Cell.greatest.natAbs), member? line "path",
      (member? line "modified").bind fun s => Cell.decodeInteger? s.toList with
  | some number, some path, some modified =>
    (lineCells? FileColumn.info line FileColumn.all).map fun cells =>
      { number, path, modified, cells }
  | _, _, _ => none

/-- Adds a line to what was read before it. -/
def addLine? (c : Cache) (line : Line) : Option Cache :=
  match member? line "note", member? line "last", member? line "row" with
  | some key, _, _ =>
    some { c with notes := some (c.notes.getD [] ++ [(key, (member? line "value").getD "")]) }
  | none, some n, _ =>
    (Number.readNat? Cell.greatest.natAbs n).map fun n => { c with lastNumber := n }
  | none, none, some _ => (fileLine? line).map fun r => { c with rows := c.rows ++ [r] }
  | none, none, none =>
    match c.rows.getLast? with
    | none => none
    | some r => (addTrackLine? line r).map fun r => { c with rows := c.rows.dropLast ++ [r] }

/-- Adds lines in order. -/
def addLines? (c : Cache) : List String → Option Cache
  | [] => some c
  | line :: rest =>
    match (Json.readTexts? line).bind (addLine? c) with
    | none => none
    | some c => c.addLines? rest

/-- Reads a cache. An empty text is a cache in which nothing is noted. -/
def decode? (text : String) : Option Cache :=
  addLines? { notes := none } (Text.lines text)

end Cache

end MediaIndex
