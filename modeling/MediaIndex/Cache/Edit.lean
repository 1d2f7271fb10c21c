import MediaIndex.Cache.Basic

/-!
# Edits — changing stored values by hand

Somebody may change a cache without going through the library. An edit puts a value into one cell;
the column converts it as it does with every value, and the rules of the table hold.
-/

set_option autoImplicit false

namespace MediaIndex.Cache

/-- The column with a given name. -/
def fileColumn? (name : String) : Option FileColumn :=
  FileColumn.all.find? fun k => k.info.name == name

/-- The column with a given name. -/
def audioColumn? (name : String) : Option AudioColumn :=
  AudioColumn.all.find? fun k => k.info.name == name

/-- The column with a given name. -/
def subtitleColumn? (name : String) : Option SubtitleColumn :=
  SubtitleColumn.all.find? fun k => k.info.name == name

/-- The failure of an edit that leaves a column without the value that it has to hold. -/
def missing (table column : String) : CacheFailure :=
  .broken ("NOT NULL constraint failed: " ++ table ++ "." ++ column)

/-- The value that a column stores, if the rules of the table allow it. -/
def admitted (table : String) (column : Column) (value : Cell) : Except CacheFailure Cell :=
  match value.converted column.affinity with
  | .null =>
    if column.required then .error (missing table column.name) else .ok .null
  | c => .ok c

/-- Puts a value into one of some cells. -/
def setCell {κ : Type} [DecidableEq κ] (cells : κ → Cell) (k : κ) (value : Cell) : κ → Cell :=
  fun j => if j = k then value else cells j

/-- Changes the row with a given key, if there is one. Answers how many rows were changed. -/
def modifyRow (c : Cache) (path : Path) (modified : Timestamp)
    (change : FileRow → Except CacheFailure (FileRow × Nat)) : Except CacheFailure (Cache × Nat) :=
  match c.row? path modified with
  | none => .ok (c, 0)
  | some r =>
    (change r).map fun changed =>
      ({ c with
          rows := c.rows.map fun other => if other.number = r.number then changed.1 else other },
        changed.2)

/-- Puts a value into a cell of the row for a file. The key of a row may be changed too, unless
another row has that key. -/
def editFile (c : Cache) (path : Path) (modified : Timestamp) (column : String) (value : Cell) :
    Except CacheFailure (Cache × Nat) :=
  c.modifyRow path modified fun r =>
    let rekey (path : Path) (modified : Timestamp) : Except CacheFailure (FileRow × Nat) :=
      if (c.row? path modified).any fun other => other.number != r.number then
        .error (.broken "UNIQUE constraint failed: files.filename, files.modified")
      else .ok ({ r with path, modified }, 1)
    match column, value with
    | "filename", .text path => rekey path r.modified
    | "modified", .integer n => rekey r.path n
    | "filename", .null | "modified", .null => .error (missing "files" column)
    | _, _ =>
      match fileColumn? column with
      | none => .error (.broken ("no such column: " ++ column))
      | some k =>
        (admitted "files" k.info value).map fun v => ({ r with cells := setCell r.cells k v }, 1)

/-- Puts a value into a cell of one of some tracks. The place of a track may be changed too, unless
another track has that place. -/
def editTrack {κ : Type} [DecidableEq κ] (table : String) (column? : String → Option κ)
    (info : κ → Column) (place : Int) (column : String) (value : Cell) (rows : List (TrackRow κ)) :
    Except CacheFailure (List (TrackRow κ) × Nat) :=
  match rows.find? fun t => t.place == place with
  | none => .ok (rows, 0)
  | some t =>
    match column, value with
    | "id", .integer n =>
      if n ≠ place ∧ rows.any (fun t => t.place == n) then
        .error (.broken ("UNIQUE constraint failed: " ++ table ++ ".fileid, " ++ table ++ ".id"))
      else .ok (placeTrack ⟨n, t.cells⟩ (rows.filter fun t => t.place != place), 1)
    | _, _ =>
      match column? column with
      | none => .error (.broken ("no such column: " ++ column))
      | some k =>
        (admitted table (info k) value).map fun v =>
          (placeTrack ⟨place, setCell t.cells k v⟩ rows, 1)

/-- Puts a value into a cell of an audio track. -/
def editAudio (c : Cache) (path : Path) (modified : Timestamp) (place : Int) (column : String)
    (value : Cell) : Except CacheFailure (Cache × Nat) :=
  c.modifyRow path modified fun r =>
    (editTrack "audiotracks" audioColumn? AudioColumn.info place column value r.audio).map fun e =>
      ({ r with audio := e.1 }, e.2)

/-- Puts a value into a cell of a subtitle track. -/
def editSubtitle (c : Cache) (path : Path) (modified : Timestamp) (place : Int) (column : String)
    (value : Cell) : Except CacheFailure (Cache × Nat) :=
  c.modifyRow path modified fun r =>
    (editTrack "subtracks" subtitleColumn? SubtitleColumn.info place column value r.subtitles).map
      fun e => ({ r with subtitles := e.1 }, e.2)

/-- Puts a value into a cell of a table. -/
def edit (c : Cache) (table : CacheTable) (path : Path) (modified : Timestamp) (place : Int)
    (column : String) (value : Cell) : Except CacheFailure (Cache × Nat) :=
  match table with
  | .files => c.editFile path modified column value
  | .audio => c.editAudio path modified place column value
  | .subtitles => c.editSubtitle path modified place column value

/-! ## Notes -/

/-- The failure of an edit of notes that are not there. -/
def noNotes : CacheFailure := .broken "no such table: metadata"

/-- Changes the notes that have a given key; answers how many. -/
def editNotes (c : Cache) (key : String) (change : String × String → String × String) :
    Except CacheFailure (Cache × Nat) :=
  match c.notes with
  | none => .error noNotes
  | some notes =>
    .ok ({ c with notes := some (notes.map fun n => if n.1 == key then change n else n) },
      (notes.filter fun n => n.1 == key).length)

/-- Adds a note under a key that has none. -/
def addNote (c : Cache) (key value : String) : Except CacheFailure (Cache × Nat) :=
  match c.notes with
  | none => .error noNotes
  | some notes =>
    if notes.any fun n => n.1 == key then .error (.broken "UNIQUE constraint failed: metadata.key")
    else .ok ({ c with notes := some (notes ++ [(key, value)]) }, 1)

/-- Removes all notes; answers how many. -/
def clearNotes (c : Cache) : Except CacheFailure (Cache × Nat) :=
  match c.notes with
  | none => .error noNotes
  | some notes => .ok ({ c with notes := some [] }, notes.length)

/-- Removes the table of the notes. -/
def dropNotes (c : Cache) : Cache := { c with notes := none }

end MediaIndex.Cache
