import MediaIndex.Cache.Row
import MediaIndex.Path

/-!
# The cache — descriptors by path and time

A descriptor is kept under the path of its file and the time at which the file was last modified, so
that a file that was modified is simply not found. The rows of the tracks hang on the row of the
file, under their place among the tracks of their kind: with the file they disappear.

Storing again under the same key writes the new tracks over the old ones, place by place, and leaves
the old tracks at the places after them. A number that was given to a row is never given again, and
storing uses one up even where the row is there already.

A table may be made to refuse new rows. What is stored in one go is then not stored at all.
-/

set_option autoImplicit false

namespace MediaIndex

/-- A time of modification, in milliseconds since the beginning of 1970. -/
abbrev Timestamp : Type := Int

/-- The row of a track, with its place. -/
structure TrackRow (κ : Type) where
  place : Int
  cells : κ → Cell

/-- The row of a file, with those of its tracks in ascending order of their places. -/
structure FileRow where
  number : Nat
  path : Path
  modified : Timestamp
  cells : FileCells
  audio : List (TrackRow AudioColumn) := []
  subtitles : List (TrackRow SubtitleColumn) := []

/-- The tables. -/
inductive CacheTable where
  | files | audio | subtitles
  deriving Repr, DecidableEq

/-- A refusal of new rows. -/
structure Refusal where
  table : CacheTable
  /-- Whether only rows for a part of a file are refused. -/
  partsOnly : Bool
  deriving Repr, DecidableEq

/-- Why the cache did not do as it was told. -/
inductive CacheFailure where
  /-- A table refuses new rows. -/
  | refused
  /-- A stored value does not fit its field. -/
  | misfit (fault : CellFault)
  /-- A change would break a rule of the table. -/
  | broken (rule : String)
  /-- The file of the cache cannot be opened. -/
  | unopened (path : Path)
  /-- The file of the cache holds something else. -/
  | notACache
  deriving Repr, DecidableEq

/-- The text of a failure, in the words of the store. -/
def CacheFailure.message : CacheFailure → String
  | .refused => "refused"
  | .misfit fault => fault.message
  | .broken rule => rule
  | .unopened path => "unable to open database file: " ++ path
  | .notACache => "file is not a database"

/-- The text of a failure, with the store named. -/
def CacheFailure.text (e : CacheFailure) : String := "SQLite error: " ++ e.message

/-- The number of a failure with its general text, where there is one. -/
def CacheFailure.code? : CacheFailure → Option String
  | .unopened _ => some "Error code 14: Unable to open the database file"
  | .notACache => some "Error code 26: File opened that is not a database file"
  | _ => none

/-- A failure from its text to its innermost cause. -/
def CacheFailure.causes (e : CacheFailure) : List String := [e.text, e.message] ++ e.code?.toList

/-- The version of the tables. A cache of another version is not read but begun again. -/
def cacheVersion : String := "mediameta-3"

/-- A cache. Its rows are in ascending order of their numbers. -/
structure Cache where
  rows : List FileRow := []
  /-- The last number that was used. -/
  lastNumber : Nat := 0
  /-- What is noted about the cache itself, if there is a table for it. -/
  notes : Option (List (String × String)) := some [("version", cacheVersion)]
  refusals : List Refusal := []

namespace Cache

/-- A cache without rows. -/
def empty : Cache := {}

/-- Whether a row has a given key. -/
def hasKey (path : Path) (modified : Timestamp) (r : FileRow) : Bool :=
  r.path == path && r.modified == modified

/-! ## Reading -/

/-- The row with a given key. -/
def row? (c : Cache) (path : Path) (modified : Timestamp) : Option FileRow :=
  c.rows.find? (hasKey path modified)

/-- Whether there is a row with a given key. -/
def contains (c : Cache) (path : Path) (modified : Timestamp) : Bool :=
  (c.row? path modified).isSome

/-- Reads the tracks that some rows hold. -/
def readTracks {κ α : Type} (read : (κ → Cell) → Except CellFault α) :
    List (TrackRow κ) → Except CellFault (List α)
  | [] => .ok []
  | r :: rest =>
    match read r.cells with
    | .error e => .error e
    | .ok t => (readTracks read rest).map (t :: ·)

/-- Reads a row with its tracks. A descriptor that was stored is complete. -/
def readRow (r : FileRow) : Except CellFault Descriptor :=
  match r.cells.descriptor with
  | .error e => .error e
  | .ok d =>
    match readTracks AudioCells.track r.audio with
    | .error e => .error e
    | .ok audio =>
      (readTracks SubtitleCells.track r.subtitles).map fun subtitles =>
        { d with audioTracks := audio, subtitleTracks := subtitles }.markParsed

/-- The descriptor under a key, if there is one. -/
def get (c : Cache) (path : Path) (modified : Timestamp) :
    Except CacheFailure (Option Descriptor) :=
  match c.row? path modified with
  | none => .ok none
  | some r =>
    match readRow r with
    | .ok d => .ok (some d)
    | .error fault => .error (.misfit fault)

/-! ## Storing -/

/-- Puts a track at its place, over the one that is there. -/
def placeTrack {κ : Type} (t : TrackRow κ) : List (TrackRow κ) → List (TrackRow κ)
  | [] => [t]
  | r :: rest =>
    if t.place < r.place then t :: r :: rest
    else if t.place = r.place then t :: rest
    else r :: placeTrack t rest

/-- Puts tracks at the places from one on. -/
def placeTracks {κ : Type} : (place : Int) → List (κ → Cell) → List (TrackRow κ) → List (TrackRow κ)
  | _, [], rows => rows
  | place, cells :: rest, rows => placeTracks (place + 1) rest (placeTrack ⟨place, cells⟩ rows)

/-- Puts a descriptor into a row. -/
def fillRow (d : Descriptor) (r : FileRow) : FileRow :=
  { r with
    cells := .ofDescriptor d
    audio := placeTracks 0 (d.audioTracks.map AudioCells.ofTrack) r.audio
    subtitles := placeTracks 0 (d.subtitleTracks.map SubtitleCells.ofTrack) r.subtitles }

/-- Whether a path names a part of a file, as far as a table can see. -/
def namesPart (path : Path) : Bool := path.toList.contains '>'

/-- Whether a table refuses a new row for a path. -/
def refuses (c : Cache) (table : CacheTable) (path : Path) : Bool :=
  c.refusals.any fun r => r.table == table && (!r.partsOnly || namesPart path)

/-- Whether storing a descriptor is refused by one of the tables that it needs. -/
def refusesAny (c : Cache) (path : Path) (d : Descriptor) : Bool :=
  c.refuses .files path || (!d.audioTracks.isEmpty && c.refuses .audio path) ||
    (!d.subtitleTracks.isEmpty && c.refuses .subtitles path)

/-- Stores a descriptor whatever the tables refuse; answers also the number of its row. -/
def put (c : Cache) (path : Path) (modified : Timestamp) (d : Descriptor) : Cache × Nat :=
  let fresh := c.lastNumber + 1
  match c.row? path modified with
  | some r =>
    ({ c with
        rows := c.rows.map fun r => if hasKey path modified r then fillRow d r else r
        lastNumber := fresh }, r.number)
  | none =>
    let r : FileRow := { number := fresh, path, modified, cells := fun _ => .null }
    ({ c with rows := c.rows ++ [fillRow d r], lastNumber := fresh }, fresh)

/-- Stores a descriptor; answers also the number of its row. -/
def upsert (c : Cache) (path : Path) (modified : Timestamp) (d : Descriptor) :
    Except CacheFailure (Cache × Nat) :=
  if c.refusesAny path d then .error .refused else .ok (c.put path modified d)

/-! ## Thumbnails -/

/-- Whether a row holds a thumbnail. -/
def hasThumbnail (r : FileRow) : Bool :=
  match r.cells .thumbnail with
  | .null => false
  | _ => true

/-- Takes the thumbnail out of the cells of a file. -/
def withoutThumbnail (cells : FileCells) : FileCells := fun k =>
  if [.thumbnail, .thumbnailType, .thumbnailWidth, .thumbnailHeight].contains k then .null
  else cells k

/-- Drops all thumbnails; answers also how many there were. -/
def dropThumbnails (c : Cache) : Cache × Nat :=
  ({ c with
      rows := c.rows.map fun r =>
        if hasThumbnail r then { r with cells := withoutThumbnail r.cells } else r },
    (c.rows.filter hasThumbnail).length)

/-! ## Opening again -/

/-- Opens a cache that was closed. If its notes are not just the version, as it should be, then all
its rows are dropped, and it begins anew. -/
def reopen (c : Cache) : Cache :=
  if c.notes == some [("version", cacheVersion)] then c else empty

end Cache

end MediaIndex
