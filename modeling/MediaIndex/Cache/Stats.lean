import MediaIndex.Cache.Basic

/-!
# Statistics

Counts over all rows, and the playing time of all files together. The times are added up with a
second sum for what rounding loses (`CompensatedSum`), so that the order of the files hardly
matters.
-/

set_option autoImplicit false

namespace MediaIndex

/-! ## Sums -/

/-- A sum of numbers, and what rounding has lost of it. -/
structure CompensatedSum where
  sum : Float := 0.0
  lost : Float := 0.0

namespace CompensatedSum

/-- Adds a number. What is lost are the last digits of the lesser one. -/
def add (s : CompensatedSum) (x : Float) : CompensatedSum :=
  let t := s.sum + x
  let lost := if x.abs < s.sum.abs then (s.sum - t) + x else (x - t) + s.sum
  ⟨t, s.lost + lost⟩

/-- The sum, with what was lost put back; where that is beyond all bounds it is left out. -/
def total (s : CompensatedSum) : Float :=
  if Number.isFinite s.lost then s.sum + s.lost else s.sum

end CompensatedSum

/-! ## Statistics -/

/-- Names, each with how often it occurs. -/
abbrev Tally : Type := List (String × Nat)

/-- What is told about a cache. -/
structure CacheStats where
  files : Nat
  audioTracks : Nat
  subtitleTracks : Nat
  thumbnails : Nat
  hours : Float
  /-- The most frequent first, and equally frequent ones by name. -/
  mediaTypes : Tally
  containers : Tally

namespace Cache

/-- How often each value occurs, in order of the first occurrences. -/
def countEach {α : Type} [BEq α] (values : List α) : List (α × Nat) :=
  values.eraseDups.map fun v => (v, values.count v)

/-- Puts the most frequent first, and equally frequent ones in order of their names. -/
def ranked (t : Tally) : Tally :=
  t.mergeSort fun a b => b.2 < a.2 || (a.2 == b.2 && !(b.1 < a.1))

/-- The column of the stored types in a tally, which stands first there. -/
def typeColumn : Column := { FileColumn.mediaType.info with place := 0 }

/-- How many files have each stored media type, the most frequent first. Types that are stored
differently are told apart, even where they mean the same. -/
def typeTally (c : Cache) : List (Cell × Nat) :=
  (countEach (c.rows.map (·.cells .mediaType))).mergeSort fun a b => b.2 ≤ a.2

/-- The media type that is stored in a cell. -/
def namedType (e : Cell × Nat) : Except CellFault (String × Nat) :=
  (Cell.readMediaType typeColumn e.1).map fun t => (t.name, e.2)

/-- The name of a container as it is stored. -/
def containerText (r : FileRow) : String :=
  match r.cells .container with
  | .text s => s
  | _ => "unknown"

/-- The duration of a file as a number, if there is one. -/
def duration? (r : FileRow) : Option Float :=
  match r.cells .duration with
  | .real x => some x
  | .integer n => some (Float.ofInt n)
  | _ => none

/-- The playing time of all files, in hours. A sum that is no number counts as none. -/
def hours (c : Cache) : Float :=
  let total := ((c.rows.filterMap duration?).foldl CompensatedSum.add {}).total
  if Number.isNotANumber total then 0.0 else total / 3600.0

/-- The statistics of a cache whose files have some media types. -/
def statsWith (c : Cache) (mediaTypes : Tally) : CacheStats where
  files := c.rows.length
  audioTracks := (c.rows.flatMap (·.audio)).length
  subtitleTracks := (c.rows.flatMap (·.subtitles)).length
  thumbnails := (c.rows.filter hasThumbnail).length
  hours := c.hours
  mediaTypes := ranked mediaTypes
  containers := ranked (countEach (c.rows.map containerText))

/-- The statistics of a cache. A stored media type that cannot be read makes them impossible. -/
def stats (c : Cache) : Except CacheFailure CacheStats :=
  match c.typeTally.mapM namedType with
  | .ok types => .ok (c.statsWith types)
  | .error fault => .error (.misfit fault)

end Cache

end MediaIndex
