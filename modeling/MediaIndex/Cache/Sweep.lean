import MediaIndex.Cache.Basic
import MediaIndex.Cue.Reference

/-!
# Sweeping — dropping rows whose file is gone or has changed

A row is live if the file it is about still has the time of modification that the row was stored
under. A row for a part of a file is about the file in its reference.
-/

set_option autoImplicit false

namespace MediaIndex

/-- What a sweep found. -/
structure SweepReport where
  checked : Nat := 0
  removed : Nat := 0
  /-- The paths of the rows that stay, in order of their numbers. -/
  surviving : List Path := []
  /-- After each row, how many were checked, and how many there are. -/
  progress : List (Nat × Nat) := []
  deriving Repr, DecidableEq

namespace Cache

/-- The file that a row is about. -/
def physicalPath (path : Path) : Path := (ClipReference.pathOf? path).getD path

/-- Whether a row is live, given when files were last modified. -/
def isLive (modified : Path → Option Timestamp) (r : FileRow) : Bool :=
  modified (physicalPath r.path) == some r.modified

/-- Takes one more row into a report. -/
def sweepRow (modified : Path → Option Timestamp) (total : Nat) (report : SweepReport)
    (r : FileRow) : SweepReport :=
  let report :=
    if isLive modified r then { report with surviving := report.surviving ++ [r.path] }
    else { report with removed := report.removed + 1 }
  { report with
    checked := report.checked + 1
    progress := report.progress ++ [(report.checked + 1, total)] }

/-- Drops the rows that are not live. -/
def sweep (c : Cache) (modified : Path → Option Timestamp) : Cache × SweepReport :=
  ({ c with rows := c.rows.filter (isLive modified) },
    c.rows.foldl (sweepRow modified c.rows.length) {})

end Cache

end MediaIndex
