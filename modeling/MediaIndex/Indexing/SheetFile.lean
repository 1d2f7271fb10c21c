import MediaIndex.Cue.Composition
import MediaIndex.Disk.Basic

/-!
# Cue sheets on a disk

A sheet is read from its file, and the files it names are looked for in its directory.
-/

set_option autoImplicit false

namespace MediaIndex

/-- Why a sheet cannot be loaded. -/
inductive SheetFailure where
  | unreadable (path : Path) (fault : FileFault)
  | malformed (error : CueError)
  deriving Repr, DecidableEq

/-- The text of a failure. -/
def SheetFailure.message : SheetFailure → String
  | .unreadable path fault => "cannot read " ++ path ++ ": " ++ fault.message
  | .malformed error => error.message

namespace CueSheet

/-- Loads a sheet. -/
def load (disk : Disk) (path : Path) : Except SheetFailure CueSheet :=
  match disk.text path with
  | .error fault => .error (.unreadable path fault)
  | .ok text =>
    match ofText text with
    | .error e => .error (.malformed e)
    | .ok s => .ok s

/-- Composes the tracks of a sheet on a disk. A sheet that cannot be loaded has no tracks. -/
def composeFile (disk : Disk) (style : CompositionStyle) (probe : Path → ProbeAnswer)
    (path : Path) : Composed :=
  match load disk path with
  | .ok s => s.compose style ((Path.parent? path).getD "") probe
  | .error _ => ⟨[], []⟩

end CueSheet

end MediaIndex
