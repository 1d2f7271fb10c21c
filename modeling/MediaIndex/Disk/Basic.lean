import MediaIndex.Cache.Basic

/-!
# Disks — what is asked of the files around

Everything that scanning and resolving want to know about files is in one record, so that the same
definitions serve whatever the files are: a tree that was read before, or files that somebody
imagines.
-/

set_option autoImplicit false

namespace MediaIndex

/-- Why a file cannot be read. -/
inductive FileFault where
  | missing
  | notDirectory
  | isDirectory
  | endlessLinks
  /-- Its bytes are no text. -/
  | notText
  deriving Repr, DecidableEq

/-- The text of a fault. -/
def FileFault.message : FileFault → String
  | .missing => "No such file or directory (os error 2)"
  | .notDirectory => "Not a directory (os error 20)"
  | .isDirectory => "Is a directory (os error 21)"
  | .endlessLinks => "Too many levels of symbolic links (os error 40)"
  | .notText => "stream did not contain valid UTF-8"

/-- What can be asked about files. -/
structure Disk where
  /-- When a file was last modified; a time before 1970 counts as its beginning. -/
  modified : Path → Except FileFault Timestamp
  /-- The size of a file in bytes. -/
  size? : Path → Option UInt64
  /-- The text of a file. -/
  text : Path → Except FileFault String
  /-- All files below a path, or the one at the path. -/
  files : Path → List Path

namespace Disk

/-- When a file was last modified, if that can be told. -/
def modified? (disk : Disk) (path : Path) : Option Timestamp := (disk.modified path).toOption

end Disk

end MediaIndex
