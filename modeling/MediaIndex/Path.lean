import MediaIndex.Text.Search

/-!
# Paths

A path is kept as the text it was given as, because that text is what tools are called with and what
the cache is keyed by. What two paths have in common is decided on their *components*: a repeated
slash, a slash at the end and a `.` inside a path name nothing.
-/

set_option autoImplicit false

namespace MediaIndex

/-- A path, in the form it was given. -/
abbrev Path : Type := String

namespace Path

/-- Whether a path starts at the root. -/
def isAbsolute (p : Path) : Bool := Text.startsWith "/" p

/-- Whether a piece between slashes names nothing. -/
def isIdle (piece : String) : Bool := piece.isEmpty || piece == "."

/-- The components of a path. The root counts as one, written `/`; a `.` counts only where a
relative path begins with it. -/
def components (p : Path) : List String :=
  let pieces := Text.pieces '/' p
  let named := pieces.filter fun piece => !isIdle piece
  if p.isAbsolute then "/" :: named
  else if pieces.head? == some "." then "." :: named
  else named

/-- Whether two paths have the same components. -/
def same (p q : Path) : Bool := p.components == q.components

/-- The last component, if it is the name of a file. -/
def fileName? (p : Path) : Option String :=
  p.components.getLast?.filter fun name => !(["/", ".", ".."].contains name)

/-- What stands behind the last full stop of the file name. A name that has no other full stop than
one at its beginning has no extension. -/
def extension? (p : Path) : Option String :=
  p.fileName?.bind fun name =>
    let reversed := name.toList.reverse
    match reversed.dropWhile (· != '.') with
    | [] | [_] => none
    | _ => some (String.ofList (reversed.takeWhile (· != '.')).reverse)

/-- Removes what names nothing from the end of a path, which is given in reverse. The slash of the
root stays. -/
def trimEnd : List Char → List Char
  | '/' :: c :: rest => trimEnd (c :: rest)
  | '.' :: '/' :: rest => trimEnd ('/' :: rest)
  | reversed => reversed
termination_by reversed => reversed.length

/-- The path without its last component. The root and the empty path have no parent. -/
def parent? (p : Path) : Option Path :=
  match trimEnd p.toList.reverse with
  | [] | ['/'] => none
  | reversed => some (String.ofList (trimEnd (reversed.dropWhile (· != '/'))).reverse)

/-- A path that starts in a directory. An absolute path starts at the root all the same. -/
def join (directory p : Path) : Path :=
  if p.isAbsolute then p
  else if directory.isEmpty || Text.endsWith "/" directory then directory ++ p
  else directory ++ "/" ++ p

end Path

end MediaIndex
