import MediaIndex.Disk.Basic
import MediaIndex.Text.Utf8

/-!
# File trees

A tree of files, directories and symbolic links, kept as a list of nodes under their *places*. A
place is the row of names from the root, without links and without steps back. `locate` follows a
path to a place, which is where links and `..` are dealt with; everything else is a question about
nodes at places.
-/

set_option autoImplicit false

namespace MediaIndex

/-- A place in a tree: the names on the way from the root. -/
abbrev Place : Type := List String

/-- What is at a place. -/
inductive FileNode where
  /-- A file of a size, with its bytes where they were read. -/
  | file (size : UInt64) (content : Option ByteArray) (modified : Timestamp)
  | directory
  | link (target : Path)

/-- A tree. The root is always there and has no node. -/
structure FileTree where
  /-- Where relative paths start. -/
  here : Place
  nodes : List (Place × FileNode) := []

namespace FileTree

/-! ## Nodes -/

/-- The node at a place. -/
def node? (t : FileTree) (p : Place) : Option FileNode :=
  if p.isEmpty then some .directory else (t.nodes.find? fun e => e.1 == p).map (·.2)

/-- Puts a node at a place, instead of the one that is there. -/
def setNode (t : FileTree) (p : Place) (n : FileNode) : FileTree :=
  if (t.node? p).isSome then
    { t with nodes := t.nodes.map fun e => if e.1 == p then (p, n) else e }
  else { t with nodes := t.nodes ++ [(p, n)] }

/-- The names in the directory at a place, in ascending order. -/
def namesIn (t : FileTree) (p : Place) : List String :=
  let names := t.nodes.filterMap fun e =>
    if e.1.dropLast == p && e.1.length == p.length + 1 then e.1.getLast? else none
  names.mergeSort fun a b => !(b < a)

/-! ## Paths -/

/-- How many links may be followed on one way. -/
def linkLimit : Nat := 40

/-- The steps of a path. -/
def steps (path : Path) : List String := Text.pieces '/' path

/-- Follows steps from a place on. Every step needs a directory to start from. -/
def follow (t : FileTree) : (links : Nat) → Place → List String → Except FileFault Place
  | _, p, [] => .ok p
  | links, p, step :: rest =>
    match t.node? p with
    | some .directory =>
      if step.isEmpty || step == "." then follow t links p rest
      else if step == ".." then follow t links p.dropLast rest
      else
        match t.node? (p ++ [step]) with
        | none => .error .missing
        | some (.link target) =>
          if 0 < links then
            follow t (links - 1) (if target.isAbsolute then [] else p) (steps target ++ rest)
          else .error .endlessLinks
        | some _ => follow t links (p ++ [step]) rest
    | some _ => .error .notDirectory
    | none => .error .missing
termination_by links _ steps => (links, steps.length)

/-- The place that a path leads to. -/
def locate (t : FileTree) (path : Path) : Except FileFault Place :=
  if path.isEmpty then .error .missing
  else t.follow linkLimit (if path.isAbsolute then [] else t.here) (steps path)

/-- The node that a path leads to. -/
def lookup (t : FileTree) (path : Path) : Except FileFault FileNode :=
  match t.locate path with
  | .error e => .error e
  | .ok p =>
    match t.node? p with
    | some n => .ok n
    | none => .error .missing

/-- Whether a path leads anywhere. -/
def isThere (t : FileTree) (path : Path) : Bool := (t.lookup path).isOk

/-! ## Reading -/

/-- When a file was last modified. Of directories this is not known here. -/
def modified (t : FileTree) (path : Path) : Except FileFault Timestamp :=
  (t.lookup path).map fun n =>
    match n with
    | .file _ _ time => max time 0
    | _ => 0

/-- The text of a file. One whose bytes were not read counts as no text. -/
def text (t : FileTree) (path : Path) : Except FileFault String :=
  match t.lookup path with
  | .error e => .error e
  | .ok (.file _ content _) =>
    match content.bind Text.decode? with
    | some s => .ok s
    | none => .error .notText
  | .ok _ => .error .isDirectory

/-- The size of a file in bytes. -/
def size? (t : FileTree) (path : Path) : Option UInt64 :=
  match t.lookup path with
  | .ok (.file size _ _) => some size
  | _ => none

/-- The files below a path. Links are followed, but not into a directory that is being walked
through: `inside` are the places of those. The fuel bounds the depth. -/
def walk (t : FileTree) : (fuel : Nat) → (inside : List Place) → Path → List Path
  | 0, _, _ => []
  | fuel + 1, inside, path =>
    match t.locate path with
    | .error _ => []
    | .ok p =>
      match t.node? p with
      | some (.file _ _ _) => [path]
      | some .directory =>
        if inside.contains p then []
        else
          (t.namesIn p).flatMap fun name => walk t fuel (p :: inside) (Path.join path name)
      | _ => []

/-- All files below a path, or the one at the path. -/
def files (t : FileTree) (path : Path) : List Path := t.walk (t.nodes.length + 2) [] path

/-- The tree as a disk. -/
def disk (t : FileTree) : Disk where
  modified := t.modified
  size? := t.size?
  text := t.text
  files := t.files

/-! ## Changing -/

/-- The place where a path to a new file leads: where the way ends early, the rest is taken as
written. -/
def newPlace (t : FileTree) (path : Path) : Place :=
  match t.locate path with
  | .ok p => p
  | .error _ =>
    match path.parent?, path.fileName? with
    | some parent, some name =>
      match t.locate parent with
      | .ok p => p ++ [name]
      | .error _ =>
        (if path.isAbsolute then [] else t.here) ++
          path.components.filter fun c => c != "/" && c != "."
    | _, _ => t.here

/-- Makes the directories on the way to a place. -/
def makeWay (t : FileTree) (p : Place) : FileTree :=
  ((List.range p.length).map p.take).foldl
    (fun t q => if (t.node? q).isSome then t else t.setNode q .directory) t

/-- Writes a file, and makes the directories on the way to it. -/
def write (t : FileTree) (path : Path) (content : ByteArray) (time : Timestamp) : FileTree :=
  let p := t.newPlace path
  (t.makeWay p).setNode p (.file (UInt64.ofNat content.size) (some content) time)

/-- Makes a link, and the directories on the way to it. -/
def addLink (t : FileTree) (path target : Path) : FileTree :=
  let p := t.newPlace path
  (t.makeWay p).setNode p (.link target)

/-- The paths on the way to a path, from the first to the path itself. -/
def waypoints (path : Path) : List Path :=
  let parts := path.components
  (List.range parts.length).map fun n => (parts.take (n + 1)).foldl Path.join ""

/-- Makes the directories of a row of paths, each inside the one before it, until something else is
in the way. -/
def addWaypoints (t : FileTree) : List Path → FileTree
  | [] => t
  | path :: rest =>
    match t.lookup path with
    | .ok .directory => t.addWaypoints rest
    | .error .missing => (t.setNode (t.newPlace path) .directory).addWaypoints rest
    | _ => t

/-- Makes a directory, and those on the way to it, as far as nothing is in the way. -/
def addDirectories (t : FileTree) (path : Path) : FileTree := t.addWaypoints (waypoints path)

/-- Sets the time of modification of a file. -/
def touch (t : FileTree) (path : Path) (time : Timestamp) : FileTree :=
  match t.locate path with
  | .error _ => t
  | .ok p =>
    match t.node? p with
    | some (.file size content _) => t.setNode p (.file size content time)
    | _ => t

/-- Removes what is at a path, and all below it. A link is removed itself. -/
def remove (t : FileTree) (path : Path) : FileTree :=
  let parent := (path.parent?).getD ""
  let place :=
    match (if parent.isEmpty then .ok t.here else t.locate parent), path.fileName? with
    | .ok p, some name => some (p ++ [name])
    | _, _ => none
  match place with
  | none => t
  | some p => { t with nodes := t.nodes.filter fun e => !p.isPrefixOf e.1 }

end FileTree

end MediaIndex
