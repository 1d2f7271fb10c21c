import MediaIndex.LastItem

/-!
# Tables — what a settings file says, put together

A settings file in TOML says in three ways that there is a table: by a header, by a key with dots,
and by braces. How a table came to be decides what may still be added to it, so every table keeps
its `Origin`. Saying the same thing twice is refused.
-/

set_option autoImplicit false

namespace MediaIndex.Toml

/-- How a table came to be. -/
inductive Origin where
  /-- It lies on the way to a table that has a header. -/
  | implied
  /-- It lies on the way to a value whose key has dots. -/
  | dotted
  /-- It has a header of its own. -/
  | declared
  /-- It was written between braces, and is complete. -/
  | braced
  deriving Repr, DecidableEq

/-- A value. -/
inductive Value where
  | string (text : String)
  | integer (n : Int)
  | real (x : Float)
  | boolean (b : Bool)
  /-- A date, a time of day, or both. -/
  | moment (text : List Char)
  | array (items : List Value)
  | table (origin : Origin) (members : List (String × Value))
  /-- Tables that share a header; the last one is open. -/
  | tables (items : List (List (String × Value)))

/-- The members of a table, in order of appearance. -/
abbrev Members : Type := List (String × Value)

namespace Members

/-- The value under a key. -/
def get? (m : Members) (key : String) : Option Value := (m.find? fun e => e.1 == key).map (·.2)

/-- Replaces the value under a key. -/
def replace (m : Members) (key : String) (value : Value) : Members :=
  m.map fun e => if e.1 == key then (key, value) else e

/-- Adds a value under a key that is not taken. -/
def insert? (m : Members) (key : String) (value : Value) : Option Members :=
  match m.get? key with
  | none => some (m ++ [(key, value)])
  | some _ => none

/-- Changes the table at the end of a path of headers. Tables on the way that are not there yet are
implied; of tables with one header the last is meant. -/
def descend (f : Members → Option Members) : (path : List String) → Members → Option Members
  | [], m => f m
  | key :: rest, m =>
    match m.get? key with
    | none => (descend f rest []).map fun t => m ++ [(key, .table .implied t)]
    | some (.table .braced _) => none
    | some (.table origin t) => (descend f rest t).map fun t => m.replace key (.table origin t)
    | some (.tables items) =>
      match items.getLast? with
      | none => none
      | some t =>
        (descend f rest t).map fun t => m.replace key (.tables (modifyLast (fun _ => t) items))
    | some _ => none

/-- Adds a value under a key with dots; the part before the last dot is the path. The table that the
value goes into must have come to be by such a key too, and no table on the way may have a header
of its own. -/
def insertDotted? (key : String) (value : Value) : (path : List String) → Members → Option Members
  | [], m => m.insert? key value
  | k :: rest, m =>
    match m.get? k with
    | none => (insertDotted? key value rest []).map fun t => m ++ [(k, .table .dotted t)]
    | some (.table .dotted t) =>
      (insertDotted? key value rest t).map fun t => m.replace k (.table .dotted t)
    | some (.table .implied t) =>
      if rest.isEmpty then none
      else (insertDotted? key value rest t).map fun t => m.replace k (.table .implied t)
    | some (.tables items) =>
      match items.getLast? with
      | none => none
      | some t =>
        if rest.isEmpty then none
        else
          (insertDotted? key value rest t).map fun t =>
            m.replace k (.tables (modifyLast (fun _ => t) items))
    | some _ => none

/-- Gives a table a header. It may only have been implied before. -/
def declare? (key : String) (m : Members) : Option Members :=
  match m.get? key with
  | none => some (m ++ [(key, .table .declared [])])
  | some (.table .implied t) => some (m.replace key (.table .declared t))
  | some _ => none

/-- Adds one of the tables that share a header. -/
def extend? (key : String) (m : Members) : Option Members :=
  match m.get? key with
  | none => some (m ++ [(key, .tables [[]])])
  | some (.tables items) => some (m.replace key (.tables (items ++ [[]])))
  | some _ => none

end Members

/-- A line of a settings file, or the lines of a value that is longer. A key is the path before its
last dot, and what follows that. -/
inductive Statement where
  | header (path : List String) (key : String)
  | sharedHeader (path : List String) (key : String)
  | entry (path : List String) (key : String) (value : Value)

/-- A file up to some line: all it says, and the table whose header was last. -/
structure Document where
  root : Members := []
  current : List String := []

namespace Document

/-- Adds a statement. -/
def add? (d : Document) : Statement → Option Document
  | .header path key =>
    (Members.descend (Members.declare? key) path d.root).map fun r => ⟨r, path ++ [key]⟩
  | .sharedHeader path key =>
    (Members.descend (Members.extend? key) path d.root).map fun r => ⟨r, path ++ [key]⟩
  | .entry path key value =>
    (Members.descend (Members.insertDotted? key value path) d.current d.root).map fun r =>
      { d with root := r }

/-- Adds statements in order. -/
def addAll? (d : Document) : List Statement → Option Document
  | [] => some d
  | s :: rest => (d.add? s).bind fun d => d.addAll? rest

end Document

end MediaIndex.Toml
