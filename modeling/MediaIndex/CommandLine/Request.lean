import MediaIndex.Path
import MediaIndex.Text.Search

/-!
# Requests — what the words of a command line ask for

The words are read from left to right. A command comes first; an option that every command has may
stand before it or after it, and what stands after it counts more. A word that cannot be understood
makes the whole line invalid, but not one that comes after a demand for help or for the version.
-/

set_option autoImplicit false

namespace MediaIndex.CommandLine

/-- What is to be done. -/
inductive Command where
  /-- Bring the cache up to date with what is below some paths. -/
  | scan (paths : List Path) (force : Bool)
  /-- Describe a file without the cache. -/
  | probe (file : Path)
  /-- List the tracks of a cue sheet. -/
  | cue (file : Path)
  /-- Describe a file by means of the cache. -/
  | show (file : Path)
  | sweep
  | clearThumbnails
  | stats
  deriving Repr, DecidableEq

/-- A request. -/
structure Request where
  /-- Where the cache is, if the request says so. -/
  cachePath : Option Path := none
  command : Command
  deriving Repr, DecidableEq

/-- What a command line turns out to be. -/
inductive Reading where
  | request (r : Request)
  | version
  | help
  | invalid
  deriving Repr, DecidableEq

/-- The names of the commands. -/
inductive CommandName where
  | scan | probe | cue | show | sweep | clearThumbnails | stats
  deriving Repr, DecidableEq

/-- The command with a given name. -/
def CommandName.ofText? : String → Option CommandName
  | "scan" => some .scan
  | "probe" => some .probe
  | "cue" => some .cue
  | "show" => some .show
  | "sweep" => some .sweep
  | "clear-thumbnails" => some .clearThumbnails
  | "stats" => some .stats
  | _ => none

/-- How many operands a command takes at most, if there is a limit. -/
def CommandName.operandLimit? : CommandName → Option Nat
  | .scan => none
  | .probe | .cue | .show => some 1
  | .sweep | .clearThumbnails | .stats => some 0

/-- The options and operands read so far, before a command or after it. -/
structure Words where
  cachePath : Option Path := none
  force : Bool := false
  operands : List Path := []

/-- The command that some words make, unless an operand is missing. -/
def Words.command? (w : Words) : CommandName → Option Command
  | .scan => some (.scan w.operands w.force)
  | .probe => w.operands.head?.map .probe
  | .cue => w.operands.head?.map .cue
  | .show => w.operands.head?.map .show
  | .sweep => some .sweep
  | .clearThumbnails => some .clearThumbnails
  | .stats => some .stats

/-- What a single word is. -/
inductive Word where
  /-- A flag that changes nothing but how much is told. -/
  | verbose
  | cachePath (value : Option String)
  | force
  | version
  | help
  /-- The mark after which all words are operands. -/
  | endOfOptions
  | operand (text : String)
  | unknown
  deriving Repr, DecidableEq

/-- What the letters behind a single dash are; only the first that is more than a flag counts. -/
def letters : List Char → Word
  | [] => .verbose
  | 'v' :: rest => letters rest
  | 'V' :: _ => .version
  | 'h' :: _ => .help
  | _ :: _ => .unknown

/-- What a word is by itself. -/
def Word.ofText (text : String) : Word :=
  match text.toList with
  | ['-'] => .operand text
  | ['-', '-'] => .endOfOptions
  | '-' :: '-' :: name =>
    match String.ofList name with
    | "verbose" => .verbose
    | "db-path" => .cachePath none
    | "force" => .force
    | "version" => .version
    | "help" => .help
    | _ => ((Text.afterLead? "--db-path=" text).map fun v => Word.cachePath (some v)).getD .unknown
  | '-' :: name => letters name
  | _ => .operand text

/-- Takes in where the cache is. It may be said once, and not by an empty word. -/
def Words.addCachePath? (w : Words) (value : String) : Option Words :=
  if w.cachePath.isSome || value.isEmpty then none else some { w with cachePath := some value }

/-- Takes in an operand. -/
def Words.addOperand? (name : CommandName) (w : Words) (text : String) : Option Words :=
  if text.isEmpty || name.operandLimit?.any fun n => n ≤ w.operands.length then none
  else some { w with operands := w.operands ++ [text] }

/-- The value of an option is the next word, unless that is an option itself. -/
def value? : List String → Option (String × List String)
  | [] => none
  | text :: rest =>
    match Word.ofText text with
    | .operand v => some (v, rest)
    | _ => none

/-- Takes in operands alone. -/
def operands? (name : CommandName) (w : Words) : List String → Option Words
  | [] => some w
  | text :: rest => (w.addOperand? name text).bind fun w => operands? name w rest

/-- What a request is that has been read to its end. -/
def finish (before after : Words) (name : CommandName) : Reading :=
  match after.command? name with
  | some command => .request ⟨after.cachePath.or before.cachePath, command⟩
  | none => .invalid

/-- Reads the words after a command. -/
def readAfter (before : Words) (name : CommandName) (fuel : Nat) (w : Words) :
    List String → Reading
  | [] => finish before w name
  | text :: rest =>
    match fuel with
    | 0 => .invalid
    | fuel + 1 =>
      match Word.ofText text with
      | .verbose => readAfter before name fuel w rest
      | .cachePath (some v) =>
        match w.addCachePath? v with
        | some w => readAfter before name fuel w rest
        | none => .invalid
      | .cachePath none =>
        match value? rest with
        | none => .invalid
        | some (v, rest) =>
          match w.addCachePath? v with
          | some w => readAfter before name fuel w rest
          | none => .invalid
      | .force =>
        if name = .scan ∧ !w.force then readAfter before name fuel { w with force := true } rest
        else .invalid
      | .help => .help
      | .endOfOptions =>
        match operands? name w rest with
        | some w => finish before w name
        | none => .invalid
      | .operand v =>
        match w.addOperand? name v with
        | some w => readAfter before name fuel w rest
        | none => .invalid
      | .version | .unknown => .invalid

/-- Reads the words before the command, and then those after it. -/
def readBefore (fuel : Nat) (w : Words) : List String → Reading
  | [] => .invalid
  | text :: rest =>
    match fuel with
    | 0 => .invalid
    | fuel + 1 =>
      match Word.ofText text with
      | .verbose => readBefore fuel w rest
      | .cachePath (some v) =>
        match w.addCachePath? v with
        | some w => readBefore fuel w rest
        | none => .invalid
      | .cachePath none =>
        match value? rest with
        | none => .invalid
        | some (v, rest) =>
          match w.addCachePath? v with
          | some w => readBefore fuel w rest
          | none => .invalid
      | .version => .version
      | .help => .help
      | .operand v =>
        match CommandName.ofText? v with
        | some name => readAfter w name fuel {} rest
        | none => if v == "help" then .help else .invalid
      | .force | .endOfOptions | .unknown => .invalid

/-- Reads a command line. -/
def Reading.ofWords (words : List String) : Reading := readBefore (words.length + 1) {} words

end MediaIndex.CommandLine
