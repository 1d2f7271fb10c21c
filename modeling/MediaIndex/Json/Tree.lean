import MediaIndex.Number.Decimal

/-!
# JSON trees — the structure of a document, before anything in it is interpreted

Reading a JSON text has two halves. The first, here, finds the structure: which brackets, which
strings, which numbers. The second interprets what is needed of it. They are kept apart because a
reader that passes over a member does not mind what is inside it, as long as it is well formed: a
lone surrogate or a number beyond every double does no harm in a member that nobody reads.

So a string is a list of `Piece`s with the escapes by code unit not yet put together, and a number
is its digits. An object keeps its members in order of appearance, equal keys included.
-/

set_option autoImplicit false

namespace MediaIndex.Json

/-- A part of a string: a character, or a code unit written as an escape. -/
inductive Piece where
  | char (c : Char)
  | unit (code : Nat)
  deriving Repr, DecidableEq

/-- The text of a number. -/
structure NumberText where
  negative : Bool
  whole : List Char
  fraction : Option (List Char)
  /-- Its sign, and its digits. -/
  exponent : Option (Bool × List Char)
  deriving Repr, DecidableEq

/-- A JSON value as written. -/
inductive Tree where
  | null
  | bool (value : Bool)
  | number (text : NumberText)
  | string (pieces : List Piece)
  | array (items : List Tree)
  | object (members : List (List Piece × Tree))

/-! ## Reading -/

/-- The blanks of JSON. -/
def isSpace (c : Char) : Bool := c == ' ' || c == '\n' || c == '\t' || c == '\r'

/-- A text without the blanks it begins with. -/
def skipSpace (cs : List Char) : List Char := cs.dropWhile isSpace

/-- The value of a hexadecimal digit. -/
def hexValue? (c : Char) : Option Nat :=
  if '0' ≤ c && c ≤ '9' then some (c.toNat - '0'.toNat)
  else if 'a' ≤ c && c ≤ 'f' then some (c.toNat - 'a'.toNat + 10)
  else if 'A' ≤ c && c ≤ 'F' then some (c.toNat - 'A'.toNat + 10)
  else none

/-- The number that hexadecimal digits write. -/
def hexNumber? (cs : List Char) : Option Nat :=
  cs.foldl
    (fun n c =>
      match n, hexValue? c with
      | some n, some d => some (n * 16 + d)
      | _, _ => none)
    (some 0)

/-- The character that a letter behind a backslash stands for. -/
def escaped? : Char → Option Char
  | '"' => some '"'
  | '\\' => some '\\'
  | '/' => some '/'
  | 'b' => some (Char.ofNat 8)
  | 'f' => some (Char.ofNat 12)
  | 'n' => some '\n'
  | 'r' => some '\r'
  | 't' => some '\t'
  | _ => none

/-- The rest of a string up to its closing quote, and what follows that. -/
def takeString : List Char → Option (List Piece × List Char)
  | [] => none
  | '"' :: rest => some ([], rest)
  | '\\' :: 'u' :: a :: b :: c :: d :: rest =>
    match hexNumber? [a, b, c, d] with
    | none => none
    | some code => (takeString rest).map fun r => (.unit code :: r.1, r.2)
  | '\\' :: c :: rest =>
    match escaped? c with
    | none => none
    | some e => (takeString rest).map fun r => (.char e :: r.1, r.2)
  | c :: rest =>
    if c.toNat < 0x20 || c == '\\' then none
    else (takeString rest).map fun r => (.char c :: r.1, r.2)

/-- Digits, at least one. -/
def takeDigits? (cs : List Char) : Option (List Char × List Char) :=
  match cs.takeWhile Number.isAsciiDigit with
  | [] => none
  | ds => some (ds, cs.dropWhile Number.isAsciiDigit)

/-- The whole part of a number: no zero stands in front of another digit. -/
def takeWhole? : List Char → Option (List Char × List Char)
  | '0' :: rest =>
    match rest with
    | d :: _ => if Number.isAsciiDigit d then none else some (['0'], rest)
    | [] => some (['0'], [])
  | cs => takeDigits? cs

/-- A fraction, if a point follows. -/
def takeFraction? : List Char → Option (Option (List Char) × List Char)
  | '.' :: rest => (takeDigits? rest).map fun r => (some r.1, r.2)
  | cs => some (none, cs)

/-- An exponent, if a letter e follows. -/
def takeExponent? : List Char → Option (Option (Bool × List Char) × List Char)
  | c :: rest =>
    if c == 'e' || c == 'E' then
      let (negative, rest) := Number.takeSign rest
      (takeDigits? rest).map fun r => (some (negative, r.1), r.2)
    else some (none, c :: rest)
  | [] => some (none, [])

/-- A number without its sign. -/
def takeNumber? (negative : Bool) (cs : List Char) : Option (NumberText × List Char) := do
  let (whole, cs) ← takeWhole? cs
  let (fraction, cs) ← takeFraction? cs
  let (exponent, cs) ← takeExponent? cs
  return (⟨negative, whole, fraction, exponent⟩, cs)

mutual

/-- A value at the beginning of a text, blanks in front of it passed over, and what follows it. The
fuel bounds the steps; one for each character and one more are enough. -/
def takeValue : (fuel : Nat) → List Char → Option (Tree × List Char)
  | 0, _ => none
  | fuel + 1, cs =>
    match skipSpace cs with
    | 'n' :: 'u' :: 'l' :: 'l' :: rest => some (.null, rest)
    | 't' :: 'r' :: 'u' :: 'e' :: rest => some (.bool true, rest)
    | 'f' :: 'a' :: 'l' :: 's' :: 'e' :: rest => some (.bool false, rest)
    | '"' :: rest => (takeString rest).map fun r => (.string r.1, r.2)
    | '[' :: rest =>
      match skipSpace rest with
      | ']' :: rest => some (.array [], rest)
      | rest => (takeItems fuel rest).map fun r => (.array r.1, r.2)
    | '\x7b' :: rest =>
      match skipSpace rest with
      | '\x7d' :: rest => some (.object [], rest)
      | rest => (takeMembers fuel rest).map fun r => (.object r.1, r.2)
    | '-' :: rest => (takeNumber? true rest).map fun r => (.number r.1, r.2)
    | rest => (takeNumber? false rest).map fun r => (.number r.1, r.2)

/-- The items of an array from the next one on, and what follows its bracket. -/
def takeItems : (fuel : Nat) → List Char → Option (List Tree × List Char)
  | 0, _ => none
  | fuel + 1, cs =>
    match takeValue fuel cs with
    | none => none
    | some (item, rest) =>
      match skipSpace rest with
      | ']' :: rest => some ([item], rest)
      | ',' :: rest => (takeItems fuel rest).map fun r => (item :: r.1, r.2)
      | _ => none

/-- The members of an object from the next one on, and what follows its brace. -/
def takeMembers : (fuel : Nat) → List Char → Option (List (List Piece × Tree) × List Char)
  | 0, _ => none
  | fuel + 1, cs =>
    match skipSpace cs with
    | '"' :: rest =>
      match takeString rest with
      | none => none
      | some (key, rest) =>
        match skipSpace rest with
        | ':' :: rest =>
          match takeValue fuel rest with
          | none => none
          | some (value, rest) =>
            match skipSpace rest with
            | '\x7d' :: rest => some ([(key, value)], rest)
            | ',' :: rest => (takeMembers fuel rest).map fun r => ((key, value) :: r.1, r.2)
            | _ => none
        | _ => none
    | _ => none

end

/-- Reads a text that is one JSON value with nothing but blanks around it. -/
def Tree.ofText? (text : String) : Option Tree :=
  let cs := text.toList
  match takeValue (2 * cs.length + 2) cs with
  | some (tree, rest) => if (skipSpace rest).isEmpty then some tree else none
  | none => none

end MediaIndex.Json
