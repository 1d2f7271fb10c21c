import MediaIndex.Json.Tree
import MediaIndex.Toml.Table

/-!
# Reading settings files

Each recogniser takes a piece off the front of a text and answers what it read and what follows, or
`none` if the text is malformed there. Values that hold others are read with fuel, one for each
character of the text; besides, they may not be nested deeper than `nestingLimit`.
-/

set_option autoImplicit false

namespace MediaIndex.Toml

open MediaIndex.Number (isAsciiDigit)

/-! ## Blanks, ends of lines, comments -/

/-- A blank inside a line. -/
def isGap (c : Char) : Bool := c == ' ' || c == '\t'

/-- A text without the blanks it begins with. -/
def skipGap (cs : List Char) : List Char := cs.dropWhile isGap

/-- Whether a character may stand in a comment, or in a string that is not escaped. -/
def isPrintable (c : Char) : Bool := c == '\t' || (0x20 ≤ c.toNat && c.toNat != 0x7f)

/-- What follows the end of a line. -/
def newline? : List Char → Option (List Char)
  | '\n' :: rest => some rest
  | '\r' :: '\n' :: rest => some rest
  | _ => none

/-- A text without the comment it begins with. -/
def skipComment : List Char → List Char
  | '#' :: rest => rest.dropWhile isPrintable
  | cs => cs

/-- What follows a line of which nothing else is left than blanks and a comment. -/
def lineEnd? (cs : List Char) : Option (List Char) :=
  match skipComment (skipGap cs) with
  | [] => some []
  | rest => newline? rest

/-- A text without the blanks, the ends of lines and the whole comments it begins with. -/
def skipSpace : (fuel : Nat) → List Char → List Char
  | 0, cs => cs
  | fuel + 1, cs =>
    let cs := skipGap cs
    match newline? (skipComment cs) with
    | some rest => skipSpace fuel rest
    | none => cs

/-! ## Strings -/

/-- The character with a number that is written in hexadecimal digits. -/
def charOfHex? (digits : List Char) : Option Char :=
  match Json.hexNumber? digits with
  | none => none
  | some n => if h : n.isValidChar then some ⟨UInt32.ofNat n, by
      have : n < UInt32.size := by
        rcases h with h | ⟨_, h⟩ <;> exact Nat.lt_trans h (by decide)
      simpa [UInt32.isValidChar, UInt32.toNat_ofNat_of_lt' this] using h⟩ else none

/-- The character that an escape stands for, and what follows. The backslash is read already. -/
def escape? : List Char → Option (Char × List Char)
  | 'b' :: rest => some (Char.ofNat 8, rest)
  | 't' :: rest => some ('\t', rest)
  | 'n' :: rest => some ('\n', rest)
  | 'f' :: rest => some (Char.ofNat 12, rest)
  | 'r' :: rest => some ('\r', rest)
  | '"' :: rest => some ('"', rest)
  | '\\' :: rest => some ('\\', rest)
  | 'u' :: rest =>
    if rest.length < 4 then none else (charOfHex? (rest.take 4)).map fun c => (c, rest.drop 4)
  | 'U' :: rest =>
    if rest.length < 8 then none else (charOfHex? (rest.take 8)).map fun c => (c, rest.drop 8)
  | _ => none

/-- The rest of a string on one line, up to its closing quote. -/
def takeString : (fuel : Nat) → List Char → Option (List Char × List Char)
  | 0, _ => none
  | _, [] => none
  | _, '"' :: rest => some ([], rest)
  | fuel + 1, '\\' :: rest =>
    (escape? rest).bind fun e => (takeString fuel e.2).map fun r => (e.1 :: r.1, r.2)
  | fuel + 1, c :: rest =>
    if isPrintable c then (takeString fuel rest).map fun r => (c :: r.1, r.2) else none

/-- The rest of a string without escapes on one line. -/
def takeRawString : List Char → Option (List Char × List Char)
  | [] => none
  | '\'' :: rest => some ([], rest)
  | c :: rest => if isPrintable c then (takeRawString rest).map fun r => (c :: r.1, r.2) else none

/-- The quotes at the end of a string of several lines. Up to two of them may belong to the string
and stand directly before the three that close it. -/
def closing? (quote : Char) (cs : List Char) : Option (List Char × List Char) :=
  let count := (cs.takeWhile (· == quote)).length
  if count < 3 then none
  else
    let inside := min (count - 3) 2
    some (List.replicate inside quote, cs.drop (inside + 3))

/-- What follows a backslash at the end of a line: the blanks and empty lines after it count for
nothing. -/
def joinedLine? (fuel : Nat) (cs : List Char) : Option (List Char) :=
  (newline? (skipGap cs)).map fun rest =>
    let rec skip : Nat → List Char → List Char
      | 0, cs => cs
      | n + 1, cs =>
        let cs := skipGap cs
        match newline? cs with
        | some rest => skip n rest
        | none => cs
    skip fuel rest

/-- The rest of a string of several lines. Ends of lines are kept, in one form. -/
def takeLongString : (fuel : Nat) → List Char → Option (List Char × List Char)
  | 0, _ => none
  | _, [] => none
  | fuel + 1, c :: rest =>
    match closing? '"' (c :: rest) with
    | some found => some found
    | none =>
      if c = '\\' then
        match joinedLine? fuel rest with
        | some rest => takeLongString fuel rest
        | none =>
          (escape? rest).bind fun e => (takeLongString fuel e.2).map fun r => (e.1 :: r.1, r.2)
      else
        match newline? (c :: rest) with
        | some rest => (takeLongString fuel rest).map fun r => ('\n' :: r.1, r.2)
        | none =>
          if isPrintable c then (takeLongString fuel rest).map fun r => (c :: r.1, r.2) else none

/-- The rest of a string of several lines without escapes. -/
def takeLongRawString : (fuel : Nat) → List Char → Option (List Char × List Char)
  | 0, _ => none
  | _, [] => none
  | fuel + 1, c :: rest =>
    match closing? '\'' (c :: rest) with
    | some found => some found
    | none =>
      match newline? (c :: rest) with
      | some rest => (takeLongRawString fuel rest).map fun r => ('\n' :: r.1, r.2)
      | none =>
        if isPrintable c then (takeLongRawString fuel rest).map fun r => (c :: r.1, r.2) else none

/-- A text without the end of a line that it begins with. -/
def skipNewline (cs : List Char) : List Char := (newline? cs).getD cs

/-- A string of any of the four kinds. -/
def string? (cs : List Char) : Option (List Char × List Char) :=
  let fuel := cs.length
  match cs with
  | '"' :: '"' :: '"' :: rest => takeLongString fuel (skipNewline rest)
  | '\'' :: '\'' :: '\'' :: rest => takeLongRawString fuel (skipNewline rest)
  | '"' :: rest => takeString fuel rest
  | '\'' :: rest => takeRawString rest
  | _ => none

/-! ## Keys -/

/-- Whether a character may stand in a key without quotes. -/
def isKeyChar (c : Char) : Bool := c.isAlphanum || c == '-' || c == '_'

/-- One part of a key. -/
def simpleKey? (cs : List Char) : Option (String × List Char) :=
  match cs with
  | '"' :: rest => (takeString cs.length rest).map fun r => (String.ofList r.1, r.2)
  | '\'' :: rest => (takeRawString rest).map fun r => (String.ofList r.1, r.2)
  | _ =>
    match cs.takeWhile isKeyChar with
    | [] => none
    | name => some (String.ofList name, cs.dropWhile isKeyChar)

/-- How deep values may be nested, and how many parts a key may have. -/
def nestingLimit : Nat := 79

/-- The parts of a key, with the blanks around them passed over. -/
def keyParts? : (fuel : Nat) → List Char → Option (List String × List Char)
  | 0, _ => none
  | fuel + 1, cs =>
    match simpleKey? (skipGap cs) with
    | none => none
    | some (part, rest) =>
      match skipGap rest with
      | '.' :: rest => (keyParts? fuel rest).map fun r => (part :: r.1, r.2)
      | rest => some ([part], rest)

/-- A key: the path before the last dot, the part after it, and what follows. -/
def key? (cs : List Char) : Option ((List String × String) × List Char) :=
  match keyParts? nestingLimit cs with
  | none => none
  | some (parts, rest) => parts.getLast?.map fun last => ((parts.dropLast, last), rest)

/-! ## Numbers -/

/-- Digits, of which some may have an underscore in front of them, but not the first. Answers the
digits alone. -/
def digits? (isDigit : Char → Bool) : List Char → Option (List Char × List Char)
  | [] => none
  | c :: cs =>
    let rec more : List Char → List Char × List Char
      | '_' :: d :: rest =>
        if isDigit d then
          let (ds, rest) := more rest
          (d :: ds, rest)
        else ([], '_' :: d :: rest)
      | d :: rest =>
        if isDigit d then
          let (ds, rest) := more rest
          (d :: ds, rest)
        else ([], d :: rest)
      | [] => ([], [])
    if isDigit c then
      let (ds, rest) := more cs
      some (c :: ds, rest)
    else none

/-- The digits of a whole number: a zero in front of others is not read together with them. -/
def wholeDigits? : List Char → Option (List Char × List Char)
  | '0' :: rest => some (['0'], rest)
  | cs => digits? isAsciiDigit cs

/-- The greatest integer. -/
def greatest : Nat := 0x7fffffffffffffff

/-- An integer, if it is in range. -/
def integer? (negative : Bool) (n : Nat) : Option Value :=
  if negative then (if n ≤ greatest + 1 then some (.integer (-(n : Int))) else none)
  else if n ≤ greatest then some (.integer n) else none

/-- An integer to another base. -/
def based? (base : Nat) (cs : List Char) : Option (Value × List Char) :=
  let value (c : Char) : Option Nat := (Json.hexValue? c).filter (· < base)
  (digits? (fun c => (value c).isSome) cs).bind fun r =>
    (integer? false (r.1.foldl (fun n c => n * base + (value c).getD 0) 0)).map fun v => (v, r.2)

/-- The digits behind a point, if one follows. -/
def fraction? : List Char → Option (List Char × List Char)
  | '.' :: rest => (digits? isAsciiDigit rest).map fun r => ('.' :: r.1, r.2)
  | cs => some ([], cs)

/-- The exponent, if one follows. -/
def exponent? : List Char → Option (List Char × List Char)
  | c :: rest =>
    if c == 'e' || c == 'E' then
      let sign := rest.takeWhile fun s => s == '+' || s == '-'
      if 1 < sign.length then none
      else (digits? isAsciiDigit (rest.drop sign.length)).map fun r => ('e' :: sign ++ r.1, r.2)
    else some ([], c :: rest)
  | [] => some ([], [])

/-- A real number from its text. One that is too great is refused. -/
def real? (negative : Bool) (text : List Char) : Option Value :=
  match Number.readFloat? (String.ofList ((if negative then ['-'] else []) ++ text)) with
  | none => none
  | some x => if Number.isFinite x || negative then some (.real x) else none

/-- A number in decimal digits. -/
def decimal? (negative : Bool) (cs : List Char) : Option (Value × List Char) :=
  match cs with
  | 'i' :: 'n' :: 'f' :: rest => some (.real (Number.infinity negative), rest)
  | 'n' :: 'a' :: 'n' :: rest => some (.real Number.notANumber, rest)
  | _ =>
    (wholeDigits? cs).bind fun w =>
      (fraction? w.2).bind fun f =>
        (exponent? f.2).bind fun e =>
          if f.1.isEmpty && e.1.isEmpty then
            (integer? negative (Number.digitsValue w.1)).map fun v => (v, w.2)
          else (real? negative (w.1 ++ f.1 ++ e.1)).map fun v => (v, e.2)

/-- A number. -/
def number? : List Char → Option (Value × List Char)
  | '0' :: 'x' :: rest => based? 16 rest
  | '0' :: 'o' :: rest => based? 8 rest
  | '0' :: 'b' :: rest => based? 2 rest
  | '+' :: rest => decimal? false rest
  | '-' :: rest => decimal? true rest
  | rest => decimal? false rest

/-! ## Dates and times -/

/-- A number of exactly `width` digits, within bounds. -/
def field? (width low high : Nat) (cs : List Char) : Option (Nat × List Char) :=
  let ds := cs.take width
  let n := Number.digitsValue ds
  if ds.length = width && ds.all isAsciiDigit && low ≤ n && n ≤ high then some (n, cs.drop width)
  else none

/-- What follows a character. -/
def after? (c : Char) : List Char → Option (List Char)
  | d :: rest => if c = d then some rest else none
  | [] => none

/-- How many days a month has. -/
def daysIn (year month : Nat) : Nat :=
  if month = 2 then
    if year % 4 = 0 && (year % 100 != 0 || year % 400 = 0) then 29 else 28
  else if [4, 6, 9, 11].contains month then 30 else 31

/-- What follows a date. -/
def afterDate? (cs : List Char) : Option (List Char) := do
  let (year, cs) ← field? 4 0 9999 cs
  let (month, cs) ← (after? '-' cs).bind (field? 2 1 12)
  let (_, cs) ← (after? '-' cs).bind (field? 2 1 (daysIn year month))
  return cs

/-- What follows a time of day. -/
def afterTime? (cs : List Char) : Option (List Char) := do
  let (_, cs) ← field? 2 0 23 cs
  let (_, cs) ← (after? ':' cs).bind (field? 2 0 59)
  let (_, cs) ← (after? ':' cs).bind (field? 2 0 60)
  match cs with
  | '.' :: d :: rest => return if isAsciiDigit d then rest.dropWhile isAsciiDigit else cs
  | _ => return cs

/-- What follows the distance from universal time, if one is given. -/
def afterZone (cs : List Char) : List Char :=
  let offset (rest : List Char) : Option (List Char) := do
    let (_, rest) ← field? 2 0 23 rest
    let (_, rest) ← (after? ':' rest).bind (field? 2 0 59)
    return rest
  match cs with
  | 'Z' :: rest => rest
  | 'z' :: rest => rest
  | '+' :: rest => (offset rest).getD cs
  | '-' :: rest => (offset rest).getD cs
  | _ => cs

/-- A date, a time of day, or both. -/
def moment? (cs : List Char) : Option (Value × List Char) :=
  let found (rest : List Char) : Value × List Char :=
    (.moment (cs.take (cs.length - rest.length)), rest)
  match afterDate? cs with
  | some rest =>
    match rest with
    | c :: more =>
      if c == 'T' || c == 't' || c == ' ' then
        match afterTime? more with
        | some after => some (found (afterZone after))
        | none => some (found rest)
      else some (found rest)
    | [] => some (found rest)
  | none => (afterTime? cs).map found

/-! ## Values -/

mutual

/-- A value. `depth` is how many more brackets may be opened. -/
def value? : (fuel depth : Nat) → List Char → Option (Value × List Char)
  | 0, _, _ => none
  | fuel + 1, depth, cs =>
    match cs with
    | '[' :: rest =>
      if depth = 0 then none
      else (items? fuel (depth - 1) rest).map fun r => (.array r.1, r.2)
    | '\x7b' :: rest =>
      if depth = 0 then none
      else
        match skipGap rest with
        | '\x7d' :: rest => some (.table .braced [], rest)
        | rest => (members? fuel (depth - 1) [] rest).map fun r => (.table .braced r.1, r.2)
    | 't' :: 'r' :: 'u' :: 'e' :: rest => some (.boolean true, rest)
    | 'f' :: 'a' :: 'l' :: 's' :: 'e' :: rest => some (.boolean false, rest)
    | '"' :: _ => (string? cs).map fun r => (.string (String.ofList r.1), r.2)
    | '\'' :: _ => (string? cs).map fun r => (.string (String.ofList r.1), r.2)
    | _ => (moment? cs).or (number? cs)

/-- The items of an array from the next one on, up to its bracket. A comma may follow the last. -/
def items? : (fuel depth : Nat) → List Char → Option (List Value × List Char)
  | 0, _, _ => none
  | fuel + 1, depth, cs =>
    match skipSpace fuel cs with
    | ']' :: rest => some ([], rest)
    | cs =>
      match value? fuel depth cs with
      | none => none
      | some (item, rest) =>
        match skipSpace fuel rest with
        | ']' :: rest => some ([item], rest)
        | ',' :: rest => (items? fuel depth rest).map fun r => (item :: r.1, r.2)
        | _ => none

/-- The members of a table in braces from the next one on, added to those before it, up to the
closing brace. -/
def members? : (fuel depth : Nat) → Members → List Char → Option (Members × List Char)
  | 0, _, _, _ => none
  | fuel + 1, depth, m, cs =>
    match key? cs with
    | some ((path, key), '=' :: rest) =>
      match value? fuel depth (skipGap rest) with
      | none => none
      | some (value, rest) =>
        match Members.insertDotted? key value path m with
        | none => none
        | some m =>
          match skipGap rest with
          | '\x7d' :: rest => some (m, rest)
          | ',' :: rest => members? fuel depth m rest
          | _ => none
    | _ => none

end

/-! ## Files -/

/-- A header, between brackets. -/
def header? (cs : List Char) : Option (Statement × List Char) :=
  match cs with
  | '[' :: rest =>
    match key? rest with
    | some ((path, key), ']' :: ']' :: rest) => some (.sharedHeader path key, rest)
    | _ => none
  | _ =>
    match key? cs with
    | some ((path, key), ']' :: rest) => some (.header path key, rest)
    | _ => none

/-- A key with its value. -/
def assignment? (cs : List Char) : Option (Statement × List Char) :=
  match key? cs with
  | some ((path, key), '=' :: rest) =>
    (value? (2 * rest.length + 2) nestingLimit (skipGap rest)).map fun r =>
      (.entry path key r.1, r.2)
  | _ => none

/-- The statements of a file. -/
def statements? : (fuel : Nat) → List Char → Option (List Statement)
  | 0, _ => none
  | fuel + 1, cs =>
    match skipSpace (cs.length + 1) cs with
    | [] => some []
    | '#' :: rest => if (rest.dropWhile isPrintable).isEmpty then some [] else none
    | '[' :: rest =>
      (header? rest).bind fun s =>
        (lineEnd? s.2).bind fun rest => (statements? fuel rest).map (s.1 :: ·)
    | rest =>
      (assignment? rest).bind fun s =>
        (lineEnd? s.2).bind fun rest => (statements? fuel rest).map (s.1 :: ·)

/-- A text without the mark that some editors put in front to tell the order of the bytes. -/
def skipMark : List Char → List Char
  | c :: rest => if c.toNat = 0xfeff then rest else c :: rest
  | [] => []

/-- Reads a file: the members of its outermost table. -/
def ofText? (text : String) : Option Members :=
  let cs := skipMark text.toList
  (statements? (cs.length + 1) cs).bind fun s => (Document.addAll? {} s).map (·.root)

end MediaIndex.Toml
