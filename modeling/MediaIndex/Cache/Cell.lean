import MediaIndex.Number.Decimal
import MediaIndex.Text.Blank

/-!
# Cells — the values that a table stores

A cell holds a value of one of five kinds. A column prefers a kind (`Affinity`) and converts what is
put into it where that loses nothing, but it refuses no other kind. So it is the reader who has to
see to it that a cell fits its field, and who tells which column does not.
-/

set_option autoImplicit false

namespace MediaIndex

/-- A stored value. -/
inductive Cell where
  | null
  | integer (n : Int)
  | real (x : Float)
  | text (s : String)
  | blob (bytes : ByteArray)
  deriving BEq

/-- The kind of value that a column prefers. -/
inductive Affinity where
  | integer | real | text | blob
  deriving Repr, DecidableEq

/-- What is known of a column: its name, its place among the columns that are read together, the
kind it prefers, and whether it has to hold a value. -/
structure Column where
  name : String
  place : Nat
  affinity : Affinity
  required : Bool := false
  deriving Repr, DecidableEq

/-- Why a cell does not fit its field. -/
inductive CellFault where
  | outOfRange (n : Int) (place : Nat)
  | wrongKind (kind : String) (column : Column)
  deriving Repr, DecidableEq

/-- The text of a fault. -/
def CellFault.message : CellFault → String
  | .outOfRange n place => "Integer " ++ toString n ++ " out of range at index " ++ toString place
  | .wrongKind kind column =>
    "Invalid column type " ++ kind ++ " at index: " ++ toString column.place ++ ", name: " ++
      column.name

namespace Cell

/-- The name of a kind of value. -/
def kind : Cell → String
  | .null => "Null"
  | .integer _ => "Integer"
  | .real _ => "Real"
  | .text _ => "Text"
  | .blob _ => "Blob"

/-- The least integer of a cell. -/
def least : Int := -0x8000000000000000

/-- The greatest integer of a cell. -/
def greatest : Int := 0x7fffffffffffffff

/-! ## Storing -/

/-- The cell for a value that may be missing. -/
def optional {α : Type} (store : α → Cell) : Option α → Cell
  | none => .null
  | some a => store a

/-- The cell for a number. What is not a number is stored as missing, and zero without a sign. -/
def ofFloat (x : Float) : Cell :=
  if Number.isNotANumber x then .null else if x == 0.0 then .real 0.0 else .real x

/-- The cell for a switch. -/
def ofBool (b : Bool) : Cell := .integer (if b then 1 else 0)

/-- The integer that a text writes, if it writes one that can be stored. -/
def integerOfText? (s : String) : Option Int :=
  let (negative, digits) := Number.takeSign (Text.trim s).toList
  if digits.isEmpty || !digits.all Number.isAsciiDigit then none
  else
    let n := Number.signed negative (Number.digitsValue digits)
    if least ≤ n && n ≤ greatest then some n else none

/-- The number that a text writes in digits, if it writes one. -/
def realOfText? (s : String) : Option Float :=
  let s := Text.trim s
  if s.toList.all fun c => Number.isAsciiDigit c || ['.', '+', '-', 'e', 'E'].contains c then
    Number.readFloat? s
  else none

/-- A number as an integer, if it is one that can be stored. -/
def ofWhole (x : Float) : Cell :=
  let n := Number.truncateWithin least greatest x
  if Float.ofInt n == x && least < n && n < greatest then .integer n else .real x

/-- What a column makes of a value that is put into it. -/
def converted (affinity : Affinity) (c : Cell) : Cell :=
  match affinity, c with
  | .text, .integer n => .text (toString n)
  | .text, .real x => .text (Number.writeFloat x)
  | .integer, .real x => ofWhole x
  | .integer, .text s =>
    match integerOfText? s with
    | some n => .integer n
    | none => (realOfText? s).elim c ofWhole
  | .real, .integer n => .real (Float.ofInt n)
  | .real, .real x => ofFloat x
  | .real, .text s => (realOfText? s).elim c ofFloat
  | _, _ => c

/-! ## Reading -/

/-- Reads a text. -/
def readText (column : Column) : Cell → Except CellFault (Option String)
  | .null => .ok none
  | .text s => .ok (some s)
  | c => .error (.wrongKind c.kind column)

/-- Reads bytes. -/
def readBytes (column : Column) : Cell → Except CellFault (Option ByteArray)
  | .null => .ok none
  | .blob b => .ok (some b)
  | c => .error (.wrongKind c.kind column)

/-- Reads a number. -/
def readFloat (column : Column) : Cell → Except CellFault (Option Float)
  | .null => .ok none
  | .real x => .ok (some x)
  | .integer n => .ok (some (Float.ofInt n))
  | c => .error (.wrongKind c.kind column)

/-- Reads an integer between bounds. -/
def readInt (low high : Int) (column : Column) : Cell → Except CellFault (Option Int)
  | .null => .ok none
  | .integer n => if low ≤ n ∧ n ≤ high then .ok (some n) else .error (.outOfRange n column.place)
  | c => .error (.wrongKind c.kind column)

/-- Insists on a value. -/
def insist {α : Type} (column : Column) : Except CellFault (Option α) → Except CellFault α
  | .ok (some a) => .ok a
  | .ok none => .error (.wrongKind "Null" column)
  | .error e => .error e

/-- Reads a natural of 32 bits. -/
def readWord (column : Column) (c : Cell) : Except CellFault (Option UInt32) :=
  (c.readInt 0 0xffffffff column).map fun v => v.map fun n => UInt32.ofNat n.toNat

/-- Reads a natural of 8 bits. -/
def readByte (column : Column) (c : Cell) : Except CellFault (Option UInt8) :=
  (c.readInt 0 0xff column).map fun v => v.map fun n => UInt8.ofNat n.toNat

/-- Reads a switch: every integer but zero is on. -/
def readBool (column : Column) (c : Cell) : Except CellFault Bool :=
  insist column ((c.readInt least greatest column).map fun v => v.map (· != 0))

end Cell

end MediaIndex
