import MediaIndex.Json.Tree
import MediaIndex.Extras

/-!
# JSON values — what a tree means

Interpreting a tree decodes its strings, gives its numbers a value and sorts the members of its
objects by key, of which the last counts where a key is repeated. It fails where a surrogate stands
alone, where a number is beyond every double, and where brackets are nested too deeply.

A number with a fraction or an exponent is read as its leading digits, as many as fit into 64 bits,
times a power of ten. That is not always the nearest double, but it is the one the cache has been
filled with, so it is part of the format.
-/

set_option autoImplicit false

namespace MediaIndex.Json

/-! ## Strings -/

/-- Whether a code unit is the first half of a pair. -/
def isLead (code : Nat) : Bool := 0xD800 ≤ code && code ≤ 0xDBFF

/-- Whether a code unit is the second half of a pair. -/
def isTrail (code : Nat) : Bool := 0xDC00 ≤ code && code ≤ 0xDFFF

/-- Puts the code units of a string together. Half a pair is an error. -/
def decodePieces? : List Piece → Option (List Char)
  | [] => some []
  | .char c :: rest => (decodePieces? rest).map (c :: ·)
  | .unit a :: .unit b :: rest =>
    if isLead a then
      if isTrail b then
        (decodePieces? rest).map
          (Char.ofNat (0x10000 + (a - 0xD800) * 0x400 + (b - 0xDC00)) :: ·)
      else none
    else if isTrail a then none
    else (decodePieces? (.unit b :: rest)).map (Char.ofNat a :: ·)
  | .unit a :: rest =>
    if isLead a || isTrail a then none else (decodePieces? rest).map (Char.ofNat a :: ·)

/-- The text of a string. -/
def stringText? (pieces : List Piece) : Option String :=
  (decodePieces? pieces).map String.ofList

/-! ## Numbers -/

/-- A number: a whole one of at most 64 bits, or a double. -/
inductive JsonNumber where
  | whole (value : Int)
  | real (value : Float)

/-- The layout of doubles in JSON: a point always, an exponent where the number is long. -/
def numberLayout : Number.Layout := ⟨.toEven, ".0", some (-5, 15)⟩

/-- The text of a number. -/
def JsonNumber.text : JsonNumber → String
  | .whole n => toString n
  | .real x => numberLayout.write x

/-- The largest number of 64 bits. -/
def wordLimit : Nat := 0xffffffffffffffff

/-- Appends digits to a number as long as it fits into 64 bits, and answers the digits that are
left. -/
def takeSignificant (n : Nat) : List Char → Nat × List Char
  | [] => (n, [])
  | d :: ds =>
    let next := n * 10 + (d.toNat - '0'.toNat)
    if next ≤ wordLimit then takeSignificant next ds else (n, d :: ds)

/-- A power of ten as a double. -/
def powerOfTen (n : Nat) : Float := Number.ofRatio false (Nat.pow 10 n) 1

/-- `x * 10 ^ power`, by one multiplication or by divisions; `none` beyond every double. The fuel is
for very small numbers, which after three divisions are zero. -/
def scaleTen? : (fuel : Nat) → Float → Int → Option Float
  | 0, x, _ => some x
  | fuel + 1, x, power =>
    if power.natAbs ≤ 308 then
      if 0 ≤ power then
        let scaled := x * powerOfTen power.natAbs
        if Number.isFinite scaled then some scaled else none
      else some (x / powerOfTen power.natAbs)
    else if x == 0.0 then some x
    else if 0 ≤ power then none
    else scaleTen? fuel (x / powerOfTen 308) (power + 308)

/-- The largest exponent that is computed with. -/
def exponentLimit : Nat := 0x7fffffff

/-- The number that a text writes. -/
def NumberText.value? (t : NumberText) : Option JsonNumber :=
  let (head, left) := takeSignificant 0 t.whole
  let signed (x : Float) : JsonNumber := .real (if t.negative then -x else x)
  match t.fraction, t.exponent, left with
  | none, none, [] =>
    if !t.negative then some (.whole head)
    else if 0 < head && head ≤ 0x8000000000000000 then some (.whole (-(head : Int)))
    else some (signed (Number.ofRatio false head 1))
  | fraction, exponent, left =>
    let digits := fraction.getD []
    let (significand, dropped) := takeSignificant head digits
    let place : Int := (left.length : Int) - ((digits.length - dropped.length : Nat) : Int)
    let scaled (power : Int) : Option JsonNumber :=
      (scaleTen? 4 (Number.ofRatio false significand 1) power).map signed
    match exponent with
    | none => scaled place
    | some (negative, ds) =>
      let e := Number.digitsValue ds
      if e ≤ exponentLimit then scaled (place + Number.signed negative e)
      else if significand ≠ 0 ∧ !negative then none
      else some (signed 0.0)

/-! ## Values -/

/-- A JSON value. The members of an object ascend by their keys. -/
inductive Value where
  | null
  | bool (value : Bool)
  | number (value : JsonNumber)
  | string (text : String)
  | array (items : List Value)
  | object (members : List (String × Value))

mutual

/-- Interprets a tree. `depth` is how many brackets may still be opened. -/
def Tree.value? (depth : Nat) : Tree → Option Value
  | .null => some .null
  | .bool b => some (.bool b)
  | .number t => t.value?.map .number
  | .string pieces => (stringText? pieces).map .string
  | .array items => if depth = 0 then none else (itemValues? (depth - 1) items).map .array
  | .object members =>
    if depth = 0 then none else (memberValues? (depth - 1) [] members).map .object

/-- Interprets the items of an array. -/
def itemValues? (depth : Nat) : List Tree → Option (List Value)
  | [] => some []
  | item :: rest =>
    match item.value? depth with
    | none => none
    | some v => (itemValues? depth rest).map (v :: ·)

/-- Interprets the members of an object and puts them in order, beside those before them. -/
def memberValues? (depth : Nat) (before : List (String × Value)) :
    List (List Piece × Tree) → Option (List (String × Value))
  | [] => some before
  | (key, value) :: rest =>
    match stringText? key, value.value? depth with
    | some key, some v => memberValues? depth (insertEntry key v before) rest
    | _, _ => none

end

/-- The member of an object under a key. -/
def member? (members : List (String × Value)) (key : String) : Option Value :=
  (members.find? fun m => m.1 == key).map (·.2)

/-- The text of a string or a number; nothing else has one. -/
def Value.text? : Value → Option String
  | .string s => some s
  | .number n => some n.text
  | _ => none

end MediaIndex.Json
