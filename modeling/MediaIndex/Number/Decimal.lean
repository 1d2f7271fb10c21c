import MediaIndex.Number.Binary64

/-!
# Decimals — reading and writing doubles as text

Reading takes the decimal exactly and rounds once. Writing finds the fewest digits that read back to
the same double: a decimal reads back exactly when it lies between the midpoints to the neighbouring
doubles (the midpoints included when the mantissa is even), and if any point of a decimal grid lies
there, one of the two neighbours of the value on that grid does. So the grids are tried from coarse
to fine, and the first with a hit has the fewest digits.

How the digits are laid out is a matter of the format that is being written: `Layout` holds those
decisions, one value for each format.
-/

set_option autoImplicit false

namespace MediaIndex.Number

/-! ## Reading -/

/-- Whether a character is one of the ten ASCII digits. -/
def isAsciiDigit (c : Char) : Bool := '0' ≤ c && c ≤ '9'

/-- The natural a list of ASCII digits stands for. -/
def digitsValue (cs : List Char) : Nat :=
  cs.foldl (fun n c => n * 10 + (c.toNat - '0'.toNat)) 0

/-- `digits * 10 ^ power` as a double. A decimal whose leading digit stands far outside the range
of doubles is infinite or zero without being computed. -/
def ofDecimal (negative : Bool) (digits : List Char) (power : Int) : Float :=
  let significant := digits.dropWhile (· == '0')
  let place : Int := significant.length + power
  if significant.isEmpty || place < -330 then ofMagnitude negative 0
  else if 310 < place then infinity negative
  else
    let n := digitsValue significant
    if 0 ≤ power then ofRatio negative (n * Nat.pow 10 power.toNat) 1
    else ofRatio negative n (Nat.pow 10 (-power).toNat)

/-- A sign and what follows it; no sign counts as plus. -/
def takeSign : List Char → Bool × List Char
  | '-' :: cs => (true, cs)
  | '+' :: cs => (false, cs)
  | cs => (false, cs)

/-- The exponent part of a decimal: nothing, or a letter e, an optional sign and digits up to the
end. -/
def exponentPart? : List Char → Option Int
  | [] => some 0
  | c :: cs =>
    if c == 'e' || c == 'E' then
      let (negative, ds) := takeSign cs
      if ds.isEmpty || !ds.all isAsciiDigit then none
      else some (signed negative (digitsValue ds))
    else none

/-- A decimal without its sign: digits with at most one point among or beside them, then perhaps an
exponent. -/
def unsignedDecimal? (negative : Bool) (cs : List Char) : Option Float :=
  let whole := cs.takeWhile isAsciiDigit
  let rest := cs.dropWhile isAsciiDigit
  let fraction :=
    match rest with
    | '.' :: ds => ds.takeWhile isAsciiDigit
    | _ => []
  let rest :=
    match rest with
    | '.' :: ds => ds.dropWhile isAsciiDigit
    | _ => rest
  if whole.isEmpty && fraction.isEmpty then none
  else
    (exponentPart? rest).map fun e =>
      ofDecimal negative (whole ++ fraction) (e - fraction.length)

/-- Reads a double: an optional sign, then a decimal or one of the words `inf`, `infinity` and
`nan` in any case. Nothing may stand before or after it. -/
def readFloat? (s : String) : Option Float :=
  let (negative, cs) := takeSign s.toList
  let word := String.ofList (cs.map Char.toLower)
  if word == "inf" || word == "infinity" then some (infinity negative)
  else if word == "nan" then some notANumber
  else unsignedDecimal? negative cs

/-- Reads a natural up to `limit`: ASCII digits, perhaps after a plus sign. -/
def readNat? (limit : Nat) (s : String) : Option Nat :=
  let ds :=
    match s.toList with
    | '+' :: cs => cs
    | cs => cs
  if ds.isEmpty || !ds.all isAsciiDigit then none
  else
    let n := digitsValue ds
    if n ≤ limit then some n else none

/-! ## The fewest digits -/

/-- The interval of the reals that round to a double, and the double, all in quarters of its last
place. Below a power of two the doubles lie closer together. -/
structure Neighbourhood where
  low : Nat
  centre : Nat
  high : Nat
  /-- Whether the ends themselves round to the double. -/
  closed : Bool

/-- The neighbourhood of a positive double. -/
def Neighbourhood.of (mantissa : Nat) (exponent : Int) : Neighbourhood where
  low := if mantissa = leadingBit ∧ exponent ≠ -1074 then 4 * mantissa - 1 else 4 * mantissa - 2
  centre := 4 * mantissa
  high := 4 * mantissa + 2
  closed := mantissa % 2 = 0

/-- Whether a quotient with the given scale lies in the neighbourhood. -/
def Neighbourhood.holds (nb : Neighbourhood) (scaled unit : Nat) : Bool :=
  if nb.closed then nb.low * unit ≤ scaled && scaled ≤ nb.high * unit
  else nb.low * unit < scaled && scaled < nb.high * unit

/-- The point of the grid `10 ^ place` that reads back to the double and is nearest to it, if one
does. `unit` and `step` are a quarter of the last place and a step of the grid in one common
scale. -/
def gridPoint? (nb : Neighbourhood) (unit step : Nat) (tie : Tie) : Option Nat :=
  let below := nb.centre * unit / step
  match nb.holds (below * step) unit, nb.holds ((below + 1) * step) unit with
  | true, true => some (roundDiv (nb.centre * unit) step tie)
  | true, false => some below
  | false, true => some (below + 1)
  | false, false => none

/-- Tries the grids from `place` on downwards. -/
def shortestFrom (nb : Neighbourhood) (exponent : Int) (tie : Tie) :
    (fuel : Nat) → (place : Int) → Nat × Int
  | 0, place => (0, place)
  | fuel + 1, place =>
    let unit := (scaleTwo 1 1 (exponent - 2))
    let unitScale := if 0 ≤ place then unit.1 else unit.1 * Nat.pow 10 (-place).toNat
    let step := if 0 ≤ place then Nat.pow 10 place.toNat * unit.2 else unit.2
    match gridPoint? nb unitScale step tie with
    | some n => (n, place)
    | none => shortestFrom nb exponent tie fuel (place - 1)

/-- The fewest digits that read back to a positive double, with the place of the last of them. The
first grid tried is coarser than the double itself, and a grid of seventeen digits always has a
point in the neighbourhood. -/
def shortest (mantissa : Nat) (exponent : Int) (tie : Tie) : Nat × Int :=
  let log : Int := (mantissa.log2 : Int) + exponent
  shortestFrom (.of mantissa exponent) exponent tie 24 (log * 30103 / 100000 + 2)

/-! ## Layouts -/

/-- The decisions a format makes about writing doubles. -/
structure Layout where
  /-- Where a double exactly between two shortest decimals goes. -/
  tie : Tie
  /-- What is written behind a whole number. -/
  wholeEnd : String
  /-- The places of the leading digit for which no exponent is written, `none` for all. -/
  positional : Option (Int × Int)
  deriving Repr, DecidableEq

/-- A number of zeros. -/
def zeros (n : Nat) : String := String.ofList (List.replicate n '0')

/-- Digits with the last of them at `place`, written out without an exponent. -/
def writePositional (digits : String) (place : Int) (wholeEnd : String) : String :=
  if 0 ≤ place then digits ++ zeros place.toNat ++ wholeEnd
  else
    let behind := (-place).toNat
    let cs := digits.toList
    if behind < cs.length then
      String.ofList (cs.take (cs.length - behind)) ++ "." ++
        String.ofList (cs.drop (cs.length - behind))
    else "0." ++ zeros (behind - cs.length) ++ digits

/-- Digits with the leading one at the place `lead`, written with an exponent whose sign is always
there. -/
def writeScientific (digits : String) (lead : Int) : String :=
  let mantissa :=
    match digits.toList with
    | [] => ""
    | [c] => String.ofList [c]
    | c :: cs => String.ofList (c :: '.' :: cs)
  mantissa ++ "e" ++ (if 0 ≤ lead then "+" else "-") ++ toString lead.natAbs

/-- A double in a layout. -/
def Layout.write (layout : Layout) (x : Float) : String :=
  match Parts.ofFloat x with
  | .notANumber => "NaN"
  | .infinite negative => if negative then "-inf" else "inf"
  | .finite negative m q =>
    let sign := if negative then "-" else ""
    if m = 0 then sign ++ "0" ++ layout.wholeEnd
    else
      let (n, place) := shortest m q layout.tie
      let digits := toString n
      let lead := place + (digits.length : Int) - 1
      let plain :=
        match layout.positional with
        | none => true
        | some (lo, hi) => lo ≤ lead && lead ≤ hi
      sign ++ if plain then writePositional digits place layout.wholeEnd
        else writeScientific digits lead

/-- Numbers in answers and in cache keys: never an exponent, no point behind a whole number. -/
def plainLayout : Layout := ⟨.away, "", none⟩

/-- Writes a double with the fewest digits and without an exponent. -/
def writeFloat (x : Float) : String := plainLayout.write x

/-- Writes a double with a fixed number of places, a tie going to the even digit. -/
def writeFixed (places : Nat) (x : Float) : String :=
  match Parts.ofFloat x with
  | .notANumber => "NaN"
  | .infinite negative => if negative then "-inf" else "inf"
  | .finite negative m q =>
    let scaled := scaleTwo (m * Nat.pow 10 places) 1 q
    let digits := toString (roundDiv scaled.1 scaled.2 .toEven)
    let padded := zeros (places + 1 - digits.length) ++ digits
    (if negative then "-" else "") ++ writePositional padded (-(places : Int)) ""

end MediaIndex.Number
