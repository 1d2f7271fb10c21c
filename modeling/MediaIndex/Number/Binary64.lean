import MediaIndex.Number.Rounding

/-!
# Doubles as exact numbers

A double is a sign, a natural and a power of two. `Parts` takes it apart and `ofRatio` finds the
double nearest to a quotient of naturals, so that reading, printing and rounding can be done on
exact numbers and return to `Float` at the end.
-/

set_option autoImplicit false

namespace MediaIndex.Number

/-- What a double stands for. A finite one is `mantissa * 2 ^ exponent` with its sign. -/
inductive Parts where
  | notANumber
  | infinite (negative : Bool)
  | finite (negative : Bool) (mantissa : Nat) (exponent : Int)
  deriving Repr, DecidableEq

/-- The weight of the bit that holds the sign. -/
def signBit : Nat := 0x8000000000000000

/-- The weight of the leading bit of a mantissa of 53 bits, which a normal double does not store:
the fraction has the bits below it and the exponent those above. -/
def leadingBit : Nat := 0x10000000000000

/-- Takes a double apart. -/
def Parts.ofFloat (x : Float) : Parts :=
  let bits := x.toBits.toNat
  let negative := decide (signBit ≤ bits)
  let biased : Nat := bits / leadingBit % 2048
  let fraction : Nat := bits % leadingBit
  if biased = 2047 then if fraction = 0 then .infinite negative else .notANumber
  else if biased = 0 then .finite negative fraction (-1074)
  else .finite negative (leadingBit + fraction) ((biased : Int) - 1075)

/-- The double with the given sign whose other bits are `magnitude`. -/
def ofMagnitude (negative : Bool) (magnitude : Nat) : Float :=
  Float.ofBits (UInt64.ofNat (if negative then signBit + magnitude else magnitude))

/-- The bits of positive infinity. -/
def infinityBits : Nat := 2047 * leadingBit

/-- Infinity with a sign. -/
def infinity (negative : Bool) : Float := ofMagnitude negative infinityBits

/-- The value that is no number. -/
def notANumber : Float := ofMagnitude false (infinityBits + leadingBit / 2)

/-- A numerator and a denominator times a power of two. -/
def scaleTwo (num den : Nat) (power : Int) : Nat × Nat :=
  if 0 ≤ power then (num * Nat.pow 2 power.toNat, den) else (num, den * Nat.pow 2 (-power).toNat)

/-- The bits of the double nearest to `num / den`, ties to even, for positive `num` and `den`. The
exponent is chosen so that the mantissa has 53 bits, or fewer below the smallest normal double; a
mantissa that rounds up to the next power of two carries into the exponent by itself. -/
def magnitudeOfRatio (num den : Nat) : Nat :=
  let guess : Int := (num.log2 : Int) - (den.log2 : Int)
  let atLeast := scaleTwo num den (-guess)
  let log : Int := if atLeast.2 ≤ atLeast.1 then guess else guess - 1
  let exponent : Int := max (-1074) (log - 52)
  let scaled := scaleTwo num den (-exponent)
  let mantissa := roundDiv scaled.1 scaled.2 .toEven
  let bits : Nat :=
    if mantissa < leadingBit then mantissa
    else (exponent + 1075).toNat * leadingBit + (mantissa - leadingBit)
  min bits infinityBits

/-- The double nearest to `num / den` with the given sign; a `den` of zero is not asked for. -/
def ofRatio (negative : Bool) (num den : Nat) : Float :=
  if num = 0 then ofMagnitude negative 0 else ofMagnitude negative (magnitudeOfRatio num den)

/-! ## Whole numbers -/

/-- The nearest whole number to a magnitude, a half going away from zero. -/
def nearestNat (mantissa : Nat) (exponent : Int) : Nat :=
  let scaled := scaleTwo mantissa 1 exponent
  roundDiv scaled.1 scaled.2 .away

/-- The whole part of a magnitude. -/
def wholeNat (mantissa : Nat) (exponent : Int) : Nat :=
  let scaled := scaleTwo mantissa 1 exponent
  scaled.1 / scaled.2

/-- A signed magnitude. -/
def signed (negative : Bool) (n : Nat) : Int :=
  if negative then -(n : Int) else (n : Int)

/-- Brings a whole number into a range. -/
def clamp (lo hi n : Int) : Int := max lo (min hi n)

/-- The whole number in `lo … hi` nearest to a double, a half going away from zero. What is no
number counts as zero. -/
def nearestWithin (lo hi : Int) (x : Float) : Int :=
  match Parts.ofFloat x with
  | .notANumber => 0
  | .infinite negative => if negative then lo else hi
  | .finite negative m q => clamp lo hi (signed negative (nearestNat m q))

/-- A double cut to its whole part and brought into the range `lo … hi`. What is no number counts
as zero. -/
def truncateWithin (lo hi : Int) (x : Float) : Int :=
  match Parts.ofFloat x with
  | .notANumber => 0
  | .infinite negative => if negative then lo else hi
  | .finite negative m q => clamp lo hi (signed negative (wholeNat m q))

/-- The double nearest to `x` that is a whole number, a half going away from zero. Doubles with an
exponent of zero or more are whole already. -/
def roundWhole (x : Float) : Float :=
  match Parts.ofFloat x with
  | .finite negative m q => if 0 ≤ q then x else ofRatio negative (nearestNat m q) 1
  | _ => x

/-- Whether a double is neither infinite nor no number at all. -/
def isFinite (x : Float) : Bool :=
  match Parts.ofFloat x with
  | .finite .. => true
  | _ => false

/-- Whether a double is no number. -/
def isNotANumber (x : Float) : Bool :=
  match Parts.ofFloat x with
  | .notANumber => true
  | _ => false

end MediaIndex.Number
