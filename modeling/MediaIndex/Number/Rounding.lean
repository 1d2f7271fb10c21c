/-!
# Rounding — the nearest whole number to a quotient

Every number that this library rounds is a quotient of two naturals: a double scaled by a power of
ten, a decimal scaled by a power of two. Rounding is done here once, on exact numbers, and the
callers choose which way a tie goes.
-/

set_option autoImplicit false

namespace MediaIndex.Number

/-- Where a number exactly between two neighbours goes. -/
inductive Tie where
  /-- To the neighbour with an even last digit. -/
  | toEven
  /-- To the neighbour further from zero. -/
  | away
  deriving Repr, DecidableEq

/-- The nearest whole number to `num / den`, for a positive `den`. -/
def roundDiv (num den : Nat) (tie : Tie) : Nat :=
  let whole := num / den
  let rest := num % den
  if 2 * rest < den then whole
  else if den < 2 * rest then whole + 1
  else
    match tie with
    | .away => whole + 1
    | .toEven => if whole % 2 = 0 then whole else whole + 1

end MediaIndex.Number
