import MediaIndex.Proofs.Number.Decimals
import MediaIndex.Proofs.Number.Order
import MediaIndex.Proofs.Number.Shortest

/-!
# What is rounded to zero

Rounding to a whole number makes zero of what is below a half, cutting off makes zero of what is
below one, and three places are all zeros up to a half of the last. In this last case a tie goes to
the even number, and zero is even; a whole number is rounded away from zero instead.
-/

set_option autoImplicit false

namespace MediaIndex.Number

/-- A quotient without its remainder is zero below a half, and at a half where ties go to the even
number. -/
theorem roundDiv_eq_zero {num den : Nat} (hden : 0 < den) (tie : Tie) :
    roundDiv num den tie = 0 ↔ 2 * num < den ∨ tie = .toEven ∧ 2 * num = den := by
  by_cases hsmall : num < den
  · unfold roundDiv
    dsimp only
    rw [Nat.div_eq_of_lt hsmall, Nat.mod_eq_of_lt hsmall]
    split
    · simp_all
    · split
      · refine iff_of_false (Nat.succ_ne_zero 0) ?_
        omega
      · cases tie with
        | away => simp_all
        | toEven => simp only [Nat.zero_mod, if_true, true_and, true_iff]; omega
  · have hsome : 0 < num / den := Nat.div_pos (by omega) hden
    refine iff_of_false ?_ (by omega)
    rcases roundDiv_cases num den tie with h | h <;> omega

theorem roundDiv_eq_zero_iff_div {num den : Nat} (hden : 0 < den) (tie : Tie) :
    roundDiv num den tie = 0 ↔
      (num / den : ℚ) < 1 / 2 ∨ tie = .toEven ∧ (num / den : ℚ) = 1 / 2 := by
  have hdenq : (0 : ℚ) < den := by exact_mod_cast hden
  rw [roundDiv_eq_zero hden, div_lt_div_iff₀ hdenq two_pos, div_eq_div_iff hdenq.ne' two_ne_zero,
    one_mul, mul_comm (num : ℚ)]
  norm_cast

variable {m : Nat} {q : Int}

theorem scaleTwo_one (m : Nat) (q : Int) :
    ((scaleTwo m 1 q).1 / (scaleTwo m 1 q).2 : ℚ) = m * 2 ^ q := by
  rw [scaleTwo_eq, Nat.cast_one, div_one]

theorem nearestNat_eq_zero : nearestNat m q = 0 ↔ (m * 2 ^ q : ℚ) < 1 / 2 := by
  rw [nearestNat, roundDiv_eq_zero_iff_div (scaleTwo_pos Nat.one_pos m q), scaleTwo_one]
  simp

theorem wholeNat_eq_zero : wholeNat m q = 0 ↔ (m * 2 ^ q : ℚ) < 1 := by
  have hden := scaleTwo_pos Nat.one_pos m q
  have hdenq : (0 : ℚ) < (scaleTwo m 1 q).2 := by exact_mod_cast hden
  rw [wholeNat, Nat.div_eq_zero_iff_lt hden, ← scaleTwo_one, div_lt_one hdenq, Nat.cast_lt]

/-! ## Three places -/

/-- The thousandths of a positive double, a tie going to the even number. -/
def thousandths (m : Nat) (q : Int) : Nat :=
  let scaled := scaleTwo (m * Nat.pow 10 3) 1 q
  roundDiv scaled.1 scaled.2 .toEven

theorem thousandths_eq_zero : thousandths m q = 0 ↔ (m * 2 ^ q : ℚ) ≤ 1 / 2000 := by
  have hscale : ((m * Nat.pow 10 3 : Nat) : ℚ) * 2 ^ q = 1000 * (m * 2 ^ q) := by
    simp only [Nat.pow_eq]
    push_cast
    ring
  rw [thousandths, roundDiv_eq_zero_iff_div (scaleTwo_pos Nat.one_pos _ q), scaleTwo_one, hscale,
    and_iff_right rfl, ← le_iff_lt_or_eq]
  constructor <;> intro h <;> linarith

theorem writeFixed_of_finite {x : Float} (h : Parts.ofFloat x = .finite false m q) :
    writeFixed 3 x = writePositional (padNumber 4 (thousandths m q)) (-3) "" := by
  rw [writeFixed, h]
  exact String.empty_append

end MediaIndex.Number
