import Mathlib
import MediaIndex.Number.Binary64

/-!
# Numbers that are equal

`==` on doubles compares numbers: it does not tell the two zeros apart, and the value that is no
number is not equal to anything, itself included. The library asks of the bits of a double whether
it is a number (`isNotANumber`); the two facts below say that `==` sees the same.
-/

set_option autoImplicit false

namespace MediaIndex.Number

theorem ne_nan_of_isNotANumber {x : Float} (h : isNotANumber x = false) : x ≠ Float.nan := by
  rintro rfl
  exact absurd h (by decide +kernel)

/-- **A double that is a number is equal to itself.** -/
theorem beq_self {x : Float} (h : isNotANumber x = false) : (x == x) = true :=
  Float.beq_self_iff.mpr (ne_nan_of_isNotANumber h)

/-- What is equal to zero is one of the two zeros. -/
theorem eq_zero_of_beq {x : Float} (h : (x == 0.0) = true) : x = 0.0 ∨ x = -0.0 := by
  obtain ⟨-, -, heq | ⟨heq, -⟩ | ⟨heq, -⟩⟩ := Float.beq_iff_ne_nan_and_eq.mp h
  · exact Or.inl heq
  · exact Or.inl (heq.trans (by decide +kernel))
  · exact Or.inr (heq.trans (by decide +kernel))

end MediaIndex.Number
