import Mathlib
import MediaIndex.Number.Binary64

/-!
# The bits of a double

A double is its bits (`Float.ofBits_toBits`). So a double that is a number is determined by its
parts, and to find a finite one it is enough to find its sign, its mantissa and its exponent
(`ofMagnitude_finite`).
-/

set_option autoImplicit false

namespace MediaIndex.Number

/-! ## Mantissas and exponents -/

/-- A mantissa and an exponent that a double can have: a mantissa is without its leading bit only
below the smallest normal double. -/
structure IsBinary (m : Nat) (q : Int) : Prop where
  mantissa : m < 2 * leadingBit
  normal : leadingBit ≤ m ∨ q = -1074
  low : -1074 ≤ q
  high : q ≤ 971

/-- The bits of a double without its sign. -/
def magnitudeOf (m : Nat) (q : Int) : Nat :=
  if m < leadingBit then m else (q + 1075).toNat * leadingBit + (m - leadingBit)

theorem magnitudeOf_le {m : Nat} {q : Int} (h : IsBinary m q) : magnitudeOf m q ≤ infinityBits := by
  have hexponent : (q + 1075).toNat ≤ 2046 := by
    have := h.high
    omega
  have hle := Nat.mul_le_mul_right leadingBit hexponent
  have := h.mantissa
  unfold magnitudeOf infinityBits
  split <;> omega

/-- Below the sign stands the exponent, and below the exponent the fraction. -/
theorem mod_signBit (bits : Nat) :
    bits % signBit = bits / leadingBit % 2048 * leadingBit + bits % leadingBit := by
  simp only [signBit, leadingBit]
  omega

theorem ofMagnitude_mod (x : Float) :
    ofMagnitude (decide (signBit ≤ x.toBits.toNat)) (x.toBits.toNat % signBit) = x := by
  have hlt : x.toBits.toNat < 2 * signBit := x.toBits.toNat_lt
  have hwhole : (if decide (signBit ≤ x.toBits.toNat) = true
      then signBit + x.toBits.toNat % signBit else x.toBits.toNat % signBit) = x.toBits.toNat := by
    by_cases hsign : signBit ≤ x.toBits.toNat
    · rw [if_pos (decide_eq_true hsign), Nat.mod_eq_sub_mod hsign, Nat.mod_eq_of_lt (by omega)]
      omega
    · rw [if_neg (by simpa using hsign), Nat.mod_eq_of_lt (by omega)]
  rw [ofMagnitude, hwhole, UInt64.ofNat_toNat, Float.ofBits_toBits]

/-- **A finite double has its parts**, and no other double has them. -/
theorem ofMagnitude_finite {x : Float} {negative : Bool} {m : Nat} {q : Int}
    (h : Parts.ofFloat x = .finite negative m q) :
    IsBinary m q ∧ ofMagnitude negative (magnitudeOf m q) = x := by
  have hmod := mod_signBit x.toBits.toNat
  have hfraction : x.toBits.toNat % leadingBit < leadingBit := Nat.mod_lt _ (by decide)
  have hexponent : x.toBits.toNat / leadingBit % 2048 < 2048 := Nat.mod_lt _ (by decide)
  have hwhole := ofMagnitude_mod x
  unfold Parts.ofFloat at h
  dsimp only at h
  split at h
  · split at h <;> exact absurd h (by simp)
  · rename_i hinfinite
    split at h
    · rename_i hzero
      obtain ⟨rfl, rfl, rfl⟩ := Parts.finite.inj h
      refine ⟨⟨by omega, Or.inr rfl, by omega, by omega⟩, ?_⟩
      rw [hzero, Nat.zero_mul, Nat.zero_add] at hmod
      rwa [magnitudeOf, if_pos hfraction, ← hmod]
    · obtain ⟨rfl, rfl, rfl⟩ := Parts.finite.inj h
      refine ⟨⟨by omega, Or.inl (by omega), by omega, by omega⟩, ?_⟩
      rwa [magnitudeOf, if_neg (by omega), Nat.add_sub_cancel_left, Int.sub_add_cancel,
        Int.toNat_natCast, ← hmod]

/-- There is one infinity of each sign. -/
theorem infinity_infinite {x : Float} {negative : Bool} (h : Parts.ofFloat x = .infinite negative) :
    infinity negative = x := by
  have hmod := mod_signBit x.toBits.toNat
  have hwhole := ofMagnitude_mod x
  unfold Parts.ofFloat at h
  dsimp only at h
  split at h
  · rename_i hones
    split at h
    · rename_i hzero
      obtain rfl := Parts.infinite.inj h
      rw [hones, hzero, Nat.add_zero] at hmod
      rwa [infinity, infinityBits, ← hmod]
    · exact absurd h (by simp)
  · split at h <;> exact absurd h (by simp)

end MediaIndex.Number
