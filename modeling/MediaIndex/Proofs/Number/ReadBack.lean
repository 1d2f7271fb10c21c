import MediaIndex.Proofs.Number.Decimals
import MediaIndex.Proofs.Number.Shortest

/-!
# A written double is read back

What a decimal stands for is `digitsValue ds / 10 ^ behind`, and reading rounds that once
(`ofDecimal_eq`). The digits that are written stand for a number in the neighbourhood of the double,
and every number there rounds to it.

> **`readFloat?_writeFloat_eq`**: whatever is a number is read back from its text, the two zeros and
> the infinities included.
-/

set_option autoImplicit false

namespace MediaIndex.Number

/-! ## Reading a decimal -/

/-- What is left of digits without the zeros in front has the same value, and its length tells the
size of the value. -/
theorem significant_cases {ds : List Char} (hdigits : ∀ c ∈ ds, isAsciiDigit c = true) :
    (ds.dropWhile (· == '0') = [] ∧ digitsValue ds = 0) ∨
      ∃ c rest, ds.dropWhile (· == '0') = c :: rest ∧
        10 ^ rest.length ≤ digitsValue ds ∧ digitsValue ds < 10 ^ (rest.length + 1) := by
  have hvalue := digitsValue_dropWhile ds
  have hfirst := List.head?_dropWhile_not (· == '0') ds
  have hsignificant : ∀ c ∈ ds.dropWhile (· == '0'), isAsciiDigit c = true :=
    fun c hc => hdigits c ((List.dropWhile_sublist _).subset hc)
  cases hds : ds.dropWhile (· == '0') with
  | nil =>
    rw [hds] at hvalue
    exact Or.inl ⟨rfl, hvalue.symm⟩
  | cons c rest =>
    rw [hds] at hvalue hfirst hsignificant
    have hzero : c ≠ '0' := by simpa using hfirst
    rw [← hvalue]
    exact Or.inr ⟨c, rest, rfl, le_digitsValue (hsignificant c List.mem_cons_self) hzero rest,
      digitsValue_lt hsignificant⟩

/-- **What a decimal is read as**, where it is not far out of the range of doubles. -/
theorem ofDecimal_eq {negative : Bool} {ds : List Char} {behind : Nat}
    (hdigits : ∀ c ∈ ds, isAsciiDigit c = true)
    (hlow : (10 : ℚ) ^ (-331 : Int) ≤ digitsValue ds / 10 ^ behind)
    (hhigh : (digitsValue ds / 10 ^ behind : ℚ) < 10 ^ (310 : Int)) :
    ofDecimal negative ds (-(behind : Int)) = ofRatio negative (digitsValue ds) (10 ^ behind) := by
  have hvalue := digitsValue_dropWhile ds
  have hten : (10 : ℚ) ^ (behind : Int) = 10 ^ behind := zpow_natCast 10 behind
  unfold ofDecimal
  dsimp only
  rw [hvalue]
  rcases significant_cases hdigits with ⟨-, hzero⟩ | ⟨c, rest, hds, hle, hlt⟩
  · rw [hzero, Nat.cast_zero, zero_div] at hlow
    exact absurd hlow (not_le.mpr (by positivity))
  · -- the leading digit is inside of the range
    have hplace : -330 ≤ (rest.length + 1 : Int) - behind ∧
        (rest.length + 1 : Int) - behind ≤ 310 := by
      have hle : (10 : ℚ) ^ (rest.length : Int) ≤ digitsValue ds := by
        rw [zpow_natCast]
        exact_mod_cast hle
      have hlt : (digitsValue ds : ℚ) < 10 ^ (rest.length + 1 : Int) := by
        exact_mod_cast hlt
      rw [← hten, le_div_iff₀ (by positivity), ← zpow_add₀ (by norm_num)] at hlow
      rw [← hten, div_lt_iff₀ (by positivity), ← zpow_add₀ (by norm_num)] at hhigh
      have hlow := (zpow_lt_zpow_iff_right₀ (by norm_num)).mp (lt_of_le_of_lt hlow hlt)
      have hhigh := (zpow_lt_zpow_iff_right₀ (by norm_num)).mp (lt_of_le_of_lt hle hhigh)
      omega
    have hinside : ((c :: rest).isEmpty ||
        decide (((c :: rest).length : Int) + -(behind : Int) < -330)) = false := by
      simp only [List.isEmpty_cons, List.length_cons, Bool.false_or, decide_eq_false_iff_not]
      push_cast
      omega
    have hfinite : ¬310 < ((c :: rest).length : Int) + -(behind : Int) := by
      rw [List.length_cons]
      push_cast
      omega
    rw [hds, hinside, if_neg (by simp), if_neg hfinite, neg_neg, Int.toNat_natCast]
    split
    · rename_i hbehind
      obtain rfl : behind = 0 := by omega
      simp
    · rfl

/-- Digits that stand for nothing are read as nothing. -/
theorem ofDecimal_zero {negative : Bool} {ds : List Char} {power : Int}
    (hdigits : ∀ c ∈ ds, isAsciiDigit c = true) (hzero : digitsValue ds = 0) :
    ofDecimal negative ds power = ofMagnitude negative 0 := by
  rcases significant_cases hdigits with ⟨hnone, -⟩ | ⟨c, rest, -, hle, -⟩
  · unfold ofDecimal
    simp [hnone]
  · rw [hzero] at hle
    exact absurd hle (Nat.not_le.mpr (Nat.pow_pos (by decide)))

/-! ## Reading back -/

/-- What lies in the neighbourhood of a double is not far out of the range of doubles. -/
theorem bounds_of_contains {m : Nat} {q : Int} {v : ℚ} (hbinary : IsBinary m q) (hm : 0 < m)
    (h : (Neighbourhood.of m q).Contains (v / 2 ^ (q - 2))) :
    (10 : ℚ) ^ (-331 : Int) ≤ v ∧ v < 10 ^ (310 : Int) := by
  have hpower : (0 : ℚ) < 2 ^ q := by positivity
  rw [div_quarter] at h
  obtain ⟨⟨hlow, hhigh, -⟩, -⟩ := roundsTo_of_contains hm h
  have hone : (1 : ℚ) ≤ m := by exact_mod_cast hm
  have hmost : (m : ℚ) + 1 ≤ 2 * leadingBit := by exact_mod_cast hbinary.mantissa
  have htop : (2 : Nat) ^ 1024 ≤ 10 ^ 310 := by decide +kernel
  constructor
  · calc (10 : ℚ) ^ (-331 : Int) ≤ 2 ^ (-1075 : Int) :=
          ten_zpow_le_two_zpow (by decide) (by decide)
      _ ≤ 2 ^ (q - 1) := zpow_le_zpow_right₀ (by norm_num) (by have := hbinary.low; omega)
      _ = 1 / 2 * 2 ^ q := by rw [zpow_sub₀ two_ne_zero]; field_simp
      _ ≤ v / 2 ^ q * 2 ^ q := mul_le_mul_of_nonneg_right (by linarith) hpower.le
      _ = v := div_mul_cancel₀ v hpower.ne'
  · calc v = v / 2 ^ q * 2 ^ q := (div_mul_cancel₀ v hpower.ne').symm
      _ < 2 ^ (53 : Int) * 2 ^ q := by
          refine mul_lt_mul_of_pos_right ?_ hpower
          norm_num [leadingBit] at hmost ⊢
          linarith
      _ = 2 ^ (53 + q) := (zpow_add₀ two_ne_zero 53 q).symm
      _ ≤ 2 ^ (1024 : Int) := zpow_le_zpow_right₀ (by norm_num) (by have := hbinary.high; omega)
      _ ≤ 10 ^ (310 : Int) := by exact_mod_cast htop

theorem ten_zpow_eq (p : Int) : (10 : ℚ) ^ p = 10 ^ p.toNat / 10 ^ (-p).toNat := by
  rcases le_or_gt 0 p with hp | hp
  · rw [show (-p).toNat = 0 by omega, pow_zero, div_one, ← zpow_natCast, Int.toNat_of_nonneg hp]
  · rw [show p.toNat = 0 by omega, pow_zero, one_div, ← zpow_natCast,
      Int.toNat_of_nonneg (by omega), zpow_neg, inv_inv]

/-- **A double that is a number is read back from its text.** -/
theorem readFloat?_writeFloat_eq {x : Float} (h : isNotANumber x = false) :
    readFloat? (writeFloat x) = some x := by
  cases hparts : Parts.ofFloat x with
  | notANumber => exact absurd h (by simp [isNotANumber, hparts])
  | infinite negative =>
    rw [writeFloat, Layout.write, hparts, ← infinity_infinite hparts]
    cases negative <;> rfl
  | finite negative m q =>
    obtain ⟨hbinary, hx⟩ := ofMagnitude_finite hparts
    obtain ⟨cs, ds, behind, hdecimal, htext, hzero, hsome⟩ := writeFloat_finite hparts
    rw [htext, hdecimal.readFloat? negative]
    by_cases hm : m = 0
    · have hnone : magnitudeOf m q = 0 := by rw [magnitudeOf, hm, if_pos (by decide)]
      rw [ofDecimal_zero (fun c hc => hdecimal.digits hc) (hzero hm), ← hx, hnone]
    · obtain ⟨hbehind, hvalue⟩ := hsome hm
      have hcontains := shortest_contains hbinary (Nat.pos_of_ne_zero hm) .away
      have hratio : ((shortest m q .away).1 * 10 ^ (shortest m q .away).2 : ℚ) =
          digitsValue ds / 10 ^ behind := by
        rw [hvalue, hbehind, ten_zpow_eq]
        push_cast
        ring
      rw [hratio] at hcontains
      obtain ⟨hlow, hhigh⟩ := bounds_of_contains hbinary (Nat.pos_of_ne_zero hm) hcontains
      have hpos : 0 < digitsValue ds := by
        by_contra hnot
        rw [Nat.eq_zero_of_not_pos hnot, Nat.cast_zero, zero_div] at hlow
        exact absurd hlow (not_le.mpr (by positivity))
      have hnearest : magnitudeOfRatio (digitsValue ds) (10 ^ behind) = magnitudeOf m q :=
        magnitudeOfRatio_of_contains hbinary (Nat.pos_of_ne_zero hm) hpos
          (Nat.pow_pos (by decide)) (by exact_mod_cast hcontains)
      rw [ofDecimal_eq (fun c hc => hdecimal.digits hc) hlow hhigh, ofRatio, if_neg hpos.ne',
        hnearest, hx]

end MediaIndex.Number
