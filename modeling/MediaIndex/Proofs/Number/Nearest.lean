import MediaIndex.Number.Decimal
import MediaIndex.Proofs.Number.Bits

/-!
# Which quotients a double is the nearest one to

`magnitudeOfRatio` works on naturals. What it computes is said here with rationals: it takes the
last place that a double of the size of the quotient has, and rounds the quotient to a multiple of
it, a tie going to the even one (`magnitudeOfRatio_eq`). So every quotient in the neighbourhood of a
double is taken for that double.

> **`magnitudeOfRatio_of_contains`**: a quotient in the neighbourhood of a double rounds to it.

Only below a power of two the last place of the quotient is not that of the double, but half of it.
-/

set_option autoImplicit false

namespace MediaIndex.Number

/-! ## Powers of two -/

theorem scaleTwo_eq (num den : Nat) (power : Int) :
    ((scaleTwo num den power).1 / (scaleTwo num den power).2 : ℚ) = num / den * 2 ^ power := by
  unfold scaleTwo
  simp only [Nat.pow_eq]
  split
  · rename_i hpower
    have hnat : (2 : ℚ) ^ power = 2 ^ power.toNat := by
      rw [← zpow_natCast, Int.toNat_of_nonneg hpower]
    push_cast [hnat]
    ring
  · rename_i hpower
    have hnat : (2 : ℚ) ^ power = (2 ^ (-power).toNat)⁻¹ := by
      rw [← zpow_natCast, Int.toNat_of_nonneg (by omega), zpow_neg, inv_inv]
    push_cast [hnat]
    field_simp

theorem scaleTwo_pos {den : Nat} (hden : 0 < den) (num : Nat) (power : Int) :
    0 < (scaleTwo num den power).2 := by
  unfold scaleTwo
  split
  · exact hden
  · exact Nat.mul_pos hden (Nat.pow_pos (by decide))

/-- A quarter of the last place is two powers below it. -/
theorem div_quarter (v : ℚ) (q : Int) : v / 2 ^ (q - 2) = 4 * (v / 2 ^ q) := by
  rw [zpow_sub₀ two_ne_zero]
  field_simp
  norm_num

/-- A number has one leading bit. -/
theorem log_eq {v : ℚ} {log : Int} (hlow : 2 ^ log ≤ v) (hhigh : v < 2 ^ (log + 1)) :
    Int.log 2 v = log := by
  have hpos : 0 < v := lt_of_lt_of_le (by positivity) hlow
  have hle := (Int.zpow_le_iff_le_log (b := 2) (by decide) hpos).mp (by exact_mod_cast hlow)
  have hlt := (Int.lt_zpow_iff_log_lt (b := 2) (by decide) hpos).mp (by exact_mod_cast hhigh)
  omega

/-! ## Rounding -/

/-- Whether a number is nearer to `k` than to any other whole number, or as near and `k` is even. -/
def RoundsTo (v : ℚ) (k : Nat) : Prop :=
  (k : ℚ) - 1 / 2 ≤ v ∧ v ≤ k + 1 / 2 ∧ (k % 2 = 1 → (k : ℚ) - 1 / 2 < v ∧ v < k + 1 / 2)

theorem roundDiv_toEven {num den k : Nat} (hden : 0 < den) (h : RoundsTo (num / den) k) :
    roundDiv num den .toEven = k := by
  have hdenq : (0 : ℚ) < den := by exact_mod_cast hden
  have hvalue : (num / den : ℚ) = (num / den : Nat) + ((num % den : Nat) : ℚ) / den := by
    have hsplit : (num : ℚ) = (num / den : Nat) * den + (num % den : Nat) := by
      exact_mod_cast (Nat.div_add_mod' num den).symm
    rw [div_eq_iff hdenq.ne', add_mul, div_mul_cancel₀ _ hdenq.ne']
    exact hsplit
  have hrest : ((num % den : Nat) : ℚ) / den < 1 := by
    rw [div_lt_one hdenq]
    exact_mod_cast Nat.mod_lt num hden
  have hnonneg : 0 ≤ ((num % den : Nat) : ℚ) / den := by positivity
  obtain ⟨hlow, hhigh, hodd⟩ := h
  rw [hvalue] at hlow hhigh hodd
  unfold roundDiv
  dsimp only
  generalize num / den = whole at *
  generalize num % den = rest at *
  split
  · rename_i hless
    have hhalf : (rest : ℚ) / den < 1 / 2 := by
      have : (2 * rest : ℚ) < den := by exact_mod_cast hless
      rw [div_lt_iff₀ hdenq]
      linarith
    have hle : (k : ℚ) < whole + 1 := by linarith
    have hge : (whole : ℚ) < k + 1 := by linarith
    norm_cast at hle hge
    omega
  · rename_i hmore
    split
    · rename_i hless
      have hhalf : 1 / 2 < (rest : ℚ) / den := by
        have : (den : ℚ) < 2 * rest := by exact_mod_cast hless
        rw [lt_div_iff₀ hdenq]
        linarith
      have hle : (k : ℚ) < whole + 2 := by linarith
      have hge : (whole : ℚ) < k := by linarith
      norm_cast at hle hge
      omega
    · rename_i hless
      have hhalf : (rest : ℚ) / den = 1 / 2 := by
        have : (2 * rest : ℚ) = den := by exact_mod_cast (by omega : 2 * rest = den)
        rw [div_eq_iff hdenq.ne']
        linarith
      rw [hhalf] at hlow hhigh hodd
      have hnear : k = whole ∨ k = whole + 1 := by
        have hle : (k : ℚ) < whole + 2 := by linarith
        have hge : (whole : ℚ) < k + 1 := by linarith
        norm_cast at hle hge
        omega
      -- of the two neighbours the odd one is excluded
      rcases hnear with rfl | rfl
      · have heven : k % 2 = 0 := by
          by_contra hk
          exact absurd (hodd (by omega)).2 (lt_irrefl _)
        rw [if_pos heven]
      · have hodd' : whole % 2 ≠ 0 := by
          intro hk
          have := (hodd (by omega)).1
          push_cast at this
          linarith
        rw [if_neg hodd']

/-! ## The nearest double -/

/-- The last place that a double of the size of `v` has. -/
def lastPlace (v : ℚ) : Int := max (-1074) (Int.log 2 v - 52)

/-- The lengths of two naturals tell where the leading bit of their quotient is, up to one. -/
theorem log_div {num den : Nat} (hnum : 0 < num) (hden : 0 < den) :
    (2 : ℚ) ^ ((num.log2 : Int) - den.log2 - 1) ≤ num / den ∧
      (num / den : ℚ) < 2 ^ ((num.log2 : Int) - den.log2 + 1) := by
  have hdenq : (0 : ℚ) < den := by exact_mod_cast hden
  have hnumlow : (2 : ℚ) ^ num.log2 ≤ num := by exact_mod_cast Nat.log2_self_le hnum.ne'
  have hnumhigh : (num : ℚ) < 2 ^ (num.log2 + 1) := by exact_mod_cast Nat.lt_log2_self
  have hdenlow : (2 : ℚ) ^ den.log2 ≤ den := by exact_mod_cast Nat.log2_self_le hden.ne'
  have hdenhigh : (den : ℚ) < 2 ^ (den.log2 + 1) := by exact_mod_cast Nat.lt_log2_self
  have hsucc : ∀ n : Nat, (2 : ℚ) ^ ((n : Int) + 1) = 2 ^ (n + 1) := fun n => by norm_cast
  constructor
  · rw [le_div_iff₀ hdenq, sub_sub, zpow_sub₀ two_ne_zero, div_mul_eq_mul_div,
      div_le_iff₀ (by positivity), hsucc, zpow_natCast]
    exact mul_le_mul hnumlow hdenhigh.le hdenq.le (by positivity)
  · rw [div_lt_iff₀ hdenq, sub_add_eq_add_sub, zpow_sub₀ two_ne_zero, div_mul_eq_mul_div,
      lt_div_iff₀ (by positivity), hsucc, zpow_natCast]
    exact mul_lt_mul hnumhigh hdenlow (by positivity) (by positivity)

/-- **What is computed**: the quotient in units of its last place, rounded. -/
theorem magnitudeOfRatio_eq {num den k : Nat} (hnum : 0 < num) (hden : 0 < den)
    (hk : RoundsTo (num / den / 2 ^ lastPlace (num / den)) k) :
    magnitudeOfRatio num den = min (magnitudeOf k (lastPlace (num / den))) infinityBits := by
  obtain ⟨hlow, hhigh⟩ := log_div hnum hden
  unfold magnitudeOfRatio magnitudeOf
  dsimp only
  generalize (num.log2 : Int) - den.log2 = guess at hlow hhigh ⊢
  have hlog : (if (scaleTwo num den (-guess)).2 ≤ (scaleTwo num den (-guess)).1 then guess
      else guess - 1) = Int.log 2 (num / den : ℚ) := by
    have hscaled := scaleTwo_eq num den (-guess)
    have hpos : (0 : ℚ) < (scaleTwo num den (-guess)).2 := by
      exact_mod_cast scaleTwo_pos hden num (-guess)
    have hatLeast : (scaleTwo num den (-guess)).2 ≤ (scaleTwo num den (-guess)).1 ↔
        (2 : ℚ) ^ guess ≤ num / den := by
      rw [← Nat.cast_le (α := ℚ), ← one_le_div hpos, hscaled, zpow_neg, ← div_eq_mul_inv,
        one_le_div (by positivity)]
    split
    · rename_i h
      exact (log_eq (hatLeast.mp h) hhigh).symm
    · rename_i h
      refine (log_eq hlow ?_).symm
      rw [sub_add_cancel]
      exact not_le.mp fun h' => h (hatLeast.mpr h')
  rw [hlog]
  have hmantissa : roundDiv (scaleTwo num den (-lastPlace (num / den))).1
      (scaleTwo num den (-lastPlace (num / den))).2 .toEven = k := by
    refine roundDiv_toEven (scaleTwo_pos hden num _) ?_
    rw [scaleTwo_eq, zpow_neg, ← div_eq_mul_inv]
    exact hk
  rw [lastPlace] at hmantissa ⊢
  rw [hmantissa]

/-! ## Neighbourhoods -/

/-- Whether a number lies in a neighbourhood. -/
def Neighbourhood.Contains (nb : Neighbourhood) (v : ℚ) : Prop :=
  (nb.low : ℚ) ≤ v ∧ v ≤ nb.high ∧ (nb.closed = false → (nb.low : ℚ) < v ∧ v < nb.high)

/-- A neighbourhood reaches half a place to both sides, but below a power of two only a quarter. -/
theorem roundsTo_of_contains {m : Nat} {q : Int} {v : ℚ} (hm : 0 < m)
    (h : (Neighbourhood.of m q).Contains (4 * v)) :
    RoundsTo v m ∧ (m = leadingBit → q ≠ -1074 → (leadingBit : ℚ) - 1 / 4 ≤ v) := by
  obtain ⟨hlow, hhigh, hopen⟩ := h
  have hhigh' : ((Neighbourhood.of m q).high : ℚ) = 4 * m + 2 := by
    simp only [Neighbourhood.of]
    push_cast
    ring
  have hlow' : (4 * m - 2 : ℚ) ≤ (Neighbourhood.of m q).low ∧
      (m = leadingBit → q ≠ -1074 → ((Neighbourhood.of m q).low : ℚ) = 4 * m - 1) := by
    simp only [Neighbourhood.of]
    split
    · rw [Nat.cast_sub (by omega)]
      push_cast
      exact ⟨by linarith, fun _ _ => rfl⟩
    · rename_i hnot
      rw [Nat.cast_sub (by omega)]
      push_cast
      exact ⟨le_rfl, fun hm hq => absurd ⟨hm, hq⟩ hnot⟩
  rw [hhigh'] at hhigh hopen
  refine ⟨⟨by linarith [hlow'.1], by linarith, fun hodd => ?_⟩, fun hbit hq => ?_⟩
  · obtain ⟨hlt, hlt'⟩ := hopen (by simp [Neighbourhood.of, hodd])
    exact ⟨by linarith [hlow'.1], by linarith⟩
  · rw [← hbit]
    linarith [hlow'.2 hbit hq]

/-- The mantissa that is carried over to the next power of two is the leading bit there. -/
theorem magnitudeOf_carry {q : Int} (hq : -1074 < q) :
    magnitudeOf (2 * leadingBit) (q - 1) = magnitudeOf leadingBit q := by
  have hexponent : (q + 1075).toNat = (q - 1 + 1075).toNat + 1 := by omega
  rw [magnitudeOf, magnitudeOf, if_neg (by decide), if_neg (by decide), hexponent, Nat.add_mul]
  omega

/-- **A quotient in the neighbourhood of a double rounds to it.** -/
theorem magnitudeOfRatio_of_contains {m : Nat} {q : Int} {num den : Nat} (hbinary : IsBinary m q)
    (hm : 0 < m) (hnum : 0 < num) (hden : 0 < den)
    (h : (Neighbourhood.of m q).Contains (num / den / 2 ^ (q - 2))) :
    magnitudeOfRatio num den = magnitudeOf m q := by
  have hpower : (0 : ℚ) < 2 ^ q := by positivity
  have hpos : (0 : ℚ) < num / den := by positivity
  have hvalue : (num / den : ℚ) = num / den / 2 ^ q * 2 ^ q := by field_simp
  have hhalf : (num / den / 2 ^ (q - 1) : ℚ) = 2 * (num / den / 2 ^ q) := by
    rw [zpow_sub₀ two_ne_zero]
    field_simp
  have hshift : ∀ n : Nat, (2 : ℚ) ^ (q + n) = 2 ^ n * 2 ^ q := by
    intro n
    rw [zpow_add₀ two_ne_zero, zpow_natCast, mul_comm]
  rw [div_quarter] at h
  obtain ⟨hrounds, hbelow⟩ := roundsTo_of_contains hm h
  have hbit : (leadingBit : ℚ) = 2 ^ 52 := by norm_num [leadingBit]
  have hlog : Int.log 2 (num / den : ℚ) < q + (53 : Nat) := by
    refine (Int.lt_zpow_iff_log_lt (by decide) hpos).mp ?_
    have hle : (m : ℚ) + 1 ≤ 2 * leadingBit := by exact_mod_cast hbinary.mantissa
    rw [Nat.cast_ofNat, hshift, hvalue]
    refine mul_lt_mul_of_pos_right ?_ hpower
    linarith [hrounds.2.1]
  by_cases hsize : q = -1074 ∨ (2 : ℚ) ^ (q + (52 : Nat)) ≤ num / den
  · have hplace : lastPlace (num / den) = q := by
      have hlow := hbinary.low
      rw [lastPlace]
      rcases hsize with rfl | hsize
      · omega
      · have := (Int.zpow_le_iff_le_log (b := 2) (by decide) hpos).mp (by exact_mod_cast hsize)
        omega
    rw [magnitudeOfRatio_eq hnum hden (k := m) (by rw [hplace]; exact hrounds), hplace,
      Nat.min_eq_left (magnitudeOf_le hbinary)]
  · -- the quotient is below a power of two, and the double is that power
    obtain ⟨hq, hsmall⟩ := not_or.mp hsize
    have hlow : -1074 < q := lt_of_le_of_ne hbinary.low (Ne.symm hq)
    rw [not_le, hshift, hvalue] at hsmall
    have hsmall := lt_of_mul_lt_mul_right hsmall hpower.le
    have hm : m = leadingBit := by
      have hge := hbinary.normal.resolve_right hq
      have hlt : (m : ℚ) < leadingBit + 1 := by linarith [hrounds.1]
      norm_cast at hlt
      omega
    have hclose := hbelow hm hq
    have hplace : lastPlace (num / den) = q - 1 := by
      have hlog : Int.log 2 (num / den : ℚ) = q + (51 : Nat) := by
        refine log_eq ?_ ?_
        · rw [hshift, hvalue]
          refine mul_le_mul_of_nonneg_right ?_ hpower.le
          linarith
        · rw [add_assoc, show ((51 : Nat) : Int) + 1 = (52 : Nat) from rfl, hshift, hvalue]
          exact mul_lt_mul_of_pos_right hsmall hpower
      rw [lastPlace, hlog]
      omega
    have hcarry : RoundsTo (num / den / 2 ^ (q - 1)) (2 * leadingBit) := by
      rw [hhalf]
      refine ⟨?_, ?_, fun hodd => absurd hodd (by decide)⟩
      · push_cast
        linarith
      · push_cast
        linarith
    rw [magnitudeOfRatio_eq hnum hden (k := 2 * leadingBit) (by rw [hplace]; exact hcarry), hplace,
      magnitudeOf_carry hlow, ← hm, Nat.min_eq_left (magnitudeOf_le hbinary)]

end MediaIndex.Number
