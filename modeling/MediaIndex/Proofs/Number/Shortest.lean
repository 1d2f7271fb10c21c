import MediaIndex.Proofs.Number.Nearest

/-!
# The fewest digits lie in the neighbourhood

The search for digits ends at the first grid that has a point in the neighbourhood of the double.
That there is one among the grids that are tried is a matter of size: the last of them has steps no
wider than a quarter of the last place (`ten_zpow_le_two_zpow` compares the two), and the multiple
of such a step just below the double is in the neighbourhood (`isSome_gridPoint?`).

> **`shortest_contains`**: the digits that are found lie in the neighbourhood of the double.
-/

set_option autoImplicit false

namespace MediaIndex.Number

/-! ## One grid -/

variable {nb : Neighbourhood} {unit step : Nat} {tie : Tie}

theorem holds_iff {scaled : Nat} (hunit : 0 < unit) :
    nb.holds scaled unit = true ↔ nb.Contains (scaled / unit) := by
  have hunitq : (0 : ℚ) < unit := by exact_mod_cast hunit
  unfold Neighbourhood.holds Neighbourhood.Contains
  rw [le_div_iff₀ hunitq, div_le_iff₀ hunitq, lt_div_iff₀ hunitq, div_lt_iff₀ hunitq]
  norm_cast
  cases nb.closed with
  | true => simp
  | false =>
    simp only [Bool.false_eq_true, if_false, Bool.and_eq_true, decide_eq_true_eq, forall_const]
    omega

theorem roundDiv_cases (num den : Nat) (tie : Tie) :
    roundDiv num den tie = num / den ∨ roundDiv num den tie = num / den + 1 := by
  unfold roundDiv
  dsimp only
  split
  · exact Or.inl rfl
  · split
    · exact Or.inr rfl
    · cases tie with
      | away => exact Or.inr rfl
      | toEven =>
        dsimp only
        split
        · exact Or.inl rfl
        · exact Or.inr rfl

/-- What is found on a grid is in the neighbourhood. -/
theorem holds_of_gridPoint? {n : Nat} (h : gridPoint? nb unit step tie = some n) :
    nb.holds (n * step) unit = true := by
  unfold gridPoint? at h
  dsimp only at h
  split at h
  · rename_i hbelow habove
    obtain rfl := Option.some.inj h
    rcases roundDiv_cases (nb.centre * unit) step tie with hround | hround <;> rw [hround]
    · exact hbelow
    · exact habove
  · rename_i hbelow _
    obtain rfl := Option.some.inj h
    exact hbelow
  · rename_i _ habove
    obtain rfl := Option.some.inj h
    exact habove
  · exact absurd h (by simp)

/-- A fine grid has a point in the neighbourhood: the one just below the double. -/
theorem isSome_gridPoint? (tie : Tie) {m : Nat} {q : Int} (hm : 0 < m) (hstep : 0 < step)
    (hfine : step ≤ unit) : (gridPoint? (.of m q) unit step tie).isSome = true := by
  have hunit : 0 < unit := Nat.lt_of_lt_of_le hstep hfine
  have hbelow : (Neighbourhood.of m q).holds
      ((Neighbourhood.of m q).centre * unit / step * step) unit = true := by
    have hlow : (Neighbourhood.of m q).low + 1 ≤ (Neighbourhood.of m q).centre := by
      simp only [Neighbourhood.of]
      split <;> omega
    have hhigh : (Neighbourhood.of m q).centre < (Neighbourhood.of m q).high := by
      simp only [Neighbourhood.of]
      omega
    generalize Neighbourhood.of m q = nb at hlow hhigh ⊢
    have hle := Nat.div_mul_le_self (nb.centre * unit) step
    have hlt := Nat.lt_div_mul_add (a := nb.centre * unit) hstep
    have hlow' := Nat.mul_le_mul_right unit hlow
    have hhigh' := Nat.mul_lt_mul_of_pos_right hhigh hunit
    rw [Nat.add_mul, Nat.one_mul] at hlow'
    unfold Neighbourhood.holds
    split <;> simp only [Bool.and_eq_true, decide_eq_true_eq] <;> omega
  unfold gridPoint?
  dsimp only
  rw [hbelow]
  split <;> simp_all

/-! ## All grids -/

/-- A quarter of the last place, in the scale of a grid. -/
def gridUnit (exponent place : Int) : Nat :=
  if 0 ≤ place then (scaleTwo 1 1 (exponent - 2)).1
  else (scaleTwo 1 1 (exponent - 2)).1 * Nat.pow 10 (-place).toNat

/-- A step of a grid, in the same scale. -/
def gridStep (exponent place : Int) : Nat :=
  if 0 ≤ place then Nat.pow 10 place.toNat * (scaleTwo 1 1 (exponent - 2)).2
  else (scaleTwo 1 1 (exponent - 2)).2

theorem shortestFrom_succ (exponent : Int) (fuel : Nat) (place : Int) :
    shortestFrom nb exponent tie (fuel + 1) place =
      match gridPoint? nb (gridUnit exponent place) (gridStep exponent place) tie with
      | some n => (n, place)
      | none => shortestFrom nb exponent tie fuel (place - 1) := rfl

theorem grid_pos (exponent place : Int) :
    0 < gridUnit exponent place ∧ 0 < gridStep exponent place := by
  have hden : 0 < (scaleTwo 1 1 (exponent - 2)).2 := scaleTwo_pos (by decide) 1 _
  have hnum : 0 < (scaleTwo 1 1 (exponent - 2)).1 := by
    unfold scaleTwo
    split
    · exact Nat.mul_pos (by decide) (Nat.pow_pos (by decide))
    · exact Nat.one_pos
  have hten : ∀ n, 0 < Nat.pow 10 n := fun n => Nat.pow_pos (by decide)
  unfold gridUnit gridStep
  split
  · exact ⟨hnum, Nat.mul_pos (hten _) hden⟩
  · exact ⟨Nat.mul_pos hnum (hten _), hden⟩

theorem gridStep_div_gridUnit (exponent place : Int) :
    (gridStep exponent place / gridUnit exponent place : ℚ) = 10 ^ place / 2 ^ (exponent - 2) := by
  have hscale := scaleTwo_eq 1 1 (exponent - 2)
  rw [Nat.cast_one, div_one, one_mul] at hscale
  rw [← hscale]
  unfold gridUnit gridStep
  simp only [Nat.pow_eq]
  split
  · rename_i hplace
    have hten : (10 : ℚ) ^ place = 10 ^ place.toNat := by
      rw [← zpow_natCast, Int.toNat_of_nonneg hplace]
    push_cast [hten]
    rw [div_div_eq_mul_div]
  · rename_i hplace
    have hten : (10 : ℚ) ^ place = (10 ^ (-place).toNat)⁻¹ := by
      rw [← zpow_natCast, Int.toNat_of_nonneg (by omega), zpow_neg, inv_inv]
    push_cast [hten]
    rw [div_div_eq_mul_div, inv_mul_eq_div, div_div, mul_comm]

/-- Three orders of ten are less than ten of two, and 28 are more than 93. -/
theorem ten_zpow_le_two_zpow {p k : Int} (h : 10 * p ≤ 3 * k) (h' : 93 * p ≤ 28 * k) :
    (10 : ℚ) ^ p ≤ 2 ^ k := by
  rcases le_or_gt 0 p with hp | hp
  · refine le_of_pow_le_pow_left₀ (n := 3) (by decide) (by positivity) ?_
    calc ((10 : ℚ) ^ p) ^ 3 = (10 ^ 3) ^ p := by rw [← zpow_natCast, zpow_comm]; norm_cast
      _ ≤ (2 ^ 10) ^ p := zpow_le_zpow_left₀ hp (by positivity) (by norm_num)
      _ = 2 ^ (10 * p) := by rw [zpow_mul]; norm_cast
      _ ≤ 2 ^ (3 * k) := zpow_le_zpow_right₀ (by norm_num) h
      _ = (2 ^ k) ^ 3 := by rw [mul_comm, zpow_mul]; norm_cast
  · have hbase : ((2 : ℚ) ^ 93) ^ (-p) ≤ (10 ^ 28) ^ (-p) :=
      zpow_le_zpow_left₀ (by omega) (by positivity) (by norm_num)
    refine le_of_pow_le_pow_left₀ (n := 28) (by decide) (by positivity) ?_
    calc ((10 : ℚ) ^ p) ^ 28 = ((10 ^ 28) ^ (-p))⁻¹ := by
          rw [zpow_neg, inv_inv, ← zpow_natCast, zpow_comm]; norm_cast
      _ ≤ ((2 ^ 93) ^ (-p))⁻¹ := inv_anti₀ (by positivity) hbase
      _ = 2 ^ (93 * p) := by rw [zpow_neg, inv_inv, zpow_mul]; norm_cast
      _ ≤ 2 ^ (28 * k) := zpow_le_zpow_right₀ (by norm_num) h'
      _ = (2 ^ k) ^ 28 := by rw [mul_comm, zpow_mul]; norm_cast

/-! ## The search -/

/-- If one of the grids that are tried is fine enough, the search ends in the neighbourhood. -/
theorem shortestFrom_contains {m : Nat} {q : Int} (hm : 0 < m) {fuel : Nat} {place : Int}
    (hfine : ∃ j : Nat, j < fuel ∧ (10 : ℚ) ^ (place - j) ≤ 2 ^ (q - 2)) :
    (Neighbourhood.of m q).Contains
      ((shortestFrom (.of m q) q tie fuel place).1 *
        10 ^ (shortestFrom (.of m q) q tie fuel place).2 / 2 ^ (q - 2)) := by
  induction fuel generalizing place with
  | zero => exact absurd hfine (by simp)
  | succ fuel ih =>
    obtain ⟨hunit, hstep⟩ := grid_pos q place
    have hunitq : (0 : ℚ) < gridUnit q place := by exact_mod_cast hunit
    have hgrid := gridStep_div_gridUnit q place
    rw [shortestFrom_succ]
    cases hpoint : gridPoint? (.of m q) (gridUnit q place) (gridStep q place) tie with
    | some n =>
      have hholds := (holds_iff hunit).mp (holds_of_gridPoint? hpoint)
      rw [Nat.cast_mul, mul_div_assoc, hgrid, ← mul_div_assoc] at hholds
      exact hholds
    | none =>
      obtain ⟨j, hj, hfine⟩ := hfine
      refine ih ?_
      cases j with
      | zero =>
        -- this grid was fine enough, and it had a point
        have hle : gridStep q place ≤ gridUnit q place := by
          rw [Nat.cast_zero, sub_zero] at hfine
          rw [← Nat.cast_le (α := ℚ), ← div_le_one hunitq, hgrid, div_le_one (by positivity)]
          exact hfine
        have hsome := isSome_gridPoint? tie (q := q) hm hstep hle
        rw [hpoint] at hsome
        exact absurd hsome (by simp)
      | succ j =>
        refine ⟨j, by omega, ?_⟩
        have hplace : place - 1 - (j : Int) = place - ((j + 1 : Nat) : Int) := by
          push_cast
          ring
        rw [hplace]
        exact hfine

/-- **The digits that are found lie in the neighbourhood of the double.** -/
theorem shortest_contains {m : Nat} {q : Int} (hbinary : IsBinary m q) (hm : 0 < m) (tie : Tie) :
    (Neighbourhood.of m q).Contains
      ((shortest m q tie).1 * 10 ^ (shortest m q tie).2 / 2 ^ (q - 2)) := by
  have hlog : m.log2 ≤ 52 := by
    have hlt : m < 2 ^ 53 := hbinary.mantissa
    have := (Nat.log2_lt hm.ne').mpr hlt
    omega
  have hlow := hbinary.low
  have hhigh := hbinary.high
  refine shortestFrom_contains hm ⟨23, by decide, ten_zpow_le_two_zpow ?_ ?_⟩ <;> omega

end MediaIndex.Number
