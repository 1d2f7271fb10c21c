import MediaIndex.Proofs.Number.Differences

/-!
# The numbers that doubles stand for

A finite double stands for a rational number, `value`. Doubles are compared field by field, sign,
exponent and mantissa; that this is the order of the numbers is what the leading bit of a mantissa
is for (`compare_eq_compare_valueOf`).

> **`le_iff_value`**, **`lt_iff_value`**: finite doubles are in the order of their values.
>
> **`value_of_finite`**: the value is what the parts of a double say.
-/

set_option autoImplicit false

namespace MediaIndex.Number

open Float.Model Float.Model.UnpackedFloat

/-! ## Values -/

/-- The number that an unpacked double stands for, or zero if it is not finite. -/
def valueOf : UnpackedFloat → ℚ
  | .finite .positive m e _ => m * 2 ^ e
  | .finite .negative m e _ => -(m * 2 ^ e)
  | _ => 0

/-- The number that a double stands for, or zero if it is not finite. -/
def value (x : Float) : ℚ := valueOf x.toModel.unpack

theorem value_of_isFinite_eq_false {x : Float} (h : isFinite x = false) : value x = 0 := by
  have hfinite : ¬x.toModel.unpack.isFinite = true := by
    rw [← isFinite_iff_unpack, h]
    decide
  unfold value
  cases hx : x.toModel.unpack with
  | notANumber => rfl
  | infinity s => rfl
  | zero s => rfl
  | finite s m e hm => exact absurd (by rw [hx]; rfl) hfinite

/-! ## Order -/

variable {m m' : Nat} {e e' : Int}

theorem magnitude_pos (hm : 0 < m) (e : Int) : (0 : ℚ) < m * 2 ^ e := by
  have : (0 : ℚ) < m := by exact_mod_cast hm
  positivity

theorem magnitude_lt_of_exponent_lt (h : IsBinary m e) (h' : IsBinary m' e') (hlt : e < e') :
    (m * 2 ^ e : ℚ) < m' * 2 ^ e' := by
  have hshifted : (m : ℚ) < m' * 2 ^ (e' - e).toNat := by
    exact_mod_cast lt_shifted h' h hlt
  have hpower : (2 : ℚ) ^ e' = 2 ^ (e' - e).toNat * 2 ^ e := by
    rw [← zpow_natCast, ← zpow_add₀ two_ne_zero, Int.toNat_of_nonneg (by omega), sub_add_cancel]
  rw [hpower, ← mul_assoc]
  exact mul_lt_mul_of_pos_right hshifted (by positivity)

/-- Doubles above zero are compared by their exponents first. -/
theorem compare_magnitude (h : IsBinary m e) (h' : IsBinary m' e') :
    (compare e e').then (compare m m') = compare (m * 2 ^ e : ℚ) (m' * 2 ^ e') := by
  rcases Int.lt_trichotomy e e' with hlt | rfl | hlt
  · rw [Int.compare_eq_lt.mpr hlt,
      compare_lt_iff_lt.mpr (magnitude_lt_of_exponent_lt h h' hlt)]
    rfl
  · have hpower : (0 : ℚ) < 2 ^ e := by positivity
    rw [Int.compare_eq_eq.mpr rfl, Ordering.then]
    rcases Nat.lt_trichotomy m m' with hm | rfl | hm
    · rw [Nat.compare_eq_lt.mpr hm, eq_comm, compare_lt_iff_lt]
      exact mul_lt_mul_of_pos_right (by exact_mod_cast hm) hpower
    · rw [Nat.compare_eq_eq.mpr rfl, eq_comm, compare_eq_iff_eq]
    · rw [Nat.compare_eq_gt.mpr hm, eq_comm, compare_gt_iff_gt]
      exact mul_lt_mul_of_pos_right (by exact_mod_cast hm) hpower
  · rw [Int.compare_eq_gt.mpr hlt,
      compare_gt_iff_gt.mpr (magnitude_lt_of_exponent_lt h' h hlt)]
    rfl

/-- An unpacked double that is finite, its mantissa and its exponent being those of a double. -/
structure IsExact (f : UnpackedFloat) : Prop where
  finite : f.isFinite = true
  binary : ∀ s m e hm, f = .finite s m e hm → IsBinary m e

theorem isExact_unpack {x : Float} (h : isFinite x = true) : IsExact x.toModel.unpack where
  finite := (isFinite_iff_unpack x).mp h
  binary _ _ _ _ hx := isBinary_unpack hx

/-- **Finite doubles are compared as the numbers they stand for.** -/
theorem compare_eq_compare_valueOf {f g : UnpackedFloat} (hf : IsExact f) (hg : IsExact g) :
    f.compare g = some (compare (valueOf f) (valueOf g)) := by
  have hless {p q : ℚ} (h : p < q) : some Ordering.lt = some (compare p q) :=
    congrArg some (compare_lt_iff_lt.mpr h).symm
  have hmore {p q : ℚ} (h : q < p) : some Ordering.gt = some (compare p q) :=
    congrArg some (compare_gt_iff_gt.mpr h).symm
  cases f with
  | notANumber => exact absurd hf.finite (by decide)
  | infinity s => exact absurd hf.finite (by simp [UnpackedFloat.isFinite])
  | zero s =>
    cases g with
    | notANumber => exact absurd hg.finite (by decide)
    | infinity s => exact absurd hg.finite (by simp [UnpackedFloat.isFinite])
    | zero s' => exact congrArg some (compare_eq_iff_eq.mpr rfl).symm
    | finite s' m' e' hm' =>
      have hpos := magnitude_pos hm' e'
      cases s' with
      | positive => exact hless hpos
      | negative => exact hmore (neg_lt_zero.mpr hpos)
  | finite s m e hm =>
    have hpos := magnitude_pos hm e
    cases g with
    | notANumber => exact absurd hg.finite (by decide)
    | infinity s => exact absurd hg.finite (by simp [UnpackedFloat.isFinite])
    | zero s' =>
      cases s with
      | positive => exact hmore hpos
      | negative => exact hless (neg_lt_zero.mpr hpos)
    | finite s' m' e' hm' =>
      have hpos' := magnitude_pos hm' e'
      have hmagnitude :=
        compare_magnitude (hf.binary s m e hm rfl) (hg.binary s' m' e' hm' rfl)
      cases s <;> cases s'
      case negative.negative =>
        -- below zero the order of the magnitudes is turned round
        change some ((compare e e').then (compare m m')).swap =
          some (compare (-(m * 2 ^ e) : ℚ) (-(m' * 2 ^ e')))
        rw [hmagnitude]
        rcases lt_trichotomy (m * 2 ^ e : ℚ) (m' * 2 ^ e') with hlt | heq | hlt
        · rw [compare_lt_iff_lt.mpr hlt]
          exact hmore (neg_lt_neg hlt)
        · rw [heq, compare_eq_iff_eq.mpr rfl, compare_eq_iff_eq.mpr rfl]
          rfl
        · rw [compare_gt_iff_gt.mpr hlt]
          exact hless (neg_lt_neg hlt)
      case negative.positive => exact hless ((neg_lt_zero.mpr hpos).trans hpos')
      case positive.negative => exact hmore ((neg_lt_zero.mpr hpos').trans hpos)
      case positive.positive => exact congrArg some hmagnitude

variable {x y : Float}

theorem le_iff_value (hx : isFinite x = true) (hy : isFinite y = true) :
    x ≤ y ↔ value x ≤ value y := by
  rw [le_iff_unpack, UnpackedFloat.le,
    compare_eq_compare_valueOf (isExact_unpack hx) (isExact_unpack hy)]
  exact Ordering.isLE_iff_ne_gt.trans compare_le_iff_le

theorem lt_iff_value (hx : isFinite x = true) (hy : isFinite y = true) :
    x < y ↔ value x < value y := by
  rw [lt_iff_unpack, UnpackedFloat.lt,
    compare_eq_compare_valueOf (isExact_unpack hx) (isExact_unpack hy), beq_iff_eq,
    Option.some.injEq]
  exact compare_lt_iff_lt

/-! ## What is not finite -/

theorem compare_infinity {f : UnpackedFloat} (h : f.isFinite = true) :
    f.compare (.infinity .positive) = some .lt ∧ f.compare (.infinity .negative) = some .gt ∧
      UnpackedFloat.compare (.infinity .positive) f = some .gt ∧
      UnpackedFloat.compare (.infinity .negative) f = some .lt := by
  cases f with
  | notANumber => exact absurd h (by decide)
  | infinity s => exact absurd h (by simp [UnpackedFloat.isFinite])
  | zero s => exact ⟨rfl, rfl, rfl, rfl⟩
  | finite s m e hm => cases s <;> exact ⟨rfl, rfl, rfl, rfl⟩

theorem compare_notANumber (f : UnpackedFloat) : f.compare .notANumber = none := by
  cases f <;> rfl

variable {a b : Float}

/-- What is infinite is beyond all finite doubles, on one side or the other. -/
theorem le_or_lt_of_infinite (hnumber : isNotANumber x = false) (hx : isFinite x = false)
    (ha : isFinite a = true) (hb : isFinite b = true) : x ≤ a ∨ b < x := by
  have hfinite := (isFinite_iff_unpack x).not.mp (by simp [hx])
  have hsign := (isNotANumber_iff_sign? x).not.mp (by simp [hnumber])
  obtain ⟨-, -, -, hbelow⟩ := compare_infinity ((isFinite_iff_unpack a).mp ha)
  obtain ⟨habove, -⟩ := compare_infinity ((isFinite_iff_unpack b).mp hb)
  rw [le_iff_unpack, lt_iff_unpack, UnpackedFloat.le, UnpackedFloat.lt]
  unfold sign? at hsign
  cases hf : x.toModel.unpack with
  | notANumber => exact absurd (by rw [hf]; rfl) hsign
  | zero s => exact absurd (by rw [hf]; rfl) hfinite
  | finite s m e hm => exact absurd (by rw [hf]; rfl) hfinite
  | infinity s =>
    cases s with
    | negative => exact Or.inl (by rw [hbelow]; rfl)
    | positive => exact Or.inr (by rw [habove]; rfl)

/-- What lies between finite doubles is finite. -/
theorem isFinite_of_between (ha : isFinite a = true) (hb : isFinite b = true) (hax : a ≤ x)
    (hxb : x ≤ b) : isFinite x = true := by
  obtain ⟨-, hbelow, -, -⟩ := compare_infinity ((isFinite_iff_unpack a).mp ha)
  obtain ⟨-, -, habove, -⟩ := compare_infinity ((isFinite_iff_unpack b).mp hb)
  rw [le_iff_unpack, UnpackedFloat.le] at hax hxb
  rw [isFinite_iff_unpack]
  cases hf : x.toModel.unpack with
  | zero s => rfl
  | finite s m e hm => rfl
  | notANumber => exact absurd hax (by rw [hf, compare_notANumber]; decide)
  | infinity s =>
    cases s with
    | negative => exact absurd hax (by rw [hf, hbelow]; decide)
    | positive => exact absurd hxb (by rw [hf, habove]; decide)

/-! ## Parts -/

theorem ofBitVec_unpackSign (b : BitVec Float.Model.Format.binary64.numBits) :
    Sign.ofBitVec (@unpackSign Float.Model.Format.binary64 b) =
      if decide (signBit ≤ b.toNat) then .negative else .positive := by
  have hlt : b.toNat < 2 * signBit := b.isLt
  have hzero : @unpackSign Float.Model.Format.binary64 b = 0#1 ↔ ¬signBit ≤ b.toNat := by
    rw [unpackSign_def, ← BitVec.toNat_inj, BitVec.extractLsb'_toNat, Nat.shiftRight_eq_div_pow]
    change b.toNat / signBit % 2 = 0 ↔ _
    simp only [signBit] at *
    omega
  unfold Sign.ofBitVec
  by_cases h : signBit ≤ b.toNat
  · rw [if_neg (hzero.not.mpr (not_not.mpr h)), if_pos (decide_eq_true h)]
  · rw [if_pos (hzero.mpr h), if_neg (by simpa using h)]

theorem toNat_unpackMantissa (b : BitVec Float.Model.Format.binary64.numBits) :
    (@unpackMantissa Float.Model.Format.binary64 b).toNat = b.toNat % leadingBit := by
  rw [unpackMantissa_def, BitVec.extractLsb'_toNat, Nat.shiftRight_zero]
  rfl

theorem toNat_unpackExponent (b : BitVec Float.Model.Format.binary64.numBits) :
    (@unpackExponent Float.Model.Format.binary64 b).toNat = b.toNat / leadingBit % 2048 := by
  rw [unpackExponent_def, BitVec.extractLsb'_toNat, Nat.shiftRight_eq_div_pow]
  rfl

/-- The sign of a double, by its first bit. -/
def signOfBits (x : Float) : Sign :=
  if decide (signBit ≤ x.toBits.toNat) then .negative else .positive

/-- The fields that a double is unpacked to are those of its bits. -/
theorem fields_of_toBits (x : Float) :
    Sign.ofBitVec (@unpackSign Float.Model.Format.binary64 x.toModel.toBits.toBitVec) =
        signOfBits x ∧
      (@unpackMantissa Float.Model.Format.binary64 x.toModel.toBits.toBitVec).toNat =
        x.toBits.toNat % leadingBit ∧
      (@unpackExponent Float.Model.Format.binary64 x.toModel.toBits.toBitVec).toNat =
        x.toBits.toNat / leadingBit % 2048 :=
  ⟨ofBitVec_unpackSign _, toNat_unpackMantissa _, toNat_unpackExponent _⟩

/-- Without an exponent no leading bit is added to the mantissa. -/
theorem unpack_of_subnormal (hzero : x.toBits.toNat / leadingBit % 2048 = 0) :
    (x.toBits.toNat % leadingBit = 0 ∧ ∃ s, x.toModel.unpack = .zero s) ∨
      ∃ hm, x.toModel.unpack =
        .finite (signOfBits x) (x.toBits.toNat % leadingBit) (-1074) hm := by
  obtain ⟨hsign, hmantissa, hexponent⟩ := fields_of_toBits x
  have hones : x.toBits.toNat / leadingBit % 2048 ≠ 2047 → _ :=
    (unpackExponent_eq_iff x.toModel.toBits.toBitVec).not.mpr
  have hzeros : @unpackExponent Float.Model.Format.binary64 x.toModel.toBits.toBitVec = 0#_ :=
    BitVec.eq_of_toNat_eq (hexponent.trans hzero)
  unfold Float.Model.unpack UnpackedFloat.unpack
  dsimp only
  rw [if_neg (hones (by omega)), if_pos hzeros]
  split
  · rename_i hnone
    refine Or.inl ⟨?_, _, rfl⟩
    rw [← hmantissa, hnone]
    rfl
  · rename_i hsome
    have hpos : 0 < x.toBits.toNat % leadingBit := by
      rw [← hmantissa]
      exact Nat.pos_of_ne_zero fun hzero => hsome (BitVec.eq_of_toNat_eq hzero)
    refine Or.inr ⟨hpos, ?_⟩
    rw [UnpackedFloat.finite.injEq]
    exact ⟨hsign, hmantissa, by rw [hexponent, hzero]; rfl⟩

theorem unpack_of_normal (hfinite : x.toBits.toNat / leadingBit % 2048 ≠ 2047)
    (hnormal : x.toBits.toNat / leadingBit % 2048 ≠ 0) :
    ∃ hm, x.toModel.unpack =
      .finite (signOfBits x) (leadingBit + x.toBits.toNat % leadingBit)
        ((x.toBits.toNat / leadingBit % 2048 : Nat) - 1075) hm := by
  obtain ⟨hsign, hmantissa, hexponent⟩ := fields_of_toBits x
  have hones : x.toBits.toNat / leadingBit % 2048 ≠ 2047 → _ :=
    (unpackExponent_eq_iff x.toModel.toBits.toBitVec).not.mpr
  have hbias : (Float.Model.Format.binary64.exponentBias : Int) +
      (Float.Model.Format.binary64.mantissaBitsWithoutImplicit : Int) = 1075 := rfl
  unfold Float.Model.unpack UnpackedFloat.unpack
  dsimp only
  rw [hbias, if_neg (hones hfinite),
    if_neg fun hzero => hnormal (by rw [← hexponent, hzero]; rfl)]
  refine ⟨Nat.add_pos_left (by decide) _, ?_⟩
  rw [UnpackedFloat.finite.injEq]
  exact ⟨hsign, (toNat_leading _).trans (by rw [hmantissa]), by rw [hexponent]⟩

/-- What a finite double is unpacked to, by its parts. -/
theorem unpack_of_finite {negative : Bool} {m : Nat} {q : Int}
    (h : Parts.ofFloat x = .finite negative m q) :
    (m = 0 ∧ ∃ s, x.toModel.unpack = .zero s) ∨
      ∃ hm, x.toModel.unpack = .finite (if negative then .negative else .positive) m q hm := by
  unfold Parts.ofFloat at h
  dsimp only at h
  split at h
  · split at h <;> exact absurd h (by simp)
  · rename_i hfinite
    split at h
    · rename_i hzero
      obtain ⟨rfl, rfl, rfl⟩ := Parts.finite.inj h
      exact unpack_of_subnormal hzero
    · rename_i hnormal
      obtain ⟨rfl, rfl, rfl⟩ := Parts.finite.inj h
      exact Or.inr (unpack_of_normal hfinite hnormal)

/-- **What a finite double stands for**, by its parts. -/
theorem value_of_finite {negative : Bool} {m : Nat} {q : Int}
    (h : Parts.ofFloat x = .finite negative m q) :
    value x = (if negative then -1 else 1) * (m * 2 ^ q) := by
  unfold value
  rcases unpack_of_finite h with ⟨rfl, s, hx⟩ | ⟨hm, hx⟩
  · rw [hx, Nat.cast_zero, zero_mul, mul_zero]
    rfl
  · rw [hx]
    cases negative with
    | true => exact (neg_one_mul _).symm
    | false => exact (one_mul _).symm

theorem value_pos {m : Nat} {q : Int} (h : Parts.ofFloat x = .finite false m q) (hm : 0 < m) :
    0 < value x := by
  rw [value_of_finite h]
  exact (magnitude_pos hm q).trans_eq (one_mul _).symm

/-- The parts of a double that stands for something above zero. -/
theorem exists_parts_of_value_pos (h : 0 < value x) :
    ∃ m q, Parts.ofFloat x = .finite false m q ∧ value x = m * 2 ^ q := by
  have hfinite : isFinite x = true := by
    by_contra hinfinite
    exact absurd (value_of_isFinite_eq_false (Bool.not_eq_true _ ▸ hinfinite)) h.ne'
  unfold isFinite at hfinite
  split at hfinite
  · rename_i negative m q hparts
    have hvalue := value_of_finite hparts
    cases negative with
    | false => exact ⟨m, q, hparts, hvalue.trans (one_mul _)⟩
    | true =>
      have hnonneg : (0 : ℚ) ≤ m * 2 ^ q := by positivity
      exact absurd (hvalue.trans (neg_one_mul _)) (by linarith)
  · exact absurd hfinite (by simp)

end MediaIndex.Number
