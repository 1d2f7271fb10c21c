import Mathlib
import MediaIndex.Number.Binary64

/-!
# Signs of sums, differences, products and quotients

A double that is a number has a sign, zero and infinity included. Of numbers the four operations
make something that is no number only from infinities and zeros: a sum or a difference of
infinities, a product of zero and infinity, a quotient of two zeros or two infinities. So an
expression is a number where the signs of its operands keep clear of that.

> **`isNotANumber_iff_sign?`**: what is no number is what has no sign.
> **`sign?_add`**, **`sign?_mul`**, **`sign?_div`**: from positive operands, the second one of a
> product or a quotient being finite, something positive comes.
-/

set_option autoImplicit false

namespace MediaIndex.Number

open Float.Model Float.Model.UnpackedFloat

/-! ## Unpacked doubles -/

/-- The sign of an unpacked double, unless it is no number. -/
def signOf? : UnpackedFloat → Option Sign
  | .notANumber => none
  | .infinity s | .zero s | .finite s _ _ _ => some s

theorem signOf?_unpack {spec : Float.Model.Format} (b : BitVec spec.numBits) :
    signOf? (UnpackedFloat.unpack spec b) =
      if unpackExponent b = -1#_ ∧ unpackMantissa b ≠ 0#_ then none
      else some (Sign.ofBitVec (unpackSign b)) := by
  unfold UnpackedFloat.unpack
  by_cases hexponent : unpackExponent b = -1#_
  · by_cases hmantissa : unpackMantissa b = 0#_
    · simp [hexponent, hmantissa, signOf?]
    · simp [hexponent, hmantissa, signOf?]
  · simp only [hexponent, false_and, if_false]
    split
    · split <;> rfl
    · rfl

theorem isFinite_unpack {spec : Float.Model.Format} (b : BitVec spec.numBits) :
    (UnpackedFloat.unpack spec b).isFinite = true ↔ unpackExponent b ≠ -1#_ := by
  unfold UnpackedFloat.unpack
  by_cases hexponent : unpackExponent b = -1#_
  · simp only [hexponent, if_true]
    split <;> simp [UnpackedFloat.isFinite]
  · simp only [hexponent, if_false, not_false_eq_true, ne_eq, iff_true]
    split
    · split <;> rfl
    · rfl

/-- Packing may round a double to zero or to infinity, but it keeps the sign. -/
theorem signOf?_unpack_pack {spec : Float.Model.Format} (f : UnpackedFloat) :
    signOf? (UnpackedFloat.unpack spec (UnpackedFloat.pack spec f)) = signOf? f := by
  rw [signOf?_unpack]
  fun_cases UnpackedFloat.pack with
  | case1 =>
    have hnan : isNaNBits (packedNaN spec) = true := isNaNBits_packedNaN
    simp only [isNaNBits, decide_eq_true_eq] at hnan
    rw [if_pos hnan]
    rfl
  | case2 s => simp [packedInfinity, signOf?]
  | case3 s => simp [packedZero, signOf?]
  | case4 s m e hm biased h => simp [packedInfinity, signOf?]
  | case5 s m e hm bits biased hsmall hnormal =>
    -- an exponent of ones alone is kept for what is not finite, and this one is below it
    have hexponent : BitVec.ofNat spec.exponentBits biased ≠ -1#_ := by
      intro heq
      have hnat := congrArg BitVec.toNat heq
      simp only [BitVec.neg_one_eq_allOnes, BitVec.toNat_ofNat, BitVec.toNat_allOnes] at hnat
      rw [Nat.mod_eq_of_lt (by omega)] at hnat
      omega
    simp [hexponent, signOf?]
  | case6 s m e hm bits biased hsmall hnormal =>
    have hexponent : BitVec.ofNat spec.exponentBits 0 ≠ -1#_ := by
      simp [Nat.pos_iff_ne_zero.mp spec.he]
    simp [hexponent, signOf?]

/-! ## Doubles -/

/-- The sign of a double, unless it is no number. -/
def sign? (x : Float) : Option Sign := signOf? x.toModel.unpack

theorem unpackExponent_eq_iff (b : BitVec Float.Model.Format.binary64.numBits) :
    @unpackExponent Float.Model.Format.binary64 b = -1#_ ↔ b.toNat / leadingBit % 2048 = 2047 := by
  rw [unpackExponent_def, ← BitVec.toNat_inj, BitVec.extractLsb'_toNat, Nat.shiftRight_eq_div_pow]
  rfl

theorem unpackMantissa_eq_iff (b : BitVec Float.Model.Format.binary64.numBits) :
    @unpackMantissa Float.Model.Format.binary64 b = 0#_ ↔ b.toNat % leadingBit = 0 := by
  rw [unpackMantissa_def, ← BitVec.toNat_inj, BitVec.extractLsb'_toNat, Nat.shiftRight_zero]
  rfl

/-- The three kinds of doubles, by their fields. -/
theorem ofFloat_cases (x : Float) :
    let biased := x.toBits.toNat / leadingBit % 2048
    let fraction := x.toBits.toNat % leadingBit
    (biased = 2047 ∧ fraction ≠ 0 ∧ Parts.ofFloat x = .notANumber) ∨
      (biased = 2047 ∧ fraction = 0 ∧ ∃ negative, Parts.ofFloat x = .infinite negative) ∨
      (biased ≠ 2047 ∧ ∃ negative m q, Parts.ofFloat x = .finite negative m q) := by
  intro biased fraction
  unfold Parts.ofFloat
  by_cases hbiased : biased = 2047
  · by_cases hfraction : fraction = 0
    · exact Or.inr (Or.inl ⟨hbiased, hfraction, _, by rw [if_pos hbiased, if_pos hfraction]⟩)
    · exact Or.inl ⟨hbiased, hfraction, by rw [if_pos hbiased, if_neg hfraction]⟩
  · refine Or.inr (Or.inr ⟨hbiased, ?_⟩)
    rw [if_neg hbiased]
    split <;> exact ⟨_, _, _, rfl⟩

theorem isNotANumber_iff (x : Float) : isNotANumber x = true ↔
    x.toBits.toNat / leadingBit % 2048 = 2047 ∧ x.toBits.toNat % leadingBit ≠ 0 := by
  rcases ofFloat_cases x with ⟨hbiased, hfraction, h⟩ | ⟨-, hfraction, s, h⟩ | ⟨hbiased, s, m, q, h⟩
  · simp [isNotANumber, h, hbiased, hfraction]
  · simp [isNotANumber, h, hfraction]
  · simp [isNotANumber, h, hbiased]

theorem isFinite_iff (x : Float) :
    isFinite x = true ↔ x.toBits.toNat / leadingBit % 2048 ≠ 2047 := by
  rcases ofFloat_cases x with ⟨hbiased, -, h⟩ | ⟨hbiased, -, s, h⟩ | ⟨hbiased, s, m, q, h⟩ <;>
    simp [isFinite, h, hbiased]

/-- **What is no number is what has no sign.** -/
theorem isNotANumber_iff_sign? (x : Float) : isNotANumber x = true ↔ sign? x = none := by
  have hexponent := unpackExponent_eq_iff x.toModel.toBits.toBitVec
  have hmantissa := unpackMantissa_eq_iff x.toModel.toBits.toBitVec
  have hbits : x.toModel.toBits.toBitVec.toNat = x.toBits.toNat := rfl
  rw [isNotANumber_iff, sign?, Float.Model.unpack, signOf?_unpack]
  simp only [hexponent, hmantissa, hbits, ne_eq, ite_eq_left_iff, reduceCtorEq, imp_false,
    Decidable.not_not]

theorem isFinite_iff_unpack (x : Float) :
    isFinite x = true ↔ x.toModel.unpack.isFinite = true := by
  have hexponent := unpackExponent_eq_iff x.toModel.toBits.toBitVec
  have hbits : x.toModel.toBits.toBitVec.toNat = x.toBits.toNat := rfl
  rw [isFinite_iff, ← hbits, ne_eq, ← hexponent, Float.Model.unpack, isFinite_unpack]

/-! ## Rounding -/

theorem signOf?_roundWithAccuracy (spec : Float.Model.Format) (s : Sign) (m : Nat) (e : Int)
    (a : Accuracy) : signOf? (roundWithAccuracy spec s m e a) = some s := by
  unfold roundWithAccuracy
  dsimp only
  split <;> rfl

theorem signOf?_normalize (spec : Float.Model.Format) {m : Int} (h : 0 ≤ m) (e : Int) :
    signOf? (UnpackedFloat.normalize spec m e .positive) = some .positive := by
  unfold UnpackedFloat.normalize
  split
  · rename_i hlt
    exact absurd (Int.compare_eq_lt.mp hlt) (by omega)
  · rfl
  · exact signOf?_roundWithAccuracy ..

theorem signOf?_normalize_ne_none (spec : Float.Model.Format) (m e : Int) (s : Sign) :
    signOf? (UnpackedFloat.normalize spec m e s) ≠ none := by
  unfold UnpackedFloat.normalize
  split
  · exact fun h => absurd ((signOf?_roundWithAccuracy ..).symm.trans h) (by simp)
  · simp [signOf?]
  · exact fun h => absurd ((signOf?_roundWithAccuracy ..).symm.trans h) (by simp)

/-! ## Operations -/

/-- What is positive: zero or above, or infinite. -/
theorem positive_cases {f : UnpackedFloat} (h : signOf? f = some .positive) :
    f = .infinity .positive ∨ f = .zero .positive ∨
      ∃ m e hm, f = .finite .positive m e hm := by
  cases f with
  | notANumber => exact absurd h (by simp [signOf?])
  | infinity s =>
    obtain rfl : s = .positive := Option.some.inj h
    exact Or.inl rfl
  | zero s =>
    obtain rfl : s = .positive := Option.some.inj h
    exact Or.inr (Or.inl rfl)
  | finite s m e hm =>
    obtain rfl : s = .positive := Option.some.inj h
    exact Or.inr (Or.inr ⟨m, e, hm, rfl⟩)

variable {x y : Float}

theorem sign?_add (hx : sign? x = some .positive) (hy : sign? y = some .positive) :
    sign? (x + y) = some .positive := by
  refine (signOf?_unpack_pack _).trans ?_
  rcases positive_cases hx with hx | hx | ⟨m, e, hm, hx⟩ <;>
    rcases positive_cases hy with hy | hy | ⟨m', e', hm', hy⟩ <;> rw [hx, hy]
  case inr.inr.inr.inr =>
    exact signOf?_normalize _ (Int.add_nonneg (Int.natCast_nonneg _) (Int.natCast_nonneg _)) _
  all_goals rfl

theorem sign?_mul {m : Nat} {e : Int} {hm : 0 < m} (hx : sign? x = some .positive)
    (hy : y.toModel.unpack = .finite .positive m e hm) : sign? (x * y) = some .positive := by
  refine (signOf?_unpack_pack _).trans ?_
  rcases positive_cases hx with hx | hx | ⟨m', e', hm', hx⟩ <;> rw [hx, hy]
  case inr.inr => exact signOf?_roundWithAccuracy ..
  all_goals rfl

theorem sign?_div {m : Nat} {e : Int} {hm : 0 < m} (hx : sign? x = some .positive)
    (hy : y.toModel.unpack = .finite .positive m e hm) : sign? (x / y) = some .positive := by
  refine (signOf?_unpack_pack _).trans ?_
  rcases positive_cases hx with hx | hx | ⟨m', e', hm', hx⟩ <;> rw [hx, hy]
  case inr.inr => exact signOf?_roundWithAccuracy ..
  all_goals rfl

/-- A difference of positive doubles is a number unless both are infinite. -/
theorem sign?_sub_ne_none (hfinite : isFinite x = true) (hx : sign? x = some .positive)
    (hy : sign? y = some .positive) : sign? (x - y) ≠ none := by
  refine fun h => absurd ((signOf?_unpack_pack _).symm.trans h) ?_
  have hfinite := (isFinite_iff_unpack x).mp hfinite
  rcases positive_cases hx with hx | hx | ⟨m, e, hm, hx⟩
  · exact absurd hfinite (by rw [hx]; simp [UnpackedFloat.isFinite])
  all_goals rcases positive_cases hy with hy | hy | ⟨m', e', hm', hy⟩ <;> rw [hx, hy]
  case inr.inr.inr.inr => exact signOf?_normalize_ne_none _ _ _ _
  all_goals simp [UnpackedFloat.sub, signOf?]

/-- What is above something is a number. -/
theorem sign?_ne_none_of_lt (h : x < y) : sign? y ≠ none := by
  intro hnone
  have hlt : x.toModel.unpack.lt y.toModel.unpack = true := of_decide_eq_true h
  unfold sign? at hnone
  cases hy : y.toModel.unpack with
  | notANumber =>
    rw [hy, UnpackedFloat.lt] at hlt
    cases hx : x.toModel.unpack <;> simp [hx, UnpackedFloat.compare] at hlt
  | infinity s => simp [hy, signOf?] at hnone
  | zero s => simp [hy, signOf?] at hnone
  | finite s m e hm => simp [hy, signOf?] at hnone

theorem sign?_toFloat (n : UInt32) : sign? n.toFloat = some .positive :=
  (signOf?_unpack_pack _).trans (signOf?_normalize _ (Int.natCast_nonneg _) _)

end MediaIndex.Number
