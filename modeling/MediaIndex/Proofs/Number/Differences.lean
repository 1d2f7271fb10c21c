import MediaIndex.Proofs.Number.Arithmetic
import MediaIndex.Proofs.Number.Bits

/-!
# Differences of doubles

A difference is rounded, but its sign is that of the exact one: two doubles are multiples of the
smallest double, so what is between them is not rounded away (`round_finite`). A difference is
below zero just if the first double is below the second.

> **`zero_le_sub_iff`**: for positive doubles, the first being finite, `0 ≤ x - y` says `y ≤ x`.
-/

set_option autoImplicit false

namespace MediaIndex.Number

open Float.Model Float.Model.UnpackedFloat

/-! ## Mantissas under shifts -/

theorem mantissa_shiftRight (em : ExtendedMantissa) (k : Nat) :
    (em >>> k).mantissa = em.mantissa / 2 ^ k := by
  change (k.repeat ExtendedMantissa.shiftRightOne em).mantissa = _
  induction k with
  | zero => rw [Nat.repeat, Nat.pow_zero, Nat.div_one]
  | succ k ih => rw [Nat.repeat, ExtendedMantissa.shiftRightOne, ih, Nat.div_div_eq_div_mul,
      Nat.pow_succ]

theorem mantissa_ofMantissaAndAccuracy (m : Nat) (a : Accuracy) :
    (ExtendedMantissa.ofMantissaAndAccuracy m a).mantissa = m := by
  cases a with
  | exact => rfl
  | inexact o => cases o <;> rfl

/-- Rounding to the nearest does not go below the bits that are kept. -/
theorem le_roundedMantissa (em : ExtendedMantissa) : em.mantissa ≤ em.roundedMantissa := by
  unfold ExtendedMantissa.roundedMantissa Accuracy.roundToNearestEven
  split <;> omega

theorem targetExponent_binary64 (total : Int) :
    Float.Model.Format.binary64.targetExponent total = max (total - 53) (-1074) := rfl

/-- A mantissa is shifted to the right until 53 bits are left, and some are always left. -/
theorem shiftToTargetExponent_bounds {m : Nat} (hm : 0 < m) {e : Int} (he : -1074 ≤ e)
    (a : Accuracy) :
    let shifted := shiftToTargetExponent .binary64 m e a
    0 < shifted.1.mantissa ∧ shifted.1.mantissa < 2 * leadingBit ∧ -1074 ≤ shifted.2 := by
  have hshift : (Float.Model.Format.binary64.targetExponent (totalExponent m e) - e).toNat =
      m.log2 - 52 := by
    rw [targetExponent_binary64, totalExponent]
    omega
  have hlow : 2 ^ m.log2 ≤ m := Nat.log2_self_le (Nat.ne_of_gt hm)
  have hhigh : m < 2 ^ (m.log2 + 1) := Nat.lt_log2_self
  simp only [shiftToTargetExponent, shiftToExponent, hshift, mantissa_shiftRight,
    mantissa_ofMantissaAndAccuracy]
  refine ⟨Nat.div_pos ?_ (Nat.two_pow_pos _),
    (Nat.div_lt_iff_lt_mul (Nat.two_pow_pos _)).mpr ?_, by omega⟩
  · exact (Nat.pow_le_pow_right (by decide) (Nat.sub_le _ _)).trans hlow
  · calc m < 2 ^ (m.log2 + 1) := hhigh
      _ ≤ 2 ^ (53 + (m.log2 - 52)) := Nat.pow_le_pow_right (by decide) (by omega)
      _ = 2 * leadingBit * 2 ^ (m.log2 - 52) := Nat.pow_add 2 53 _

/-! ## Rounding -/

/-- What is a multiple of the smallest double is not rounded to zero. -/
theorem roundWithAccuracy_finite (s : Sign) {m : Nat} (hm : 0 < m) {e : Int} (he : -1074 ≤ e)
    (a : Accuracy) :
    ∃ m' e' hm', roundWithAccuracy .binary64 s m e a = .finite s m' e' hm' ∧
      m' < 2 * leadingBit ∧ -1074 ≤ e' := by
  obtain ⟨hkept, -, hexponent⟩ := shiftToTargetExponent_bounds hm he a
  have hrounded := hkept.trans_le (le_roundedMantissa _)
  -- rounding up may have made one bit too many, so the result is shifted again
  obtain ⟨hpos, hsmall, hlow⟩ := shiftToTargetExponent_bounds hrounded hexponent .exact
  unfold roundWithAccuracy
  dsimp only
  rw [dif_neg (Nat.ne_of_gt hpos)]
  exact ⟨_, _, hpos, rfl, hsmall, hlow⟩

theorem round_finite (s : Sign) {m : Nat} (hm : 0 < m) {e : Int} (he : -1074 ≤ e) :
    ∃ m' e' hm', UnpackedFloat.round .binary64 s m e = .finite s m' e' hm' ∧
      m' < 2 * leadingBit ∧ -1074 ≤ e' := by
  unfold UnpackedFloat.round decreaseExponent
  refine roundWithAccuracy_finite s ?_ ?_ .exact
  · rw [Nat.shiftLeft_eq]
    exact Nat.mul_pos hm (Nat.two_pow_pos _)
  · rw [targetExponent_binary64]
    omega

/-! ## Packing -/

/-- What is packed without being zero is not zero when it is unpacked. -/
theorem unpack_pack_ne_zero (s : Sign) {m : Nat} {e : Int} (hm : 0 < m)
    (hsmall : m < 2 * leadingBit) (he : -1074 ≤ e) (s' : Sign) :
    UnpackedFloat.unpack .binary64 (UnpackedFloat.pack .binary64 (.finite s m e hm)) ≠
      .zero s' := by
  have hbias : (Float.Model.Format.binary64.exponentBias : Int) +
      (Float.Model.Format.binary64.mantissaBitsWithoutImplicit : Int) = 1075 := rfl
  have hbits : Float.Model.Format.binary64.mantissaBits = 53 := rfl
  rw [ne_eq, unpack_eq_zero_iff_of_valid valid_pack, packedZero]
  unfold UnpackedFloat.pack
  dsimp only
  rw [Int.add_assoc, hbias, hbits]
  intro h
  split at h
  · have hexponent := congrArg unpackExponent h
    rw [packedInfinity, unpackExponent_packComponents, unpackExponent_packComponents] at hexponent
    exact absurd hexponent (by decide)
  · rename_i hfinite
    split at h
    · -- a normal double has an exponent
      have hexponent := congrArg (fun b => (unpackExponent b).toNat) h
      simp only [unpackExponent_packComponents, BitVec.toNat_ofNat] at hexponent
      rw [Nat.mod_eq_of_lt (by omega)] at hexponent
      have hzero : (e + 1075).toNat = 0 := hexponent
      omega
    · -- and any other has a mantissa, which is all stored
      rename_i hlog
      have hlast : m < 2 ^ 52 := by
        have hlog' := (Nat.log2_lt (Nat.ne_of_gt hm)).mpr (show m < 2 ^ 53 from hsmall)
        exact (Nat.log2_lt (Nat.ne_of_gt hm)).mp (by omega)
      have hmantissa := congrArg (fun b => (unpackMantissa b).toNat) h
      simp only [unpackMantissa_packComponents, BitVec.toNat_ofNat] at hmantissa
      rw [Nat.mod_eq_of_lt hlast] at hmantissa
      exact absurd hmantissa (Nat.ne_of_gt hm)

/-! ## Mantissas and exponents of doubles -/

theorem toNat_leading (m : BitVec 52) : (1#1 ++ m).toNat = leadingBit + m.toNat := by
  rw [BitVec.toNat_append, ← Nat.shiftLeft_add_eq_or_of_lt m.isLt]
  rfl

/-- A double has a mantissa without its leading bit only below the smallest normal one. -/
theorem isBinary_unpack {b : BitVec Float.Model.Format.binary64.numBits} {s : Sign} {m : Nat}
    {e : Int} {hm : 0 < m} (h : UnpackedFloat.unpack .binary64 b = .finite s m e hm) :
    IsBinary m e := by
  have hbias : (Float.Model.Format.binary64.exponentBias : Int) +
      (Float.Model.Format.binary64.mantissaBitsWithoutImplicit : Int) = 1075 := rfl
  have hmantissa : (unpackMantissa b).toNat < 2 ^ 52 := (unpackMantissa b).isLt
  have hexponent : (unpackExponent b).toNat < 2 ^ 11 := (unpackExponent b).isLt
  unfold UnpackedFloat.unpack at h
  dsimp only at h
  rw [hbias] at h
  split at h
  · split at h <;> exact absurd h (by simp)
  · rename_i hones
    split at h
    · rename_i hzeros
      split at h
      · exact absurd h (by simp)
      · obtain ⟨-, rfl, rfl⟩ := UnpackedFloat.finite.inj h
        rw [hzeros]
        exact ⟨by simp only [leadingBit]; omega, Or.inr rfl, by decide, by decide⟩
    · rename_i hzeros
      obtain ⟨-, rfl, rfl⟩ := UnpackedFloat.finite.inj h
      rw [toNat_leading]
      have hpos : (unpackExponent b).toNat ≠ 0 := fun hzero =>
        hzeros (BitVec.eq_of_toNat_eq hzero)
      have hlast : (unpackExponent b).toNat ≠ 2047 := fun heq =>
        hones (BitVec.eq_of_toNat_eq heq)
      exact ⟨by simp only [leadingBit]; omega, Or.inl (Nat.le_add_right _ _), by omega, by omega⟩

/-- Of two doubles the one with the greater exponent is greater: it has all its bits. -/
theorem lt_shifted {m m' : Nat} {e e' : Int} (h : IsBinary m e) (h' : IsBinary m' e')
    (hlt : e' < e) : m' < m * 2 ^ (e - e').toNat := by
  have hnormal : leadingBit ≤ m := h.normal.resolve_right fun he => by
    have := h'.low
    omega
  calc m' < leadingBit * 2 ^ 1 := by
        have := h'.mantissa
        omega
    _ ≤ m * 2 ^ (e - e').toNat :=
        Nat.mul_le_mul hnormal (Nat.pow_le_pow_right (by decide) (by omega))

/-! ## Order -/

theorem le_iff_unpack (x y : Float) : x ≤ y ↔ x.toModel.unpack.le y.toModel.unpack = true :=
  decide_eq_true_iff

theorem lt_iff_unpack (x y : Float) : x < y ↔ x.toModel.unpack.lt y.toModel.unpack = true :=
  decide_eq_true_iff

theorem le_of_lt {x y : Float} (h : x < y) : x ≤ y := by
  rw [le_iff_unpack, UnpackedFloat.le]
  rw [lt_iff_unpack, UnpackedFloat.lt, beq_iff_eq] at h
  rw [h]
  rfl

theorem zero_unpack : (0.0 : Float).toModel.unpack = .zero .positive := rfl

theorem zero_le_of_sign? {x : Float} (h : sign? x = some .positive) : 0.0 ≤ x := by
  rw [le_iff_unpack, zero_unpack]
  rcases positive_cases h with hx | hx | ⟨m, e, hm, hx⟩ <;> rw [hx] <;> rfl

theorem not_zero_le {x : Float} (h : sign? x = some .negative)
    (hzero : x.toModel.unpack ≠ .zero .negative) : ¬0.0 ≤ x := by
  rw [le_iff_unpack, zero_unpack]
  unfold sign? at h
  cases hx : x.toModel.unpack with
  | notANumber => simp [hx, signOf?] at h
  | infinity s =>
    obtain rfl : s = .negative := by simpa [hx, signOf?] using h
    exact fun hle => absurd hle (by decide)
  | zero s =>
    obtain rfl : s = .negative := by simpa [hx, signOf?] using h
    exact absurd hx hzero
  | finite s m e hm =>
    obtain rfl : s = .negative := by simpa [hx, signOf?] using h
    exact fun hle => absurd hle (by simp [UnpackedFloat.le, UnpackedFloat.compare])

/-- Doubles are compared by their exponents first. -/
theorem compare_shifted {m m' : Nat} {e e' : Int} (h : IsBinary m e) (h' : IsBinary m' e') :
    ((compare e' e).then (compare m' m)).isLE = true ↔
      m' * 2 ^ (e' - min e e').toNat ≤ m * 2 ^ (e - min e e').toNat := by
  rcases Int.lt_trichotomy e' e with hlt | rfl | hlt
  · have hshifted := lt_shifted h h' hlt
    rw [Int.compare_eq_lt.mpr hlt, Int.min_eq_right (by omega), Int.sub_self]
    simpa using hshifted.le
  · rw [Int.compare_eq_eq.mpr rfl, Int.min_self, Int.sub_self]
    simp [Nat.isLE_compare]
  · have hshifted := lt_shifted h' h hlt
    rw [Int.compare_eq_gt.mpr hlt, Int.min_eq_left (by omega), Int.sub_self]
    simpa using hshifted

/-! ## Signs of differences -/

variable {x y : Float}

theorem unpack_sub (x y : Float) : (x - y).toModel.unpack =
    UnpackedFloat.unpack .binary64
      (UnpackedFloat.pack .binary64 (.sub .binary64 x.toModel.unpack y.toModel.unpack)) :=
  rfl

theorem zero_le_sub_of_positive
    (h : signOf? (.sub .binary64 x.toModel.unpack y.toModel.unpack) = some .positive) :
    0.0 ≤ x - y :=
  zero_le_of_sign? ((signOf?_unpack_pack _).trans h)

/-- A negative difference that is rounded to something is below zero. -/
theorem not_zero_le_sub {m : Nat} {e : Int} {hm : 0 < m}
    (h : UnpackedFloat.sub .binary64 x.toModel.unpack y.toModel.unpack = .finite .negative m e hm)
    (hsmall : m < 2 * leadingBit) (he : -1074 ≤ e) : ¬0.0 ≤ x - y := by
  refine not_zero_le ((signOf?_unpack_pack _).trans (by rw [h]; rfl)) ?_
  rw [unpack_sub, h]
  exact unpack_pack_ne_zero _ hm hsmall he _

theorem sub_finite (m m' : Nat) (e e' : Int) (hm : 0 < m) (hm' : 0 < m') :
    UnpackedFloat.sub .binary64 (.finite .positive m e hm) (.finite .positive m' e' hm') =
      .normalize .binary64 ((m * 2 ^ (e - min e e').toNat : Nat) -
        (m' * 2 ^ (e' - min e e').toNat : Nat)) (min e e') .positive := by
  simp only [UnpackedFloat.sub, decreaseExponent, Nat.shiftLeft_eq, Sign.apply]

/-- The case of two finite doubles above zero: their exact difference is rounded. -/
theorem zero_le_sub_finite {m m' : Nat} {e e' : Int} {hm : 0 < m} {hm' : 0 < m'}
    (hx : x.toModel.unpack = .finite .positive m e hm)
    (hy : y.toModel.unpack = .finite .positive m' e' hm') : 0.0 ≤ x - y ↔ y ≤ x := by
  have hbinary : IsBinary m e := isBinary_unpack hx
  have hbinary' : IsBinary m' e' := isBinary_unpack hy
  have horder : y ≤ x ↔
      m' * 2 ^ (e' - min e e').toNat ≤ m * 2 ^ (e - min e e').toNat := by
    rw [le_iff_unpack, hx, hy, ← compare_shifted hbinary hbinary']
    rfl
  have hsub := sub_finite m m' e e' hm hm'
  rw [← hx, ← hy] at hsub
  rw [horder]
  constructor
  · intro hle
    by_contra hlt
    have hneg : ((m * 2 ^ (e - min e e').toNat : Nat) : Int) -
        (m' * 2 ^ (e' - min e e').toNat : Nat) < 0 := by omega
    obtain ⟨n, f, hn, hround, hsmall, hlow⟩ := round_finite .negative
      (show 0 < (-(((m * 2 ^ (e - min e e').toNat : Nat) : Int) -
        (m' * 2 ^ (e' - min e e').toNat : Nat))).toNat by omega)
      (show -1074 ≤ min e e' from Int.le_min.mpr ⟨hbinary.low, hbinary'.low⟩)
    have hnegative : UnpackedFloat.sub .binary64 x.toModel.unpack y.toModel.unpack =
        .finite .negative n f hn := by
      rw [hsub, UnpackedFloat.normalize, Int.compare_eq_lt.mpr hneg]
      exact hround
    exact not_zero_le_sub hnegative hsmall hlow hle
  · intro hle
    refine zero_le_sub_of_positive ?_
    rw [hsub]
    exact signOf?_normalize _ (by omega) _

theorem zero_le_sub_infinity
    (h : UnpackedFloat.sub .binary64 x.toModel.unpack y.toModel.unpack = .infinity .negative)
    (hle : ¬y.toModel.unpack.le x.toModel.unpack = true) : 0.0 ≤ x - y ↔ y ≤ x := by
  refine iff_of_false (not_zero_le ((signOf?_unpack_pack _).trans (by rw [h]; rfl)) ?_)
    ((le_iff_unpack y x).not.mpr hle)
  rw [unpack_sub, h, ne_eq, unpack_eq_zero_iff_of_valid valid_pack]
  decide

/-- **A difference is not below zero just if the second double is not above the first.** -/
theorem zero_le_sub_iff (hfinite : isFinite x = true) (hx : sign? x = some .positive)
    (hy : sign? y = some .positive) : 0.0 ≤ x - y ↔ y ≤ x := by
  have hfinite := (isFinite_iff_unpack x).mp hfinite
  rcases positive_cases hx with hx | hx | ⟨m, e, hm, hx⟩
  · exact absurd hfinite (by rw [hx]; simp [UnpackedFloat.isFinite])
  · rcases positive_cases hy with hy | hy | ⟨m', e', hm', hy⟩
    · exact zero_le_sub_infinity (by rw [hx, hy]; rfl)
        (by rw [hx, hy]; simp [UnpackedFloat.le, UnpackedFloat.compare])
    · exact iff_of_true (zero_le_sub_of_positive (by rw [hx, hy]; rfl))
        ((le_iff_unpack y x).mpr (by rw [hx, hy]; rfl))
    · have hbinary := isBinary_unpack hy
      refine iff_of_false (not_zero_le_sub (by rw [hx, hy]; rfl) hbinary.mantissa hbinary.low) ?_
      rw [le_iff_unpack, hx, hy]
      simp [UnpackedFloat.le, UnpackedFloat.compare]
  · rcases positive_cases hy with hy | hy | ⟨m', e', hm', hy⟩
    · exact zero_le_sub_infinity (by rw [hx, hy]; rfl)
        (by rw [hx, hy]; simp [UnpackedFloat.le, UnpackedFloat.compare])
    · exact iff_of_true (zero_le_sub_of_positive (by rw [hx, hy]; rfl))
        ((le_iff_unpack y x).mpr (by rw [hx, hy]; rfl))
    · exact zero_le_sub_finite hx hy

end MediaIndex.Number
