import MediaIndex.Number.Decimal
import MediaIndex.Proofs.Number.Order

/-!
# What is read is a number

The reader knows one word for what is no number. Every other text that it accepts is read as a
number, however many digits it has: a decimal may be rounded to zero or to infinity, and both are
numbers.

> **`isNotANumber_of_readFloat?`**: a text without the letter that this word begins with is read as
> a number, if it is read.
-/

set_option autoImplicit false

namespace MediaIndex.Number

open Float.Model Float.Model.UnpackedFloat

/-- Bits up to those of infinity make a number. -/
theorem isNotANumber_ofMagnitude (negative : Bool) {magnitude : Nat}
    (h : magnitude ≤ infinityBits) : isNotANumber (ofMagnitude negative magnitude) = false := by
  have hbits : magnitude ≤ 2047 * leadingBit := h
  have hsign : signBit = 2048 * leadingBit := rfl
  set bits := if negative then signBit + magnitude else magnitude with hwhole
  have hfields : ¬(bits / leadingBit % 2048 = 2047 ∧ bits % leadingBit ≠ 0) := by
    rw [hwhole, hsign]
    unfold leadingBit at *
    split <;> omega
  have hlt : bits < 2 ^ 64 := by
    rw [hwhole, hsign]
    unfold leadingBit at *
    split <;> omega
  have hnat : (UInt64.ofNat bits).toBitVec.toNat = bits := Nat.mod_eq_of_lt hlt
  have hexponent := unpackExponent_eq_iff (UInt64.ofNat bits).toBitVec
  have hmantissa := unpackMantissa_eq_iff (UInt64.ofNat bits).toBitVec
  rw [hnat] at hexponent hmantissa
  have hkept : sign? (ofMagnitude negative magnitude) =
      signOf? (UnpackedFloat.unpack .binary64 (UInt64.ofNat bits).toBitVec) :=
    signOf?_unpack_pack _
  rw [← Bool.not_eq_true, isNotANumber_iff_sign?, hkept, signOf?_unpack, if_neg]
  · simp
  · exact fun hones => hfields ⟨hexponent.mp hones.1, hmantissa.not.mp hones.2⟩

theorem isNotANumber_ofRatio (negative : Bool) (num den : Nat) :
    isNotANumber (ofRatio negative num den) = false := by
  unfold ofRatio
  split
  · exact isNotANumber_ofMagnitude negative (Nat.zero_le _)
  · exact isNotANumber_ofMagnitude negative (Nat.min_le_right _ _)

theorem isNotANumber_infinity (negative : Bool) : isNotANumber (infinity negative) = false :=
  isNotANumber_ofMagnitude negative le_rfl

theorem isNotANumber_ofDecimal (negative : Bool) (digits : List Char) (power : Int) :
    isNotANumber (ofDecimal negative digits power) = false := by
  unfold ofDecimal
  dsimp only
  split
  · exact isNotANumber_ofMagnitude negative (Nat.zero_le _)
  · split
    · exact isNotANumber_infinity negative
    · split <;> exact isNotANumber_ofRatio _ _ _

theorem takeSign_suffix (cs : List Char) : (takeSign cs).2 <:+ cs := by
  unfold takeSign
  split
  · exact List.suffix_cons _ _
  · exact List.suffix_cons _ _
  · exact List.suffix_rfl

/-- **A text without the letter of the one word for it is not read as what is no number.** -/
theorem isNotANumber_of_readFloat? {s : String} {x : Float} (h : readFloat? s = some x)
    (hword : ∀ c ∈ s.toList, c.toLower ≠ 'n') : isNotANumber x = false := by
  have hsuffix := takeSign_suffix s.toList
  unfold readFloat? at h
  generalize takeSign s.toList = split at h hsuffix
  obtain ⟨negative, cs⟩ := split
  dsimp only at h
  split at h
  · obtain rfl := Option.some.inj h
    exact isNotANumber_infinity negative
  · split at h
    · rename_i hnan
      have hmem : 'n' ∈ cs.map Char.toLower := by
        rw [← String.toList_ofList (l := cs.map Char.toLower), beq_iff_eq.mp hnan]
        decide
      obtain ⟨c, hc, hlower⟩ := List.mem_map.mp hmem
      exact absurd hlower (hword c (hsuffix.subset hc))
    · unfold unsignedDecimal? at h
      obtain ⟨-, h⟩ := Option.ite_none_left_eq_some.mp h
      obtain ⟨e, -, rfl⟩ := Option.map_eq_some_iff.mp h
      exact isNotANumber_ofDecimal _ _ _

/-- A number times a finite one above zero is a number. -/
theorem isNotANumber_mul {x y : Float} (hx : isNotANumber x = false) (hy : 0 < value y) :
    isNotANumber (x * y) = false := by
  have hsign : sign? (x * y) = signOf? (.mul .binary64 x.toModel.unpack y.toModel.unpack) :=
    signOf?_unpack_pack _
  rw [← Bool.not_eq_true, isNotANumber_iff_sign?] at hx ⊢
  rw [hsign]
  unfold sign? at hx
  unfold value at hy
  cases hg : y.toModel.unpack with
  | notANumber => exact absurd hy (by simp [hg, valueOf])
  | infinity s => exact absurd hy (by simp [hg, valueOf])
  | zero s => exact absurd hy (by simp [hg, valueOf])
  | finite s m e hm =>
    cases hf : x.toModel.unpack with
    | notANumber => exact absurd (by rw [hf]; rfl) hx
    | infinity s => simp [UnpackedFloat.mul, signOf?]
    | zero s => simp [UnpackedFloat.mul, signOf?]
    | finite s m' e' hm' => simp [UnpackedFloat.mul, signOf?_roundWithAccuracy]

end MediaIndex.Number
