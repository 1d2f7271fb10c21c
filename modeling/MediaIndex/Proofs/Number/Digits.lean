import Mathlib.Algebra.Group.Nat.Defs
import MediaIndex.Number.Decimal
import MediaIndex.Descriptor
import MediaIndex.Text.Blank

/-!
# Digits of naturals

A natural is written with the ten digits and read back from them (`digitsValue_toString`), also
behind zeros that fill it up to a width (`readNat?_padNumber`). How many digits it has tells its
size, if the first is not a zero (`digitsValue_lt`, `le_digitsValue`).
-/

set_option autoImplicit false

namespace MediaIndex.Number

/-! ## Characters -/

theorem isAsciiDigit_of_mem_toString {n : Nat} {c : Char} (hc : c ∈ (toString n).toList) :
    isAsciiDigit c = true := by
  rw [Nat.toString_eq_repr, Nat.toList_repr] at hc
  exact Nat.isDigit_of_mem_toDigits (by decide) (by decide) hc

theorem toString_ne_nil (n : Nat) : (toString n).toList ≠ [] := by
  rw [Nat.toString_eq_repr, Nat.toList_repr]
  exact Nat.toDigits_ne_nil

theorem isAsciiDigit_of_mem_zeros {n : Nat} {c : Char} (hc : c ∈ (zeros n).toList) :
    isAsciiDigit c = true := by
  rw [zeros, String.toList_ofList] at hc
  rw [List.eq_of_mem_replicate hc]
  decide

theorem toNat_of_isAsciiDigit {c : Char} (h : isAsciiDigit c = true) :
    48 ≤ c.val.toNat ∧ c.val.toNat ≤ 57 := by
  simpa [isAsciiDigit, Char.le_def, UInt32.le_iff_toNat_le] using h

theorem isBlank_of_isAsciiDigit {c : Char} (h : isAsciiDigit c = true) :
    Text.isBlank c = false := by
  have hbounds := toNat_of_isAsciiDigit h
  simp only [Text.isBlank, Char.toNat]
  grind

theorem toLower_of_isAsciiDigit {c : Char} (h : isAsciiDigit c = true) : c.toLower = c := by
  have hbounds := toNat_of_isAsciiDigit h
  unfold Char.toLower
  refine dif_neg ?_
  rintro ⟨hupper, -⟩
  have := UInt32.le_iff_toNat_le.mp hupper
  simp only [Char.reduceVal, UInt32.reduceToNat] at this
  omega

/-! ## Values -/

theorem digitsValue_eq (cs : List Char) : digitsValue cs = Nat.ofDigitChars 10 cs 0 := by
  rw [digitsValue, Nat.ofDigitChars_eq_foldl]
  congr 1
  funext n c
  rw [Nat.mul_comm]

theorem digitsValue_append (cs ds : List Char) :
    digitsValue (cs ++ ds) = digitsValue cs * 10 ^ ds.length + digitsValue ds := by
  rw [digitsValue_eq, digitsValue_eq, digitsValue_eq, Nat.ofDigitChars_append,
    Nat.ofDigitChars_eq_ofDigitChars_zero, Nat.mul_comm]

theorem digitsValue_cons (c : Char) (cs : List Char) :
    digitsValue (c :: cs) = (c.toNat - '0'.toNat) * 10 ^ cs.length + digitsValue cs := by
  rw [← List.singleton_append, digitsValue_append]
  simp [digitsValue]

/-- Digits stand for less than a one with as many zeros. -/
theorem digitsValue_lt {ds : List Char} (h : ∀ c ∈ ds, isAsciiDigit c = true) :
    digitsValue ds < 10 ^ ds.length := by
  induction ds with
  | nil => decide
  | cons c ds ih =>
    obtain ⟨hc, hds⟩ := List.forall_mem_cons.mp h
    have hdigit : c.toNat - '0'.toNat ≤ 9 := by
      have : c.toNat ≤ 57 := (toNat_of_isAsciiDigit hc).2
      have : '0'.toNat = 48 := rfl
      omega
    have hrest := ih hds
    have hfirst := Nat.mul_le_mul_right (10 ^ ds.length) hdigit
    rw [digitsValue_cons, List.length_cons, Nat.pow_succ]
    omega

/-- Digits that begin with another one than zero stand for at least a one with as many zeros as
there are digits behind it. -/
theorem le_digitsValue {c : Char} (hc : isAsciiDigit c = true) (hzero : c ≠ '0') (ds : List Char) :
    10 ^ ds.length ≤ digitsValue (c :: ds) := by
  have hdigit : 1 ≤ c.toNat - '0'.toNat := by
    have hlow : 48 ≤ c.toNat := (toNat_of_isAsciiDigit hc).1
    have hne : c.toNat ≠ '0'.toNat := fun heq => hzero (Char.toNat_inj.mp heq)
    have : '0'.toNat = 48 := rfl
    omega
  have hfirst := Nat.mul_le_mul_right (10 ^ ds.length) hdigit
  rw [digitsValue_cons]
  omega

/-- Zeros in front do not count. -/
theorem digitsValue_dropWhile (ds : List Char) :
    digitsValue (ds.dropWhile (· == '0')) = digitsValue ds := by
  induction ds with
  | nil => rfl
  | cons c ds ih =>
    by_cases hc : c = '0'
    · rw [List.dropWhile_cons_of_pos (by simp [hc]), ih, digitsValue_cons, hc, Nat.sub_self,
        Nat.zero_mul, Nat.zero_add]
    · rw [List.dropWhile_cons_of_neg (by simp [hc])]

theorem digitsValue_zeros (n : Nat) : digitsValue (List.replicate n '0') = 0 := by
  rw [digitsValue_eq, Nat.ofDigitChars_replicate_zero, Nat.mul_zero]

theorem digitsValue_of_zeros {ds : List Char} (h : ∀ c ∈ ds, c = '0') : digitsValue ds = 0 := by
  rw [List.eq_replicate_of_mem h, digitsValue_zeros]

/-- **A natural is read back from its digits.** -/
theorem digitsValue_toString (n : Nat) : digitsValue (toString n).toList = n := by
  rw [digitsValue_eq, Nat.toString_eq_repr, Nat.toList_repr, Nat.ofDigitChars_ten_toDigits]

/-! ## Numbers up to a width -/

theorem isAsciiDigit_of_mem_padNumber {width n : Nat} {c : Char}
    (hc : c ∈ (padNumber width n).toList) : isAsciiDigit c = true := by
  rw [padNumber, String.toList_append, List.mem_append] at hc
  exact hc.elim isAsciiDigit_of_mem_zeros isAsciiDigit_of_mem_toString

theorem padNumber_ne_nil (width n : Nat) : (padNumber width n).toList ≠ [] := by
  rw [padNumber, String.toList_append]
  exact List.append_ne_nil_of_right_ne_nil _ (toString_ne_nil n)

theorem digitsValue_padNumber (width n : Nat) : digitsValue (padNumber width n).toList = n := by
  rw [padNumber, String.toList_append, digitsValue_append, zeros, String.toList_ofList,
    digitsValue_zeros, Nat.zero_mul, Nat.zero_add, digitsValue_toString]

/-- How a natural is read from a text without a sign. -/
theorem readNat?_unsigned {limit : Nat} {s : String} (hne : s.toList ≠ [])
    (hplus : '+' ∉ s.toList) :
    readNat? limit s =
      if s.toList.all isAsciiDigit = true ∧ digitsValue s.toList ≤ limit then
        some (digitsValue s.toList)
      else none := by
  unfold readNat?
  cases htext : s.toList with
  | nil => exact absurd htext hne
  | cons c cs =>
    rw [htext] at hplus
    have hfirst : c ≠ '+' := fun h => hplus (by rw [h]; exact List.mem_cons_self)
    cases hall : (c :: cs).all isAsciiDigit <;> simp [hfirst, hall]

/-- **A natural is read back**, with as many zeros in front as it may have. -/
theorem readNat?_padNumber {limit n : Nat} (hn : n ≤ limit) (width : Nat) :
    readNat? limit (padNumber width n) = some n := by
  have hdigits : ∀ c ∈ (padNumber width n).toList, isAsciiDigit c = true :=
    fun c hc => isAsciiDigit_of_mem_padNumber hc
  have hplus : '+' ∉ (padNumber width n).toList :=
    fun h => absurd (hdigits '+' h) (by decide)
  have hvalue := digitsValue_padNumber width n
  rw [readNat?_unsigned (padNumber_ne_nil width n) hplus, hvalue]
  exact if_pos ⟨List.all_eq_true.mpr hdigits, hn⟩

theorem le_of_readNat? {limit n : Nat} {s : String} (h : readNat? limit s = some n) :
    n ≤ limit := by
  unfold readNat? at h
  obtain ⟨-, h⟩ := Option.ite_none_left_eq_some.mp h
  obtain ⟨hle, heq⟩ := Option.ite_none_right_eq_some.mp h
  exact Option.some.inj heq ▸ hle

end MediaIndex.Number
