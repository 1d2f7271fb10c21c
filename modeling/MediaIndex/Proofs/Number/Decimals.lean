import Mathlib.Data.List.TakeWhile
import MediaIndex.Proofs.Number.Digits

/-!
# What a written double looks like

A double is written with an optional sign and then as a plain decimal (`IsDecimal`), or as one of
three words. Whichever digits are chosen, that is enough to say two things about the text: every
character of it is a digit, a point, a sign or a letter of those words (`notMem_writeFloat`), and it
is read as a number again (`readFloat?_writeFloat`), by its digits and by the place of the point
(`IsDecimal.readFloat?`). *Which* number the digits stand for is another matter, and is not asked
here.
-/

set_option autoImplicit false

namespace MediaIndex.Number

/-! ## Plain decimals -/

/-- A decimal without a sign or an exponent, with its digits and with how many of them stand behind
the point. -/
inductive IsDecimal : List Char → List Char → Nat → Prop
  | whole {ds : List Char} (some : ds ≠ []) (digits : ∀ c ∈ ds, isAsciiDigit c = true) :
      IsDecimal ds ds 0
  | point {ds fs : List Char} (some : ds ≠ []) (digits : ∀ c ∈ ds, isAsciiDigit c = true)
      (fraction : ∀ c ∈ fs, isAsciiDigit c = true) :
      IsDecimal (ds ++ '.' :: fs) (ds ++ fs) fs.length

/-- Digits are written as a decimal whose last digit has the place that was asked for, or which is
filled up with zeros to the point. -/
theorem isDecimal_writePositional {digits : String} (hsome : digits.toList ≠ [])
    (hdigits : ∀ c ∈ digits.toList, isAsciiDigit c = true) (place : Int) :
    ∃ ds, IsDecimal (writePositional digits place "").toList ds (-place).toNat ∧
      digitsValue ds = digitsValue digits.toList * 10 ^ place.toNat := by
  have hzeros : ∀ n, ∀ c ∈ (zeros n).toList, isAsciiDigit c = true :=
    fun n c hc => isAsciiDigit_of_mem_zeros hc
  unfold writePositional
  split
  · rename_i hplace
    have hbehind : (-place).toNat = 0 := by omega
    refine ⟨digits.toList ++ (zeros place.toNat).toList, ?_, ?_⟩
    · rw [hbehind, String.append_empty, String.toList_append]
      refine .whole (by simp [hsome]) fun c hc => ?_
      exact (List.mem_append.mp hc).elim (hdigits c) (hzeros _ c)
    · rw [digitsValue_append, zeros, String.toList_ofList, digitsValue_zeros, Nat.add_zero,
        List.length_replicate]
  · rename_i hplace
    have hwhole : place.toNat = 0 := by omega
    rw [hwhole, Nat.pow_zero, Nat.mul_one]
    dsimp only
    generalize (-place).toNat = behind
    split
    · -- the point stands between the digits
      rename_i hinside
      have hpoint : IsDecimal (digits.toList.take (digits.toList.length - behind) ++
          '.' :: digits.toList.drop (digits.toList.length - behind)) digits.toList behind := by
        have hfront : digits.toList.take (digits.toList.length - behind) ≠ [] := by
          rw [← List.length_pos_iff, List.length_take]
          omega
        have hback : ∀ c ∈ digits.toList.drop (digits.toList.length - behind),
            isAsciiDigit c = true := fun c hc => hdigits c (List.mem_of_mem_drop hc)
        have hdecimal := IsDecimal.point hfront (fun c hc => hdigits c (List.mem_of_mem_take hc))
          hback
        rw [List.take_append_drop, List.length_drop, Nat.sub_sub_self hinside.le] at hdecimal
        exact hdecimal
      exact ⟨digits.toList, by simpa using hpoint, rfl⟩
    · rename_i hinside
      refine ⟨['0'] ++ (zeros (behind - digits.toList.length) ++ digits).toList, ?_, ?_⟩
      · have hfraction : ∀ c ∈ (zeros (behind - digits.toList.length) ++ digits).toList,
            isAsciiDigit c = true := by
          intro c hc
          rw [String.toList_append, List.mem_append] at hc
          exact hc.elim (hzeros _ c) (hdigits c)
        have hpoint := IsDecimal.point (List.cons_ne_nil '0' []) (by simp; decide) hfraction
        have hlength :
            (zeros (behind - digits.toList.length) ++ digits).toList.length = behind := by
          rw [String.toList_append, List.length_append, zeros, String.toList_ofList,
            List.length_replicate]
          omega
        rw [hlength] at hpoint
        simpa using hpoint
      · have hzero : ['0'] = List.replicate 1 '0' := rfl
        rw [String.toList_append, ← List.append_assoc, zeros, String.toList_ofList, hzero,
          List.replicate_append_replicate, digitsValue_append, digitsValue_zeros, Nat.zero_mul,
          Nat.zero_add]

namespace IsDecimal

variable {cs ds : List Char} {behind : Nat}

theorem digits (h : IsDecimal cs ds behind) {c : Char} (hc : c ∈ ds) : isAsciiDigit c = true := by
  cases h with
  | whole _ digits => exact digits c hc
  | point _ digits fraction => exact (List.mem_append.mp hc).elim (digits c) (fraction c)

theorem mem (h : IsDecimal cs ds behind) {c : Char} (hc : c ∈ cs) :
    isAsciiDigit c = true ∨ c = '.' := by
  cases h with
  | whole _ digits => exact Or.inl (digits c hc)
  | point _ digits fraction =>
    rcases List.mem_append.mp hc with hc | hc
    · exact Or.inl (digits c hc)
    · exact (List.mem_cons.mp hc).elim Or.inr fun hc => Or.inl (fraction c hc)

theorem mem_of_mem_digits (h : IsDecimal cs ds behind) {c : Char} (hc : c ∈ ds) : c ∈ cs := by
  cases h with
  | whole _ digits => exact hc
  | point _ digits fraction =>
    rcases List.mem_append.mp hc with hc | hc
    · exact List.mem_append_left _ hc
    · exact List.mem_append_right _ (List.mem_cons_of_mem _ hc)

/-- A decimal of zeros, with a point or without, is zero. -/
theorem digitsValue_eq_zero (h : IsDecimal cs ds behind) (hzeros : ∀ c ∈ cs, c = '0' ∨ c = '.') :
    digitsValue ds = 0 := by
  refine digitsValue_of_zeros fun c hc => (hzeros c (h.mem_of_mem_digits hc)).resolve_right ?_
  rintro rfl
  exact absurd (h.digits hc) (by decide)

theorem exists_cons (h : IsDecimal cs ds behind) :
    ∃ c rest, cs = c :: rest ∧ isAsciiDigit c = true := by
  cases h with
  | whole some digits =>
    obtain ⟨c, rest, rfl⟩ := List.exists_cons_of_ne_nil some
    exact ⟨c, rest, rfl, digits c List.mem_cons_self⟩
  | @point front fs some digits fraction =>
    obtain ⟨c, rest, rfl⟩ := List.exists_cons_of_ne_nil some
    exact ⟨c, rest ++ '.' :: fs, rfl, digits c List.mem_cons_self⟩

/-- The point is read as a power of ten. -/
theorem unsignedDecimal? (h : IsDecimal cs ds behind) (negative : Bool) :
    Number.unsignedDecimal? negative cs = some (ofDecimal negative ds (-(behind : Int))) := by
  have hpoint : isAsciiDigit '.' = false := by decide
  cases h with
  | whole some digits =>
    have htake : cs.takeWhile isAsciiDigit = cs := List.takeWhile_eq_self_iff.mpr digits
    have hdrop : cs.dropWhile isAsciiDigit = [] := List.dropWhile_eq_nil_iff.mpr digits
    simp [Number.unsignedDecimal?, htake, hdrop, some, exponentPart?]
  | @point front fs some digits fraction =>
    have htake : (front ++ '.' :: fs).takeWhile isAsciiDigit = front := by
      rw [List.takeWhile_append_of_pos digits, List.takeWhile_cons_of_neg (by simp [hpoint]),
        List.append_nil]
    have hdrop : (front ++ '.' :: fs).dropWhile isAsciiDigit = '.' :: fs := by
      rw [List.dropWhile_append_of_pos digits, List.dropWhile_cons_of_neg (by simp [hpoint])]
    have hend : fs.dropWhile isAsciiDigit = [] := List.dropWhile_eq_nil_iff.mpr fraction
    have hfraction : fs.takeWhile isAsciiDigit = fs := List.takeWhile_eq_self_iff.mpr fraction
    simp [Number.unsignedDecimal?, htake, hdrop, hend, hfraction, some, exponentPart?]

/-- **A plain decimal is read**, with or without a sign in front. -/
theorem readFloat? (h : IsDecimal cs ds behind) (negative : Bool) :
    Number.readFloat? (String.ofList ((if negative then ['-'] else []) ++ cs)) =
      some (ofDecimal negative ds (-(behind : Int))) := by
  obtain ⟨c, rest, rfl, hc⟩ := h.exists_cons
  have hbounds := toNat_of_isAsciiDigit hc
  have hother : ∀ d : Char, 57 < d.val.toNat ∨ d.val.toNat < 48 → c ≠ d := by
    rintro d hd rfl
    omega
  have hsign :
      takeSign ((if negative then ['-'] else []) ++ c :: rest) = (negative, c :: rest) := by
    cases negative with
    | true => rfl
    | false =>
      have hminus := hother '-' (by decide)
      have hplus := hother '+' (by decide)
      unfold takeSign
      split
      · rename_i heq
        exact absurd (List.cons.inj heq).1 hminus
      · rename_i heq
        exact absurd (List.cons.inj heq).1 hplus
      · rfl
  -- the first character is a digit, so the text is none of the words
  have hword : ∀ w : Char, 57 < w.val.toNat ∨ w.val.toNat < 48 → ∀ ws : List Char,
      (String.ofList ((c :: rest).map Char.toLower) == String.ofList (w :: ws)) = false := by
    intro w hw ws
    rw [beq_eq_false_iff_ne, Ne, String.ofList_inj, List.map_cons, toLower_of_isAsciiDigit hc]
    exact fun heq => hother w hw (List.cons.inj heq).1
  have hinf := hword 'i' (by decide) "nf".toList
  have hinfinity := hword 'i' (by decide) "nfinity".toList
  have hnan := hword 'n' (by decide) "an".toList
  rw [Number.readFloat?, String.toList_ofList, hsign]
  simp only
  rw [show ("inf" : String) = String.ofList ('i' :: "nf".toList) from rfl, hinf,
    show ("infinity" : String) = String.ofList ('i' :: "nfinity".toList) from rfl, hinfinity,
    show ("nan" : String) = String.ofList ('n' :: "an".toList) from rfl, hnan]
  simpa using h.unsignedDecimal? negative

end IsDecimal

/-! ## Written doubles -/

/-- **A finite double is written as a decimal** with the digits that were found for it. -/
theorem writeFloat_finite {x : Float} {negative : Bool} {m : Nat} {q : Int}
    (h : Parts.ofFloat x = .finite negative m q) :
    ∃ cs ds behind, IsDecimal cs ds behind ∧
      writeFloat x = String.ofList ((if negative then ['-'] else []) ++ cs) ∧
      (m = 0 → digitsValue ds = 0) ∧
      (m ≠ 0 → behind = (-(shortest m q .away).2).toNat ∧
        digitsValue ds = (shortest m q .away).1 * 10 ^ (shortest m q .away).2.toNat) := by
  have hsign : (if negative then "-" else "") =
      String.ofList (if negative then ['-'] else []) := by
    cases negative <;> rfl
  unfold writeFloat Layout.write
  rw [h]
  by_cases hm : m = 0
  · refine ⟨['0'], ['0'], 0, .whole (by simp) (by simp; decide), ?_, fun _ => by decide,
      fun hne => absurd hm hne⟩
    simp only [hm, if_true, hsign, String.ofList_append, plainLayout, String.append_empty]
  · obtain ⟨ds, hdecimal, hvalue⟩ := isDecimal_writePositional
      (toString_ne_nil (shortest m q .away).1) (fun c hc => isAsciiDigit_of_mem_toString hc)
      (shortest m q .away).2
    refine ⟨_, ds, _, hdecimal, ?_, fun hzero => absurd hzero hm, fun _ => ⟨rfl, ?_⟩⟩
    · simp only [hm, if_false, hsign, plainLayout, if_true]
      rw [String.ofList_append, String.ofList_toList]
    · rw [hvalue, digitsValue_toString]

/-- A written double is one of the words for what is infinite or no number, or a decimal with its
sign. -/
theorem writeFloat_cases (x : Float) :
    writeFloat x = "NaN" ∨ writeFloat x = "inf" ∨ writeFloat x = "-inf" ∨
      ∃ (negative : Bool) (cs ds : List Char) (behind : Nat), IsDecimal cs ds behind ∧
        writeFloat x = String.ofList ((if negative then ['-'] else []) ++ cs) := by
  cases hparts : Parts.ofFloat x with
  | notANumber => exact Or.inl (by rw [writeFloat, Layout.write, hparts])
  | infinite negative =>
    have hword : writeFloat x = if negative then "-inf" else "inf" := by
      rw [writeFloat, Layout.write, hparts]
    cases negative with
    | false => exact Or.inr (Or.inl hword)
    | true => exact Or.inr (Or.inr (Or.inl hword))
  | finite negative m q =>
    obtain ⟨cs, ds, behind, hdecimal, htext, -⟩ := writeFloat_finite hparts
    exact Or.inr (Or.inr (Or.inr ⟨negative, cs, ds, behind, hdecimal, htext⟩))

/-- **Every written double is read as a number.** -/
theorem readFloat?_writeFloat (x : Float) : (readFloat? (writeFloat x)).isSome = true := by
  rcases writeFloat_cases x with h | h | h | ⟨negative, cs, ds, behind, hcs, h⟩
  · rw [h]; decide
  · rw [h]; decide
  · rw [h]; decide
  · rw [h, hcs.readFloat? negative]
    rfl

/-- A character that is no digit, no point, no sign and no letter of the words does not occur in a
written double. -/
theorem notMem_writeFloat {c : Char} (hdigit : isAsciiDigit c = false)
    (hother : c ∉ "NaN-inf.".toList) (x : Float) : c ∉ (writeFloat x).toList := by
  have hwords : ∀ word ∈ ["NaN", "inf", "-inf"], c ∉ word.toList := by
    intro word hword hc
    refine hother ?_
    simp only [List.mem_cons, List.not_mem_nil, or_false] at hword
    rcases hword with rfl | rfl | rfl <;> simp_all
  rcases writeFloat_cases x with h | h | h | ⟨negative, cs, ds, behind, hcs, h⟩
  · rw [h]; exact hwords _ (by simp)
  · rw [h]; exact hwords _ (by simp)
  · rw [h]; exact hwords _ (by simp)
  · rw [h, String.toList_ofList, List.mem_append]
    rintro (hc | hc)
    · refine hother ?_
      cases negative with
      | false => exact absurd hc (by simp)
      | true => rw [List.mem_singleton.mp hc]; decide
    · rcases hcs.mem hc with hc | rfl
      · exact absurd (hdigit.symm.trans hc) (by simp)
      · exact hother (by decide)

end MediaIndex.Number
