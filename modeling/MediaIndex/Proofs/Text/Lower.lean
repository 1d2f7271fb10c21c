import Mathlib
import MediaIndex.Text.Lower

/-!
# Lower case, piece by piece

The lower case of a text is not taken letter by letter, since a capital sigma looks at what stands
around it. It does not look past a character that is no letter, as a blank: a text may be cut there
and the two pieces lowered by themselves (`lowerAfter_append`). And no other character than a slash
becomes one (`notMem_lowerImage`).
-/

set_option autoImplicit false

namespace MediaIndex.Text

/-- A character at which the case of the letters around it ends: it has no case, and it is not
passed over. -/
def PartsCase (c : Char) : Prop :=
  inRanges caseIgnorableRanges c.toNat = false ∧ inRanges casedRanges c.toNat = false

instance (c : Char) : Decidable (PartsCase c) := inferInstanceAs (Decidable (_ ∧ _))

theorem meetsCased_append {c : Char} (h : PartsCase c) (cs rest : List Char) :
    meetsCased (cs ++ c :: rest) = meetsCased cs := by
  unfold meetsCased
  rw [List.dropWhile_append]
  cases hcs : cs.dropWhile fun d => inRanges caseIgnorableRanges d.toNat with
  | nil =>
    rw [List.isEmpty_nil, if_pos rfl, List.dropWhile_cons_of_neg (by simp [h.1])]
    exact h.2
  | cons d ds => rfl

/-- What becomes of one character, given what stands before and behind it. -/
def lowerImage (before : List Char) (c : Char) (rest : List Char) : List Char :=
  if c.toNat = 0x3A3 then
    [if meetsCased before && !meetsCased rest then Char.ofNat 0x3C2 else Char.ofNat 0x3C3]
  else if c.toNat = 0x130 then ['i', Char.ofNat 0x307]
  else [lowerChar c]

theorem lowerAfter_cons (before : List Char) (c : Char) (rest : List Char) :
    lowerAfter before (c :: rest) =
      lowerImage before c rest ++ lowerAfter (c :: before) rest := by
  rw [lowerAfter]
  rfl

/-- **A text is lowered in two pieces** where something stands between them that parts case. -/
theorem lowerAfter_append {c : Char} (h : PartsCase c) (before cs rest : List Char) :
    lowerAfter before (cs ++ c :: rest) =
      lowerAfter before cs ++ lowerAfter (cs.reverse ++ before) (c :: rest) := by
  induction cs generalizing before with
  | nil => rfl
  | cons d cs ih =>
    have himage : lowerImage before d (cs ++ c :: rest) = lowerImage before d cs := by
      rw [lowerImage, meetsCased_append h]
      rfl
    rw [List.cons_append, lowerAfter_cons, lowerAfter_cons, himage, ih, List.append_assoc,
      List.reverse_cons, List.append_assoc, List.singleton_append]

theorem lowerImage_ascii {c : Char} (h : c.toNat < 128) (before rest : List Char) :
    lowerImage before c rest = [c.toLower] := by
  rw [lowerImage, if_neg (by omega), if_neg (by omega), lowerChar, if_pos h]

theorem toLower_ne_slash {c : Char} (h : c ≠ '/') : c.toLower ≠ '/' := by
  intro heq
  have hletter := Char.isLower_toLower_eq_isAlpha c
  rw [heq] at hletter
  have hupper : ¬c.isUpper = true := fun hupper => by
    simp [Char.isAlpha, hupper] at hletter
  exact h ((Char.toLower_eq_of_not_isUpper hupper).symm.trans heq)

/-- The images of all capitals come behind the slash. -/
theorem slash_lt_image : ∀ r ∈ lowerRuns, '/'.toNat < r.image := by decide +kernel

theorem lowerChar_ne_slash {c : Char} (h : c ≠ '/') : lowerChar c ≠ '/' := by
  unfold lowerChar
  split
  · exact toLower_ne_slash h
  · split
    · rename_i r hr
      have himage := slash_lt_image r (List.mem_of_find?_eq_some hr)
      intro heq
      have hnat := congrArg Char.toNat heq
      rw [Char.toNat_ofNat] at hnat
      split at hnat
      · omega
      · exact absurd hnat (by decide)
    · exact h

/-- **Only a slash becomes a slash.** -/
theorem notMem_lowerImage {c : Char} (h : c ≠ '/') (before rest : List Char) :
    '/' ∉ lowerImage before c rest := by
  unfold lowerImage
  split
  · split <;> decide
  · split
    · decide
    · simpa using (lowerChar_ne_slash h).symm

end MediaIndex.Text
