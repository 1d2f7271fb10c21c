import Mathlib.Data.List.Forall2
import Mathlib.Data.List.TakeWhile
import MediaIndex.Cue.Rendering
import MediaIndex.Proofs.Text.Cuts

/-!
# The words of a written line

A word of a line stands there as it is or between quotes (`Writes`). Either way it is read back, and
what stands behind it is read by itself; so a line that was put together from written words is cut
into these words again.

> **`words?_intercalate`**: written words with blanks between them are read as these words.
-/

set_option autoImplicit false

namespace MediaIndex

/-- A word that needs no quotes. -/
def PlainWord (word : String) : Prop :=
  word ≠ "" ∧ ∀ c ∈ word.toList, Text.isBlank c = false ∧ c ≠ '"'

instance (word : String) : Decidable (PlainWord word) :=
  @instDecidableAnd _ _ inferInstance (List.decidableBAll _ word.toList)

/-- A text that can stand between quotes on a line. -/
def Quotable (text : String) : Prop := '"' ∉ text.toList ∧ '\n' ∉ text.toList

instance (text : String) : Decidable (Quotable text) := inferInstanceAs (Decidable (_ ∧ _))

/-- How a word is written. -/
inductive Writes : String → String → Prop
  | plain {word : String} (h : PlainWord word) : Writes word word
  | quoted {text : String} (h : Quotable text) : Writes (quoted text) text

namespace CueLine

/-! ## One word -/

theorem words?_nil : words? [] = some [] := by
  rw [words?]
  rfl

/-- How a line goes on behind its blanks. -/
theorem words?_of_dropWhile {cs rest : List Char} {c : Char}
    (h : cs.dropWhile Text.isBlank = c :: rest) :
    words? cs =
      if c = '"' then
        match rest.dropWhile (· != '"') with
        | [] => none
        | _ :: after => (words? after).map (rest.takeWhile (· != '"') :: ·)
      else
        (words? (rest.dropWhile (!Text.isBlank ·))).map
          ((c :: rest.takeWhile (!Text.isBlank ·)) :: ·) := by
  rw [words?]
  split
  · rename_i hnil
    exact absurd (hnil.symm.trans h) (by simp)
  · rename_i c' rest' hcons
    obtain ⟨rfl, rfl⟩ := List.cons.inj (hcons.symm.trans h)
    split
    · split
      · rename_i hopen
        rw [hopen]
      · rename_i hclosed
        rw [hclosed]
    · rfl

theorem words?_eq_nil {cs : List Char} (h : cs.dropWhile Text.isBlank = []) :
    words? cs = some [] := by
  rw [words?]
  split
  · rfl
  · rename_i hcons
    exact absurd (hcons.symm.trans h) (by simp)

theorem words?_blank {c : Char} (hc : Text.isBlank c = true) (cs : List Char) :
    words? (c :: cs) = words? cs := by
  have hdrop : (c :: cs).dropWhile Text.isBlank = cs.dropWhile Text.isBlank := by simp [hc]
  cases hcs : cs.dropWhile Text.isBlank with
  | nil => rw [words?_eq_nil hcs, words?_eq_nil (hdrop.trans hcs)]
  | cons d rest => rw [words?_of_dropWhile hcs, words?_of_dropWhile (hdrop.trans hcs)]

/-- **A blank at the end of a line says nothing**, not even behind a quote that is left open. -/
theorem words?_append_blank {b : Char} (hb : Text.isBlank b = true) (cs : List Char) :
    words? (cs ++ [b]) = words? cs := by
  have hquote : b ≠ '"' := fun h => absurd (h ▸ hb) (by decide)
  have hstart {cs rest : List Char} {c : Char} (h : cs.dropWhile Text.isBlank = c :: rest) :
      (cs ++ [b]).dropWhile Text.isBlank = c :: (rest ++ [b]) := by
    simp [List.dropWhile_append, h]
  fun_induction words? cs with
  | case1 cs hblank =>
    refine words?_eq_nil ?_
    simpa [List.dropWhile_append, hblank] using hb
  | case2 cs rest hopen hcs =>
    -- the quote stays open, as a blank does not close it
    have hopen' : (rest ++ [b]).dropWhile (· != '"') = [] := by
      simp [List.dropWhile_append, hopen, hquote]
    rw [words?_of_dropWhile (hstart hcs), if_pos rfl, hopen']
  | case3 cs rest c after hclosed hcs ih =>
    have hclosed' : (rest ++ [b]).dropWhile (· != '"') = c :: (after ++ [b]) := by
      simp [List.dropWhile_append, hclosed]
    have hword : (rest ++ [b]).takeWhile (· != '"') = rest.takeWhile (· != '"') := by
      rw [List.takeWhile_append]
      split
      · -- then the quote would have been left open
        rename_i hall
        have hnone := List.takeWhile_eq_self_iff.mp ((List.takeWhile_prefix _).eq_of_length hall)
        exact absurd ((List.dropWhile_eq_nil_iff.mpr hnone).symm.trans hclosed) (by simp)
      · rfl
    rw [words?_of_dropWhile (hstart hcs), if_pos rfl, hclosed', hword, ← ih]
  | case4 cs c rest hcs hplain ih =>
    have hrest : (rest ++ [b]).dropWhile (!Text.isBlank ·) =
        rest.dropWhile (!Text.isBlank ·) ++ [b] := by
      rw [List.dropWhile_append]
      split
      · rename_i hnil
        simp [List.isEmpty_iff.mp hnil, hb]
      · rfl
    have hword : (rest ++ [b]).takeWhile (!Text.isBlank ·) = rest.takeWhile (!Text.isBlank ·) := by
      rw [List.takeWhile_append]
      split
      · rename_i hall
        simp [hb, (List.takeWhile_prefix _).eq_of_length hall]
      · rfl
    rw [words?_of_dropWhile (hstart hcs), if_neg hplain, hrest, hword, ih]

/-- A word that began without a quote ends before the next blank. -/
theorem words?_plain {word rest : List Char} (hsome : word ≠ [])
    (hword : ∀ c ∈ word, Text.isBlank c = false ∧ c ≠ '"')
    (hrest : ∀ c ∈ rest.head?, Text.isBlank c = true) :
    words? (word ++ rest) = (words? rest).map (word :: ·) := by
  obtain ⟨c, word, rfl⟩ := List.exists_cons_of_ne_nil hsome
  obtain ⟨⟨hc, hquote⟩, hword⟩ := List.forall_mem_cons.mp hword
  have hstart : (c :: word ++ rest).dropWhile Text.isBlank = c :: (word ++ rest) := by simp [hc]
  have hnone : ∀ c ∈ word, (!Text.isBlank c) = true := by
    intro c hc
    rw [(hword c hc).1]
    rfl
  have hend : rest.dropWhile (!Text.isBlank ·) = rest ∧ rest.takeWhile (!Text.isBlank ·) = [] := by
    cases rest with
    | nil => exact ⟨rfl, rfl⟩
    | cons d rest => simp [hrest d rfl]
  rw [words?_of_dropWhile hstart, if_neg hquote, List.dropWhile_append_of_pos hnone,
    List.takeWhile_append_of_pos hnone, hend.1, hend.2, List.append_nil]

/-- A word that began with a quote ends at the next one. -/
theorem words?_quoted {text : List Char} (htext : '"' ∉ text) (rest : List Char) :
    words? ('"' :: (text ++ '"' :: rest)) = (words? rest).map (text :: ·) := by
  have hstart : ('"' :: (text ++ '"' :: rest)).dropWhile Text.isBlank =
      '"' :: (text ++ '"' :: rest) := by simp [Text.isBlank]
  have hnone : ∀ c ∈ text, (c != '"') = true := by
    intro c hc
    simpa using fun heq : c = '"' => htext (heq ▸ hc)
  rw [words?_of_dropWhile hstart, if_pos rfl, List.dropWhile_append_of_pos hnone,
    List.takeWhile_append_of_pos hnone]
  simp

theorem words?_written {text word : String} (h : Writes text word) (rest : List Char)
    (hrest : ∀ c ∈ rest.head?, Text.isBlank c = true) :
    words? (text.toList ++ rest) = (words? rest).map (word.toList :: ·) := by
  cases h with
  | plain h => exact words?_plain (by simpa using h.1) h.2 hrest
  | quoted h =>
    rw [quoted, String.toList_append, String.toList_append]
    simpa using words?_quoted h.1 rest

/-! ## Lines -/

theorem notMem_of_plainWord {word : String} (h : PlainWord word) {c : Char}
    (hc : Text.isBlank c = true) : c ∉ word.toList := by
  intro hmem
  exact absurd ((h.2 c hmem).1.symm.trans hc) (by simp)

theorem fitsLine_of_writes {text word : String} (h : Writes text word) :
    Text.FitsLine text ∧ text ≠ "" := by
  cases h with
  | plain h =>
    refine ⟨⟨notMem_of_plainWord h (by decide), fun hlast => ?_⟩, h.1⟩
    exact notMem_of_plainWord h (by decide) (List.mem_of_getLast? hlast)
  | quoted h =>
    have hend : (quoted word).toList = ('"' :: word.toList) ++ ['"'] := by simp [quoted]
    refine ⟨⟨by simpa [quoted] using h.2, ?_⟩, by simp [quoted]⟩
    rw [hend, List.getLast?_concat]
    simp

variable {texts words : List String}

/-- **Written words with blanks between them are read as these words.** -/
theorem words?_intercalate (h : List.Forall₂ Writes texts words) :
    words? (" ".intercalate texts).toList = some (words.map String.toList) := by
  induction h with
  | nil => simpa using words?_nil
  | @cons text word texts words hword hwords ih =>
    cases hwords with
    | nil =>
      have hline := words?_written hword [] (by simp)
      rw [List.append_nil, words?_nil] at hline
      simpa using hline
    | cons hnext hmore =>
      rw [String.intercalate_cons_cons, String.toList_append, String.toList_append,
        List.append_assoc, words?_written hword _ (by simp [Text.isBlank])]
      exact congrArg _ ((words?_blank (by decide) _).trans ih)

theorem fitsLine_intercalate (h : List.Forall₂ Writes texts words) (hsome : texts ≠ []) :
    Text.FitsLine (" ".intercalate texts) ∧ " ".intercalate texts ≠ "" := by
  induction h with
  | nil => exact absurd rfl hsome
  | @cons text word texts words hword hwords ih =>
    obtain ⟨hfits, hne⟩ := fitsLine_of_writes hword
    cases hwords with
    | nil => simpa using ⟨hfits, hne⟩
    | cons hnext hmore =>
      obtain ⟨hrest, hrestne⟩ := ih (by simp)
      rw [String.intercalate_cons_cons]
      refine ⟨hrest.append ?_ hrestne, by simp [hne]⟩
      simpa using hfits.newline

end CueLine

end MediaIndex
