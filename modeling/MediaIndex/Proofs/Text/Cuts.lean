import Mathlib.Data.List.DropRight
import MediaIndex.Text.Search

/-!
# Cutting a text at a mark, and its blanks off

`cutWhere` gives one piece more than there are marks (`length_cutWhere`), and it goes through a text
from left to right without looking ahead: what stands before a mark and what stands behind it are
cut by themselves (`cutWhere_append`). So a text that was put together from fields is cut into the
pieces of its fields, and into the fields themselves where none of them contains the mark. The
blanks at the ends are cut off once: there are none to cut off again (`trim_trim`). They make no
difference to the first word (`head?_wordChars_trimChars`), nor does what stands behind the blank
that ends it (`head?_wordChars_append`).
-/

set_option autoImplicit false

namespace MediaIndex.Text

variable {p : Char → Bool} {sep : Char}

/-- The first piece is what stands before the first mark. -/
theorem exists_cutWhere (cs : List Char) :
    ∃ pieces, cutWhere p cs = cs.takeWhile (!p ·) :: pieces := by
  induction cs with
  | nil => exact ⟨[], rfl⟩
  | cons c cs ih =>
    obtain ⟨pieces, hpieces⟩ := ih
    cases hc : p c with
    | true => exact ⟨cutWhere p cs, by simp [cutWhere, hc]⟩
    | false => exact ⟨pieces, by simp [cutWhere, hc, hpieces]⟩

theorem cutWhere_ne_nil (cs : List Char) : cutWhere p cs ≠ [] := by
  obtain ⟨pieces, hpieces⟩ := exists_cutWhere (p := p) cs
  rw [hpieces]
  exact List.cons_ne_nil _ _

theorem length_cutWhere (cs : List Char) : (cutWhere p cs).length = cs.countP p + 1 := by
  induction cs with
  | nil => rfl
  | cons c cs ih =>
    rw [cutWhere, List.countP_cons]
    by_cases hc : p c = true
    · simp only [hc, if_true, List.length_cons, ih]
    · simp only [hc, Bool.false_eq_true, if_false, Nat.add_zero, ← ih]
      cases hcut : cutWhere p cs with
      | nil => exact absurd hcut (cutWhere_ne_nil cs)
      | cons piece pieces => rfl

/-- **A mark parts a text** into what stands before it and what stands behind it. -/
theorem cutWhere_append (hsep : p sep = true) (before after : List Char) :
    cutWhere p (before ++ sep :: after) = cutWhere p before ++ cutWhere p after := by
  induction before with
  | nil => simp [cutWhere, hsep]
  | cons c before ih =>
    rw [List.cons_append, cutWhere, cutWhere, ih]
    split
    · rfl
    · cases hcut : cutWhere p before with
      | nil => exact absurd hcut (cutWhere_ne_nil before)
      | cons piece pieces => rfl

/-- No piece contains a mark. -/
theorem of_mem_cutWhere {cs piece : List Char} (h : piece ∈ cutWhere p cs) :
    ∀ c ∈ piece, p c = false := by
  induction cs generalizing piece with
  | nil =>
    obtain rfl : piece = [] := by simpa [cutWhere] using h
    simp
  | cons c cs ih =>
    rw [cutWhere] at h
    split at h
    · rcases List.mem_cons.mp h with rfl | h
      · simp
      · exact ih h
    · rename_i hc
      split at h
      · obtain rfl := List.mem_singleton.mp h
        simpa using hc
      · rename_i front rest hcut
        rcases List.mem_cons.mp h with rfl | h
        · refine List.forall_mem_cons.mpr ⟨by simpa using hc, ih ?_⟩
          rw [hcut]
          exact List.mem_cons_self
        · refine ih ?_
          rw [hcut]
          exact List.mem_cons_of_mem front h

theorem cutWhere_of_none {cs : List Char} (h : ∀ c ∈ cs, p c = false) : cutWhere p cs = [cs] := by
  induction cs with
  | nil => rfl
  | cons c cs ih =>
    have hc : p c = false := h c List.mem_cons_self
    rw [cutWhere, ih fun d hd => h d (List.mem_cons_of_mem c hd)]
    simp [hc]

/-! ## Before the first mark and behind the last -/

theorem bne_of_notMem {cs : List Char} (h : sep ∉ cs) : ∀ c ∈ cs, (c != sep) = true := by
  intro c hc
  simpa using fun heq : c = sep => h (heq ▸ hc)

theorem takeWhile_closed {front : List Char} (h : sep ∉ front) (rest : List Char) :
    (front ++ sep :: rest).takeWhile (· != sep) = front := by
  rw [List.takeWhile_append_of_pos (bne_of_notMem h)]
  simp

theorem takeWhile_open {cs : List Char} (h : sep ∉ cs) : cs.takeWhile (· != sep) = cs :=
  List.takeWhile_eq_self_iff.mpr (bne_of_notMem h)

theorem afterLastChar_closed {cs : List Char} (h : sep ∉ cs) (front : List Char) :
    afterLastChar sep (front ++ sep :: cs) = cs := by
  have hcut : (cs.reverse ++ sep :: front.reverse).takeWhile (· != sep) = cs.reverse :=
    takeWhile_closed (by simpa using h) _
  rw [afterLastChar, List.reverse_append, List.reverse_cons, List.append_assoc,
    List.singleton_append, hcut, List.reverse_reverse]

theorem afterLastChar_open {cs : List Char} (h : sep ∉ cs) : afterLastChar sep cs = cs := by
  have hcut : cs.reverse.takeWhile (· != sep) = cs.reverse := takeWhile_open (by simpa using h)
  rw [afterLastChar, hcut, List.reverse_reverse]

/-! ## Texts of fields -/

theorem length_pieces (s : String) : (pieces sep s).length = s.toList.count sep + 1 := by
  rw [pieces, List.length_map, length_cutWhere, List.count]

theorem pieces_of_notMem {s : String} (h : sep ∉ s.toList) : pieces sep s = [s] := by
  have hnone : ∀ c ∈ s.toList, (c == sep) = false := by
    intro c hc
    simpa using fun heq : c = sep => h (heq ▸ hc)
  rw [pieces, cutWhere_of_none hnone, List.map_singleton, String.ofList_toList]

theorem notMem_of_mem_pieces {s piece : String} (h : piece ∈ pieces sep s) :
    sep ∉ piece.toList := by
  obtain ⟨cs, hcs, rfl⟩ := List.mem_map.mp h
  intro hmem
  rw [String.toList_ofList] at hmem
  exact absurd (of_mem_cutWhere hcs sep hmem) (by simp)

/-- **A text that was put together with a mark is cut into the pieces of its fields.** -/
theorem pieces_intercalate {fields : List String} (hfields : fields ≠ []) :
    pieces sep ((String.ofList [sep]).intercalate fields) = fields.flatMap (pieces sep) := by
  have hlists : ∀ (first : List Char) (rest : List (List Char)),
      cutWhere (· == sep) ([sep].intercalate (first :: rest)) =
        (first :: rest).flatMap (cutWhere (· == sep)) := by
    intro first rest
    induction rest generalizing first with
    | nil => simp
    | cons second rest ih =>
      rw [List.intercalate_cons_cons, List.append_assoc, List.singleton_append,
        cutWhere_append (by simp), ih]
      exact List.flatMap_cons.symm
  cases fields with
  | nil => exact absurd rfl hfields
  | cons first rest =>
    have hfirst := hlists first.toList (rest.map String.toList)
    rw [pieces, String.toList_intercalate, String.toList_ofList, List.map_cons, hfirst,
      ← List.map_cons, List.map_flatMap, List.flatMap_map]
    rfl

/-! ## Lines -/

theorem dropReturn_eq_self {cs : List Char} (h : cs.getLast? ≠ some '\r') : dropReturn cs = cs := by
  unfold dropReturn
  split
  · rename_i rest hreverse
    rw [← List.head?_reverse, hreverse] at h
    exact absurd rfl h
  · rfl

theorem dropReturn_concat (cs : List Char) : dropReturn (cs ++ ['\r']) = cs := by
  rw [dropReturn, List.reverse_concat]
  exact cs.reverse_reverse

theorem prefix_dropReturn (cs : List Char) : dropReturn cs <+: cs := by
  by_cases h : cs.getLast? = some '\r'
  · obtain ⟨front, rfl⟩ := List.getLast?_eq_some_iff.mp h
    rw [dropReturn_concat]
    exact List.prefix_append _ _
  · exact (dropReturn_eq_self h).symm ▸ List.prefix_rfl

theorem dropReturn_cons {c : Char} (hc : c ≠ '\r') (cs : List Char) :
    dropReturn (c :: cs) = c :: dropReturn cs := by
  by_cases h : cs.getLast? = some '\r'
  · obtain ⟨front, rfl⟩ := List.getLast?_eq_some_iff.mp h
    rw [← List.cons_append, dropReturn_concat, dropReturn_concat]
  · have h' : (c :: cs).getLast? ≠ some '\r' := by
      cases cs with
      | nil => simpa using hc
      | cons d cs => rwa [List.getLast?_cons_cons]
    rw [dropReturn_eq_self h, dropReturn_eq_self h']

/-- A text that can stand on a line: nothing in it ends the line, nor is its end taken for a part of
the line end. -/
structure FitsLine (s : String) : Prop where
  newline : '\n' ∉ s.toList
  last : s.toList.getLast? ≠ some '\r'

theorem FitsLine.append {s t : String} (hs : '\n' ∉ s.toList) (ht : FitsLine t) (hsome : t ≠ "") :
    FitsLine (s ++ t) where
  newline := by
    rw [String.toList_append, List.mem_append]
    exact fun h => h.elim hs ht.newline
  last := by
    have hend : t.toList ≠ [] := by simpa using hsome
    obtain ⟨front, c, hfront⟩ := (List.eq_nil_or_concat t.toList).resolve_left hend
    have hlast := ht.last
    rw [hfront, List.concat_eq_append, List.getLast?_concat] at hlast
    rw [String.toList_append, hfront, List.concat_eq_append, ← List.append_assoc,
      List.getLast?_concat]
    exact hlast

/-- **A text of lines is cut into its lines.** -/
theorem lines_join {ls : List String} (h : ∀ l ∈ ls, FitsLine l) :
    lines (String.join (ls.map (· ++ "\n"))) = ls := by
  have hcut : cutWhere (· == '\n') (String.join (ls.map (· ++ "\n"))).toList =
      ls.map String.toList ++ [[]] := by
    induction ls with
    | nil => rfl
    | cons l ls ih =>
      obtain ⟨hl, hls⟩ := List.forall_mem_cons.mp h
      have hnone : ∀ c ∈ l.toList, (c == '\n') = false := by
        intro c hc
        simpa using fun heq : c = '\n' => hl.newline (heq ▸ hc)
      have htext : (String.join ((l :: ls).map (· ++ "\n"))).toList =
          l.toList ++ '\n' :: (String.join (ls.map (· ++ "\n"))).toList := by
        simp [String.join_cons]
      rw [htext, cutWhere_append (by simp), cutWhere_of_none hnone, ih hls]
      rfl
  have hkept : (ls.map String.toList).map dropReturn = ls.map String.toList := by
    rw [List.map_map]
    exact List.map_congr_left fun l hl => dropReturn_eq_self (h l hl).last
  rw [lines, lineChars, hcut]
  simp only [List.getLast?_concat, List.dropLast_concat, hkept, List.map_map]
  exact (List.map_congr_left fun l _ => String.ofList_toList).trans (List.map_id _)

/-! ## A text at the end -/

/-- What is cut off the end of a text is made of what is looked for. -/
theorem mem_of_dropEndText (part : List Char) {cs : List Char} {c : Char} (hc : c ∈ cs) :
    c ∈ dropEndText part cs ∨ c ∈ part := by
  fun_induction dropEndText part cs with
  | case1 cs h ih =>
    obtain ⟨front, hfront⟩ := List.isSuffixOf_iff_suffix.mp h.1
    have htake : cs.take (cs.length - part.length) = front := by
      rw [← hfront, List.length_append, Nat.add_sub_cancel, List.take_left]
    rw [htake] at ih ⊢
    rw [← hfront, List.mem_append] at hc
    exact hc.elim ih Or.inr
  | case2 cs h => exact Or.inl hc

/-! ## Blanks at the ends -/

theorem trimChars_trimChars (cs : List Char) : trimChars (trimChars cs) = trimChars cs := by
  have hprefix : trimChars cs <+: cs.dropWhile isBlank := List.rdropWhile_prefix isBlank _
  have hfront : (trimChars cs).dropWhile isBlank = trimChars cs := by
    cases htrim : trimChars cs with
    | nil => rfl
    | cons c rest =>
      obtain ⟨tail, htail⟩ := htrim ▸ hprefix
      have hc := List.head?_dropWhile_not isBlank cs
      rw [← htail] at hc
      exact List.dropWhile_cons_of_neg (by simpa using hc)
  exact (congrArg (dropEndWhile isBlank) hfront).trans (List.rdropWhile_idempotent isBlank _)

theorem trim_trim (s : String) : trim (trim s) = trim s := by
  rw [trim, trim, String.toList_ofList, trimChars_trimChars]

/-- What stands behind a character that is no blank is trimmed at its end alone. -/
theorem trimChars_append_cons {c : Char} (h : isBlank c = false) (before after : List Char) :
    trimChars (before ++ c :: after) =
      before.dropWhile isBlank ++ c :: dropEndWhile isBlank after := by
  have hfront : (before ++ c :: after).dropWhile isBlank =
      before.dropWhile isBlank ++ c :: after := by
    rw [List.dropWhile_append]
    split
    · rename_i hall
      rw [List.isEmpty_iff.mp hall, List.dropWhile_cons_of_neg (by simp [h]), List.nil_append]
    · rfl
  have hend (front : List Char) : dropEndWhile isBlank (front ++ c :: after) =
      front ++ c :: dropEndWhile isBlank after := by
    rw [dropEndWhile, List.reverse_append, List.reverse_cons, List.append_assoc,
      List.singleton_append, List.dropWhile_append]
    split
    · rename_i hall
      rw [List.dropWhile_cons_of_neg (by simp [h]), dropEndWhile, List.isEmpty_iff.mp hall]
      simp
    · simp [dropEndWhile]
  rw [trimChars, hfront, hend]

theorem trimChars_append_blanks {blanks : List Char} (h : ∀ c ∈ blanks, isBlank c = true)
    (cs : List Char) : trimChars (cs ++ blanks) = trimChars cs := by
  have hend (front : List Char) :
      dropEndWhile isBlank (front ++ blanks) = dropEndWhile isBlank front := by
    rw [dropEndWhile, List.reverse_append, List.dropWhile_append_of_pos (by simpa using h)]
    rfl
  rw [trimChars, List.dropWhile_append]
  split
  · rename_i hall
    rw [trimChars, List.isEmpty_iff.mp hall, List.dropWhile_eq_nil_iff.mpr h]
  · exact hend _

/-- Blanks at the end of a text do not show in a trimmed beginning of it. -/
theorem trimChars_takeWhile_dropEndWhile (q : Char → Bool) (cs : List Char) :
    trimChars ((dropEndWhile isBlank cs).takeWhile q) = trimChars (cs.takeWhile q) := by
  have hsplit : dropEndWhile isBlank cs ++ cs.rtakeWhile isBlank = cs :=
    List.rdropWhile_append_rtakeWhile ..
  have hblanks : ∀ c ∈ (cs.rtakeWhile isBlank).takeWhile q, isBlank c = true := fun c hc =>
    List.mem_rtakeWhile_imp ((List.takeWhile_sublist q).subset hc)
  conv_rhs => rw [← hsplit, List.takeWhile_append]
  split
  · rename_i hall
    rw [trimChars_append_blanks hblanks,
      (List.takeWhile_prefix q).eq_of_length hall]
  · rfl

theorem trim_dropWhile (cs : List Char) :
    trim (String.ofList (cs.dropWhile isBlank)) = trim (String.ofList cs) := by
  rw [trim, trim, String.toList_ofList, String.toList_ofList, trimChars, trimChars,
    List.dropWhile_idempotent]

theorem trim_of_nonBlank? {s t : String} (h : nonBlank? s = some t) : trim s = t := by
  unfold nonBlank? at h
  dsimp only at h
  split at h
  · exact absurd h (by simp)
  · exact Option.some.inj h

theorem trim_of_nonBlank?_none {s : String} (h : nonBlank? s = none) : trim s = "" := by
  unfold nonBlank? at h
  dsimp only at h
  split at h
  · rename_i hempty
    simpa using hempty
  · exact absurd h (by simp)

/-! ## The first word -/

theorem head?_wordChars (cs : List Char) :
    (wordChars cs).head? =
      (cs.dropWhile isBlank).head?.map fun c =>
        c :: (cs.dropWhile isBlank).tail.takeWhile (!isBlank ·) := by
  rw [wordChars]
  cases cs.dropWhile isBlank <;> rfl

theorem takeWhile_dropEndWhile (cs : List Char) :
    (dropEndWhile isBlank cs).takeWhile (!isBlank ·) = cs.takeWhile (!isBlank ·) := by
  have hsplit : dropEndWhile isBlank cs ++ cs.rtakeWhile isBlank = cs :=
    List.rdropWhile_append_rtakeWhile ..
  have hblanks : (cs.rtakeWhile isBlank).takeWhile (!isBlank ·) = [] := by
    refine List.takeWhile_eq_nil_iff.mpr fun hl => ?_
    simpa using List.mem_rtakeWhile_imp (List.getElem_mem hl)
  conv_rhs => rw [← hsplit, List.takeWhile_append, hblanks, List.append_nil]
  split
  · rename_i hall
    exact (List.takeWhile_prefix _).eq_of_length hall
  · rfl

/-- The first word is the same without the blanks at the ends. -/
theorem head?_wordChars_trimChars (cs : List Char) :
    (wordChars (trimChars cs)).head? = (wordChars cs).head? := by
  have hfirst := List.head?_dropWhile_not isBlank cs
  rw [head?_wordChars, head?_wordChars, trimChars]
  cases hcs : cs.dropWhile isBlank with
  | nil => rfl
  | cons c rest =>
    rw [hcs] at hfirst
    have hc : isBlank c = false := by simpa using hfirst
    have htrim : dropEndWhile isBlank (c :: rest) = c :: dropEndWhile isBlank rest := by
      have := trimChars_append_cons hc [] rest
      rwa [List.nil_append, trimChars, List.dropWhile_cons_of_neg (by simp [hc])] at this
    rw [htrim, List.dropWhile_cons_of_neg (by simp [hc])]
    simp [takeWhile_dropEndWhile]

/-- A blank behind a word ends it. -/
theorem head?_wordChars_append {cs : List Char} (hsome : cs.dropWhile isBlank ≠ []) {c : Char}
    (hc : isBlank c = true) (rest : List Char) :
    (wordChars (cs ++ c :: rest)).head? = (wordChars cs).head? := by
  rw [head?_wordChars, head?_wordChars, List.dropWhile_append, if_neg (by simpa using hsome)]
  obtain ⟨d, word, hword⟩ := List.exists_cons_of_ne_nil hsome
  have hend : (word ++ c :: rest).takeWhile (!isBlank ·) = word.takeWhile (!isBlank ·) := by
    rw [List.takeWhile_append]
    split
    · rename_i hall
      rw [List.takeWhile_cons_of_neg (by simp [hc]), List.append_nil,
        (List.takeWhile_prefix _).eq_of_length hall]
    · rfl
  simp [hword, hend]

end MediaIndex.Text
