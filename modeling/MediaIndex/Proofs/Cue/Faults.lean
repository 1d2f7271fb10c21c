import MediaIndex.Proofs.Cue.Words
import MediaIndex.Proofs.Text.Lines

/-!
# Where a sheet is refused

A line may be wrong by itself, or only at its place: a track before any file, an index outside a
track. Either way it is the lines above that decide, and reading stops at the first line that cannot
be added. So an error names the end of a beginning of the text that cannot be read, while every
shorter one can (`addLines_eq_error`), and that beginning is refused with the same error whatever
stands below (`addLines_above`).

The byte-order mark belongs to the first line, and taking it off there is the same as taking it off
the text (`ofText_eq_addLines`). That makes a text that is cut between two lines a list of lines
that is cut.

> **`fault_law`**: an error is about the first line that cannot be read, and what stands below
> neither hides nor changes it. What can be read can be read up to any line.
-/

set_option autoImplicit false

namespace MediaIndex

namespace CueSheet

variable {s s' : CueSheet} {ls : List String} {number : Nat}

/-! ## Lines -/

theorem addLines_append (s : CueSheet) (number : Nat) (ls ms : List String) :
    s.addLines number (ls ++ ms) =
      (s.addLines number ls).bind fun s' => s'.addLines (number + ls.length) ms := by
  induction ls generalizing s number with
  | nil => rfl
  | cons line ls ih =>
    rw [List.cons_append, addLines, addLines]
    cases s.addText line with
    | error fault => rfl
    | ok s' =>
      simp only [ih, List.length_cons]
      rw [Nat.add_right_comm, Nat.add_assoc]

/-- What can be read can be read up to any line. -/
theorem addLines_take (h : s.addLines number ls = .ok s') (k : Nat) :
    ∃ s'', s.addLines number (ls.take k) = .ok s'' := by
  rw [← List.take_append_drop k ls, addLines_append] at h
  cases htaken : s.addLines number (ls.take k) with
  | error e => rw [htaken] at h; cases h
  | ok s'' => exact ⟨s'', rfl⟩

/-- A line that cannot be added is the one that the error names, whatever stands below. -/
theorem addLines_above {above : List String} {line : String} {fault : CueFault}
    (habove : s.addLines number above = .ok s') (hline : s'.addText line = .error fault)
    (below : List String) :
    s.addLines number (above ++ line :: below) = .error ⟨number + above.length, fault⟩ := by
  rw [addLines_append, habove]
  simp only [Except.bind, addLines, hline]

/-- An error names a line that cannot be added, and the lines above it can be. -/
theorem addLines_eq_error {e : CueError} (h : s.addLines number ls = .error e) :
    ∃ above line below s', ls = above ++ line :: below ∧ e.line = number + above.length ∧
      s.addLines number above = .ok s' ∧ s'.addText line = .error e.fault := by
  induction ls generalizing s number with
  | nil => cases h
  | cons line ls ih =>
    rw [addLines] at h
    cases hline : s.addText line with
    | error fault =>
      rw [hline] at h
      cases h
      exact ⟨[], line, ls, s, rfl, rfl, rfl, hline⟩
    | ok s₁ =>
      rw [hline] at h
      obtain ⟨above, bad, below, s', rfl, hnumber, habove, hbad⟩ := ih h
      refine ⟨line :: above, bad, below, s', rfl, ?_, ?_, hbad⟩
      · rw [hnumber, List.length_cons, Nat.add_right_comm, Nat.add_assoc]
      · rw [addLines, hline]
        exact habove

/-- An error names one of the lines. -/
theorem line_of_addLines {e : CueError} (h : s.addLines number ls = .error e) :
    number ≤ e.line ∧ e.line < number + ls.length := by
  obtain ⟨above, line, below, s', rfl, hnumber, -, -⟩ := addLines_eq_error h
  rw [List.length_append, List.length_cons]
  omega

/-! ## The byte-order mark -/

/-- The byte-order mark. -/
def byteOrderMark : Char := '\ufeff'

/-- Lines without the byte-order mark in front of the first. -/
def unmark : List String → List String
  | [] => []
  | line :: rest => dropByteOrderMark line :: rest

theorem unmark_take (k : Nat) (ls : List String) : unmark (ls.take k) = (unmark ls).take k := by
  cases ls with
  | nil => simp [unmark]
  | cons line rest => cases k <;> rfl

theorem length_unmark (ls : List String) : (unmark ls).length = ls.length := by
  cases ls <;> rfl

/-- A text begins with a mark, or it does not. -/
theorem marked_or_unmarked (text : String) :
    (∃ cs, text = String.ofList (byteOrderMark :: cs)) ∨
      ∃ cs, text = String.ofList cs ∧ cs.head? ≠ some byteOrderMark := by
  by_cases hmark : text.toList.head? = some byteOrderMark
  · obtain ⟨cs, hcs⟩ := List.head?_eq_some_iff.mp hmark
    exact .inl ⟨cs, by rw [← hcs, String.ofList_toList]⟩
  · exact .inr ⟨text.toList, String.ofList_toList.symm, hmark⟩

theorem afterLead?_marked (cs : List Char) :
    Text.afterLead? "\ufeff" (String.ofList (byteOrderMark :: cs)) = some (String.ofList cs) := by
  simp [Text.afterLead?, Text.startsWith, byteOrderMark]

theorem afterLead?_unmarked {cs : List Char} (h : cs.head? ≠ some byteOrderMark) :
    Text.afterLead? "\ufeff" (String.ofList cs) = none := by
  cases cs with
  | nil => decide
  | cons c cs =>
    have hc : '\ufeff' ≠ c := fun heq => h (heq ▸ rfl)
    simpa [Text.afterLead?, Text.startsWith, List.isPrefixOf] using hc

theorem dropByteOrderMark_marked (cs : List Char) :
    dropByteOrderMark (String.ofList (byteOrderMark :: cs)) = String.ofList cs := by
  rw [dropByteOrderMark, afterLead?_marked, Option.getD_some]

theorem dropByteOrderMark_unmarked {cs : List Char} (h : cs.head? ≠ some byteOrderMark) :
    dropByteOrderMark (String.ofList cs) = String.ofList cs := by
  rw [dropByteOrderMark, afterLead?_unmarked h, Option.getD_none]

/-- An empty line says nothing. -/
theorem addText_empty (s : CueSheet) : s.addText "" = .ok s := by
  have hline : CueLine.ofText "" = .ok .other := by
    rw [CueLine.ofText, String.toList_empty, CueLine.words?_nil]
    rfl
  rw [addText, hline]
  rfl

/-- **The mark is a matter of the first line.** -/
theorem ofText_eq_addLines (text : String) :
    ofText text = addLines {} 1 (unmark (Text.lines text)) := by
  rw [ofText]
  obtain ⟨rest, rfl⟩ | ⟨cs, rfl, hmark⟩ := marked_or_unmarked text
  · rw [dropByteOrderMark_marked, Text.lines, Text.lines, String.toList_ofList,
      String.toList_ofList, Text.lineChars_cons (by decide) (by decide)]
    cases Text.lineChars rest with
    | nil =>
      -- the mark is all that there is, and it leaves an empty line
      rw [List.map_singleton, unmark, dropByteOrderMark_marked, addLines, String.ofList_nil,
        addText_empty]
      rfl
    | cons first more => simp only [List.map_cons, unmark, dropByteOrderMark_marked]
  · rw [dropByteOrderMark_unmarked hmark]
    congr 1
    rw [Text.lines, String.toList_ofList]
    have hfirst : ∀ l ∈ (Text.lineChars cs).head?, l <+: cs :=
      Text.prefix_of_mem_head?_lineChars
    cases hlines : Text.lineChars cs with
    | nil => rfl
    | cons first more =>
      obtain ⟨tail, htail⟩ := hfirst first (by simp [hlines])
      have hunmarked : first.head? ≠ some byteOrderMark := by
        intro h
        rw [← htail, List.head?_append, h] at hmark
        exact hmark rfl
      rw [List.map_cons, unmark, dropByteOrderMark_unmarked hunmarked]

/-! ## Texts -/

theorem ofText_takeLines (k : Nat) (text : String) :
    ofText (Text.takeLines k text) = addLines {} 1 ((unmark (Text.lines text)).take k) := by
  rw [ofText_eq_addLines, Text.lines_takeLines, unmark_take]

/-- **An error is about the first line that cannot be read.** The text above that line can be read,
and every text with the same lines up to that one is refused with the same error. A text that can be
read can be read up to any line. -/
theorem fault_law (text : String) :
    (∀ e, ofText text = .error e →
      (1 ≤ e.line ∧ e.line ≤ (Text.lines text).length) ∧
      (∃ s, ofText (Text.takeLines (e.line - 1) text) = .ok s) ∧
      ∀ other, (Text.lines other).take e.line = (Text.lines text).take e.line →
        ofText other = .error e) ∧
    ∀ s, ofText text = .ok s → ∀ k, ∃ s', ofText (Text.takeLines k text) = .ok s' := by
  constructor
  · intro e h
    rw [ofText_eq_addLines] at h
    obtain ⟨hfirst, hlast⟩ := line_of_addLines h
    rw [length_unmark] at hlast
    obtain ⟨above, line, below, s, hlines, hnumber, habove, hline⟩ := addLines_eq_error h
    have htop : (unmark (Text.lines text)).take e.line = above ++ [line] := by
      rw [hlines, hnumber, Nat.add_comm, List.take_length_add_append]
      rfl
    refine ⟨⟨hfirst, by omega⟩, ⟨s, ?_⟩, fun other hsame => ?_⟩
    · rw [ofText_takeLines, hlines, hnumber, Nat.add_sub_cancel_left, List.take_left, habove]
    · have htop' : (unmark (Text.lines other)).take e.line = above ++ [line] := by
        rw [← unmark_take, hsame, unmark_take, htop]
      rw [ofText_eq_addLines, ← List.take_append_drop e.line (unmark (Text.lines other)), htop',
        List.append_assoc, List.singleton_append, addLines_above habove hline, ← hnumber]
  · intro s h k
    rw [ofText_eq_addLines] at h
    rw [ofText_takeLines]
    exact addLines_take h k

/-- A new file closes the track, so that an index below it is outside. -/
example : ofText "FILE a.wav WAVE\nTRACK 01 AUDIO\nFILE b.wav WAVE\nINDEX 01 00:00:00\nTITLE \"" =
    .error ⟨4, .indexOutsideTrack⟩ := by decide +kernel

end CueSheet

end MediaIndex
