import MediaIndex.Proofs.Cue.Faults

/-!
# Lines that are passed over

Which file and which track a line is about is not written on it; the lines above tell. So a line
with an unknown command, right between a track and its title, must not count as one of them. A line
that is passed over (`CueLine.PassedOver`) leaves the sheet as it is, whatever was read before, and
all that it can change is the number of the line that is refused (`addLines_passedOver`).

A line put in may close the last line of the text, and a carriage return there is then taken for a
part of the line end. No line tells the difference (`CueLine.ofText_dropReturn`).

At the very top a line can be taken for more than it is: a byte-order mark that it begins with
counts as the text's, and what is read is the rest of it (`lineAt`, `markedLine_read`).

> **`insertLine_law`**: putting in a line that is passed over leaves a sheet as it is read, and moves
> an error at or below that place by one line.
-/

set_option autoImplicit false

namespace MediaIndex

/-! ## One line -/

namespace CueLine

/-- The commands that are read. -/
def commands : List String :=
  ["FILE", "TRACK", "INDEX", "TITLE", "PERFORMER", "SONGWRITER", "REM"]

/-- The remarks that are read. -/
def topics : List String := ["GENRE", "DATE"]

/-- Words that say nothing about a sheet: none, a command that is not read, or a remark that is
not. -/
def SayNothing : List String → Prop
  | [] => True
  | command :: arguments =>
    Text.asciiUpper command ∉ commands ∨
      Text.asciiUpper command = "REM" ∧ ∀ topic ∈ arguments.head?, Text.asciiUpper topic ∉ topics

instance : (words : List String) → Decidable (SayNothing words)
  | [] => inferInstanceAs (Decidable True)
  | _ :: _ => inferInstanceAs (Decidable (_ ∨ _))

/-- A line with closed quotes whose words say nothing. -/
def PassedOver (line : String) : Prop :=
  ∃ words, words? line.toList = some words ∧ SayNothing (words.map String.ofList)

theorem remark_of_notMem {arguments : List String}
    (h : ∀ topic ∈ arguments.head?, Text.asciiUpper topic ∉ topics) : remark arguments = .other := by
  cases arguments with
  | nil => rfl
  | cons topic more =>
    have htopic := h topic rfl
    rw [remark]
    split
    · rename_i hgenre
      exact absurd (hgenre ▸ htopic) (by decide)
    · rename_i hdate
      exact absurd (hdate ▸ htopic) (by decide)
    · rfl

theorem ofWords_of_sayNothing {words : List String} (h : SayNothing words) :
    ofWords words = .ok .other := by
  cases words with
  | nil => rfl
  | cons command arguments =>
    rcases h with hunknown | ⟨hrem, htopic⟩
    · simp only [ofWords]
      split
      all_goals first
        | rfl
        | rename_i hcommand
          exact absurd (hcommand ▸ hunknown) (by decide)
    · simp only [ofWords, hrem, remark_of_notMem htopic]

theorem PassedOver.ofText {line : String} (h : PassedOver line) : ofText line = .ok .other := by
  obtain ⟨words, hwords, hnothing⟩ := h
  rw [CueLine.ofText, hwords]
  exact ofWords_of_sayNothing hnothing

/-- A carriage return at the end of a line says nothing. -/
theorem ofText_dropReturn (cs : List Char) :
    ofText (String.ofList (Text.dropReturn cs)) = ofText (String.ofList cs) := by
  by_cases h : cs.getLast? = some '\r'
  · obtain ⟨front, rfl⟩ := List.getLast?_eq_some_iff.mp h
    rw [Text.dropReturn_concat, ofText, ofText, String.toList_ofList, String.toList_ofList,
      words?_append_blank (by decide)]
  · rw [Text.dropReturn_eq_self h]

end CueLine

/-! ## Lines -/

/-- An error after a line was put in below the first `n` lines. -/
def CueError.behind (n : Nat) (e : CueError) : CueError :=
  { e with line := if n < e.line then e.line + 1 else e.line }

namespace CueSheet

variable {s : CueSheet}

/-- Only what the lines say counts. -/
theorem addLines_congr {ls ms : List String} (h : ls.map CueLine.ofText = ms.map CueLine.ofText)
    (s : CueSheet) (number : Nat) : s.addLines number ls = s.addLines number ms := by
  induction ls generalizing ms s number with
  | nil => rw [List.map_eq_nil_iff.mp h.symm]
  | cons line ls ih =>
    cases ms with
    | nil => cases h
    | cons line' ms =>
      obtain ⟨hline, hrest⟩ := List.cons.inj h
      rw [addLines, addLines, addText, addText, hline]
      cases (CueLine.ofText line').bind s.add with
      | error fault => rfl
      | ok s' => exact ih hrest s' (number + 1)

/-- Below the place the lines have the next number. -/
theorem addLines_behind {n number : Nat} (h : n < number) (s : CueSheet) (ls : List String) :
    s.addLines (number + 1) ls = (s.addLines number ls).mapError (CueError.behind n) := by
  induction ls generalizing s number with
  | nil => rfl
  | cons line ls ih =>
    rw [addLines, addLines]
    cases s.addText line with
    | error fault => simp [Except.mapError, CueError.behind, h]
    | ok s' => exact ih (Nat.lt_succ_of_lt h) s'

/-- **A line that is passed over changes nothing but the numbers of the lines below.** -/
theorem addLines_passedOver {line : String} (hline : CueLine.ofText line = .ok .other)
    {n number : Nat} {above : List String} (hplace : number + above.length = n + 1) (s : CueSheet)
    (below : List String) :
    s.addLines number (above ++ line :: below) =
      (s.addLines number (above ++ below)).mapError (CueError.behind n) := by
  rw [addLines_append, addLines_append, hplace]
  cases habove : s.addLines number above with
  | error e =>
    have hlast := (line_of_addLines habove).2
    have hfixed : e.behind n = e := by
      rw [CueError.behind, if_neg (by omega)]
    exact congrArg Except.error hfixed.symm
  | ok s' =>
    have hpassed : s'.addLines (n + 1) (line :: below) = s'.addLines (n + 2) below := by
      rw [addLines, addText, hline]
      rfl
    exact hpassed.trans (addLines_behind (Nat.lt_succ_self n) s' below)

/-! ## Texts -/

/-- A text with a line put in below its first lines. The byte-order mark stays in front. -/
def insertLine (n : Nat) (line text : String) : String :=
  match Text.afterLead? "\ufeff" text with
  | some body => "\ufeff" ++ Text.insertLine n line body
  | none => Text.insertLine n line text

/-- A line as it is read where it is put in. At the top of a text that has no byte-order mark, the
one that the line begins with is taken for the text's. -/
def lineAt (n : Nat) (line text : String) : String :=
  if n = 0 ∧ Text.afterLead? "\ufeff" text = none then dropByteOrderMark line else line

theorem dropByteOrderMark_append (line : String) {cs : List Char}
    (hcs : cs.head? ≠ some byteOrderMark) :
    dropByteOrderMark (String.ofList (line.toList ++ cs)) =
      String.ofList ((dropByteOrderMark line).toList ++ cs) := by
  obtain ⟨rest, rfl⟩ | ⟨ls, rfl, hmark⟩ := marked_or_unmarked line
  · rw [String.toList_ofList, List.cons_append, dropByteOrderMark_marked, dropByteOrderMark_marked,
      String.toList_ofList]
  · have hfirst : (ls ++ cs).head? ≠ some byteOrderMark := by
      cases ls with
      | nil => exact hcs
      | cons c ls => exact hmark
    rw [dropByteOrderMark_unmarked hmark, String.toList_ofList, dropByteOrderMark_unmarked hfirst]

theorem notMem_dropByteOrderMark {c : Char} {text : String} (h : c ∉ text.toList) :
    c ∉ (dropByteOrderMark text).toList := by
  obtain ⟨rest, rfl⟩ | ⟨cs, rfl, hmark⟩ := marked_or_unmarked text
  · rw [dropByteOrderMark_marked]
    simp only [String.toList_ofList] at h ⊢
    exact fun hc => h (List.mem_cons_of_mem _ hc)
  · rwa [dropByteOrderMark_unmarked hmark]

/-- Without the byte-order mark, the line stands in the text without the mark. -/
theorem dropByteOrderMark_insertLine {n : Nat} {text : String} (line : String)
    (hplace : n ≤ (Text.lines (dropByteOrderMark text)).length) :
    dropByteOrderMark (insertLine n line text) =
      Text.insertLine n (lineAt n line text) (dropByteOrderMark text) := by
  obtain ⟨rest, rfl⟩ | ⟨cs, rfl, hmark⟩ := marked_or_unmarked text
  · have hfront : "\ufeff" ++ Text.insertLine n line (String.ofList rest) =
        String.ofList (byteOrderMark :: (Text.insertLine n line (String.ofList rest)).toList) := by
      rw [String.ofList_cons, String.ofList_toList]
      rfl
    rw [insertLine, lineAt, dropByteOrderMark_marked, afterLead?_marked]
    simp only [hfront, dropByteOrderMark_marked, String.ofList_toList, reduceCtorEq, and_false,
      if_false]
  · rw [dropByteOrderMark_unmarked hmark] at hplace ⊢
    rw [insertLine, lineAt, afterLead?_unmarked hmark]
    simp only [and_true]
    cases n with
    | zero =>
      rw [if_pos rfl, Text.insertLine, Text.insertLine]
      exact dropByteOrderMark_append line (by simp [byteOrderMark])
    | succ n =>
      -- the first character stays where it is
      cases cs with
      | nil => exact absurd hplace (Nat.not_succ_le_zero n)
      | cons c cs =>
        have hfirst : (Text.insertLineChars line.toList (n + 1) (c :: cs)).head? ≠
            some byteOrderMark := by
          rw [Text.head?_insertLineChars]
          exact hmark
        rw [if_neg (Nat.succ_ne_zero n), Text.insertLine, String.toList_ofList,
          dropByteOrderMark_unmarked hfirst]

/-- **A line that is passed over does not show.** Wherever it is put in, a sheet is read as it was,
and an error is the same one; its line number is one higher where the line was put in above the line
that is refused. -/
theorem insertLine_law (text line : String) (n : Nat)
    (hplace : n ≤ (Text.lines (dropByteOrderMark text)).length) (hline : '\n' ∉ line.toList)
    (hpassed : CueLine.PassedOver (lineAt n line text)) :
    ofText (insertLine n line text) = (ofText text).mapError (CueError.behind n) := by
  have hclosed : '\n' ∉ (lineAt n line text).toList := by
    rw [lineAt]
    split
    · exact notMem_dropByteOrderMark hline
    · exact hline
  have hlines := Text.map_lines_insertLine CueLine.ofText_dropReturn hclosed n
    (dropByteOrderMark text)
  have habove : 1 + ((Text.lines (dropByteOrderMark text)).take n).length = n + 1 := by
    rw [List.length_take_of_le hplace, Nat.add_comm]
  rw [ofText, dropByteOrderMark_insertLine line hplace, addLines_congr hlines,
    addLines_passedOver hpassed.ofText habove, List.take_append_drop]
  rfl

/-- A sheet whose second line is refused. -/
def unnumbered : String := "FILE a.wav WAVE\nTRACK x AUDIO\n"

/-- The flags are put in above the line that is refused. -/
theorem insertLine_unnumbered :
    1 ≤ (Text.lines (dropByteOrderMark unnumbered)).length ∧ '\n' ∉ " Flags DCP\r".toList ∧
      CueLine.PassedOver (lineAt 1 " Flags DCP\r" unnumbered) ∧
      ofText unnumbered = .error ⟨2, .trackNumber⟩ ∧
      ofText (insertLine 1 " Flags DCP\r" unnumbered) = .error ⟨3, .trackNumber⟩ := by
  have hplace : 1 ≤ (Text.lines (dropByteOrderMark unnumbered)).length := by decide
  have hline : '\n' ∉ " Flags DCP\r".toList := by decide
  have hpassed : CueLine.PassedOver (lineAt 1 " Flags DCP\r" unnumbered) :=
    ⟨["Flags".toList, "DCP".toList], by decide +kernel, by decide⟩
  have hrefused : ofText unnumbered = .error ⟨2, .trackNumber⟩ := by decide +kernel
  refine ⟨hplace, hline, hpassed, hrefused, ?_⟩
  rw [insertLine_law unnumbered " Flags DCP\r" 1 hplace hline hpassed, hrefused]
  rfl

/-- **At the top of a text without byte-order mark a line need not be the line that was put in**:
with a mark in front, a title is no command that is read, and yet the title is read. -/
theorem markedLine_read :
    CueLine.PassedOver "\ufeffTITLE One" ∧
      ofText (insertLine 0 "\ufeffTITLE One" "") = .ok { credits := { title := some "One" } } ∧
      (ofText "").mapError (CueError.behind 0) = .ok {} :=
  ⟨⟨["\ufeffTITLE".toList, "One".toList], by decide +kernel, by decide⟩, by decide +kernel,
    by decide +kernel⟩

end CueSheet

end MediaIndex
