import MediaIndex.Proofs.Report.Blocks
import MediaIndex.Proofs.Text.Lines

/-!
# What stands above the first input

A tool says a good deal before it comes to the file: its version, its build, and whatever its
libraries have to complain of. Among these lines there may be some that look like the lines of a
summary.

> **`preamble_law`**: a text is no summary exactly if no line of it begins an input, and it is read
> as the text from the first such line on.

Both come from one fact. Up to the first input the state stays what it was at the start, so the
lines above could as well be missing (`read_dropWhile`); and from then on an input has been seen,
whatever follows (`seenInput_read`).
-/

set_option autoImplicit false

namespace MediaIndex

namespace SummaryState

variable {st : SummaryState} {line : SummaryLine} {raw : String} {lines rest : List String}

theorem ne_input_of_not_isInput (h : SummaryLine.isInput raw = false) (format : String) :
    SummaryLine.ofText raw ≠ .input format := by
  intro hinput
  rw [SummaryLine.isInput_iff.mpr ⟨format, hinput⟩] at h
  exact absurd h (by simp)

theorem seenInput_step (hseen : st.seenInput = true) (line : SummaryLine) :
    (st.step line).1.seenInput = true := by
  by_cases hstream : ∃ l : StreamLine, line = l.line
  · obtain ⟨l, rfl⟩ := hstream
    exact (step_streamLine hseen l).2.1
  · exact (silent_step (fun l hl => hstream ⟨l, hl⟩) st).2.2 hseen

theorem seenInput_read (hseen : st.seenInput = true) (lines : List String) :
    (st.read lines).1.seenInput = true := by
  induction lines generalizing st with
  | nil => exact hseen
  | cons raw lines ih =>
    rw [read_cons]
    exact ih (seenInput_step hseen (.ofText raw))

theorem seenInput_read_input (h : SummaryLine.isInput raw = true) (st : SummaryState)
    (rest : List String) : (st.read (raw :: rest)).1.seenInput = true := by
  obtain ⟨format, hline⟩ := SummaryLine.isInput_iff.mp h
  rw [read_cons, hline]
  exact seenInput_read rfl rest

/-- **The lines above the first input could as well be missing.** -/
theorem read_dropWhile (hseen : st.seenInput = false) (lines : List String) :
    st.read lines = st.read (lines.dropWhile fun raw => !SummaryLine.isInput raw) := by
  have habove : st.read (lines.takeWhile fun raw => !SummaryLine.isInput raw) = (st, []) := by
    refine read_unseen hseen fun raw hraw => ?_
    have hnot := List.all_eq_true.mp List.all_takeWhile raw hraw
    exact ne_input_of_not_isInput (by simpa using hnot)
  calc st.read lines
    _ = st.read ((lines.takeWhile fun raw => !SummaryLine.isInput raw) ++
          lines.dropWhile fun raw => !SummaryLine.isInput raw) := by
        rw [List.takeWhile_append_dropWhile]
    _ = st.read (lines.dropWhile fun raw => !SummaryLine.isInput raw) := by
        rw [read_append, habove]
        rfl

/-- **An input has been seen exactly if a line begins one.** -/
theorem seenInput_read_iff (hseen : st.seenInput = false) (lines : List String) :
    (st.read lines).1.seenInput = true ↔ ∃ raw ∈ lines, SummaryLine.isInput raw = true := by
  constructor
  · intro h
    by_contra hnone
    push Not at hnone
    rw [read_unseen hseen fun raw hraw =>
      ne_input_of_not_isInput (Bool.eq_false_iff.mpr (hnone raw hraw))] at h
    exact absurd (hseen.symm.trans h) (by simp)
  · rintro ⟨raw, hraw, hinput⟩
    rw [read_dropWhile hseen]
    cases hleft : lines.dropWhile fun raw => !SummaryLine.isInput raw with
    | nil =>
      have hnot := List.dropWhile_eq_nil_iff.mp hleft raw hraw
      exact absurd hinput (by simpa using hnot)
    | cons first rest =>
      have hfirst := List.head?_dropWhile_not (fun raw => !SummaryLine.isInput raw) lines
      rw [hleft] at hfirst
      exact seenInput_read_input (by simpa using hfirst) st rest

end SummaryState

namespace StreamSummary

open SummaryState

/-- The text from the first line on that begins an input; nothing, if no line does. -/
def fromInput (text : String) : String :=
  Text.dropLines ((Text.lines text).findIdx SummaryLine.isInput) text

theorem fromInput_spec (text : String) :
    ∃ preamble, text = preamble ++ fromInput text ∧
      Text.lines preamble = (Text.lines text).takeWhile (fun raw => !SummaryLine.isInput raw) ∧
      Text.lines (fromInput text) =
        (Text.lines text).dropWhile fun raw => !SummaryLine.isInput raw := by
  let above := (Text.lines text).findIdx SummaryLine.isInput
  refine ⟨Text.takeLines above text, (Text.takeLines_append_dropLines above text).symm, ?_, ?_⟩
  · rw [Text.lines_takeLines, List.takeWhile_eq_take_findIdx_not]
    simp [above]
  · rw [fromInput, Text.lines_dropLines, List.dropWhile_eq_drop_findIdx_not]
    simp

theorem ofText?_eq_none_iff (text : String) :
    ofText? text = none ↔ ∀ raw ∈ Text.lines text, SummaryLine.isInput raw = false := by
  have hseen := @seenInput_read_iff {} rfl (Text.lines text)
  rw [ofText?_eq, ofLines?_eq, ofReading?]
  by_cases hinput : ∃ raw ∈ Text.lines text, SummaryLine.isInput raw = true
  · rw [if_pos (hseen.mpr hinput)]
    obtain ⟨raw, hraw, hinput⟩ := hinput
    refine iff_of_false (by simp) fun hnone => ?_
    exact absurd (hnone raw hraw) (by simp [hinput])
  · rw [if_neg (mt hseen.mp hinput)]
    refine iff_of_true rfl fun raw hraw => ?_
    exact Bool.eq_false_iff.mpr fun h => hinput ⟨raw, hraw, h⟩

/-- **What stands above the first input says nothing.** Whatever a text is, it is no summary exactly
if none of its lines begins an input, and it is read, descriptor and cover, as the text from the
first of these lines on: what is cut off before it are the lines above, whatever they look like. -/
theorem preamble_law (text : String) :
    (ofText? text = none ↔ ∀ raw ∈ Text.lines text, SummaryLine.isInput raw = false) ∧
      ofText? text = ofText? (fromInput text) ∧
      ∃ preamble, text = preamble ++ fromInput text ∧
        Text.lines preamble = (Text.lines text).takeWhile (fun raw => !SummaryLine.isInput raw) ∧
        Text.lines (fromInput text) =
          (Text.lines text).dropWhile fun raw => !SummaryLine.isInput raw := by
  have hspec := fromInput_spec text
  refine ⟨ofText?_eq_none_iff text, ?_, hspec⟩
  obtain ⟨preamble, -, -, hleft⟩ := hspec
  rw [ofText?_eq, ofText?_eq, ofLines?_eq, ofLines?_eq, hleft]
  exact congrArg ofReading? (read_dropWhile rfl (Text.lines text))

end StreamSummary

end MediaIndex
