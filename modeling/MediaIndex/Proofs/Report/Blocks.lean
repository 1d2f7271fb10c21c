import MediaIndex.Proofs.Report.Streams

/-!
# Blocks of metadata

Below an input and below a stream a summary may list metadata: a line `Metadata:`, and then a row of
entries. No line closes the list. It ends with the first line that is no entry, whatever that line
is, and what is of the shape of an entry further down is passed over until the next `Metadata:`.

> **`odd_line_law`**: a line of no known shape among the entries of a block ends the block there.
> The summary is read as the one in which the entries below it are missing, and like the whole one
> if these tell nothing.

So a value that goes on in a second line costs the entries below it (`continued_title`). The state
between two lines knows of the block by a single mark, and two states that only differ in that mark
are the same again after any line that is no entry (`step_marked`): nothing else depends on
where a block has ended.
-/

set_option autoImplicit false

namespace MediaIndex

/-! ## Lines around a block -/

namespace SummaryLine

variable {raw : String} {cs : List Char}

/-- Whether a line gives a key and a value. -/
def isEntry : SummaryLine → Bool
  | .entry _ _ => true
  | _ => false

theorem isEntry_iff {line : SummaryLine} :
    line.isEntry = true ↔ ∃ key value, line = .entry key value := by
  cases line <;> simp [isEntry]

/-- A line that begins, behind its blanks, with another letter than the words of inputs, durations
and streams do. -/
theorem no_shape_of_head {c : Char} (h : (cs.dropWhile Text.isBlank).head? = some c)
    (hinput : c ≠ 'I') (hduration : c ≠ 'D') (hstream : c ≠ 'S') :
    input? cs = none ∧ duration? cs = none ∧ stream? cs = none := by
  refine ⟨?_, ?_, ?_⟩ <;> refine Option.eq_none_iff_forall_ne_some.mpr fun line hline => ?_
  · obtain ⟨⟨rest, rfl⟩, -⟩ := shape_of_input? hline
    exact hinput (by simpa [Text.isBlank, eq_comm] using h)
  · obtain ⟨⟨rest, hrest⟩, -⟩ := shape_of_duration? hline
    rw [hrest] at h
    exact hduration (by simpa [eq_comm] using h)
  · obtain ⟨⟨rest, hrest⟩, -⟩ := shape_of_stream? hline
    rw [hrest] at h
    exact hstream (by simpa [eq_comm] using h)

theorem head_of_heading (h : Text.trim raw = "Metadata:") :
    (raw.toList.dropWhile Text.isBlank).head? = some 'M' := by
  have htrim : Text.trimChars raw.toList = "Metadata:".toList := by
    rw [← h, Text.trim, String.toList_ofList]
  obtain ⟨tail, htail⟩ : Text.trimChars raw.toList <+: raw.toList.dropWhile Text.isBlank :=
    List.rdropWhile_prefix Text.isBlank _
  rw [← htail, htrim]
  rfl

/-- The heading of a block, by the text of the line. -/
theorem ofText_of_trim (h : Text.trim raw = "Metadata:") : ofText raw = .metadataHeading := by
  obtain ⟨hinput, hduration, hstream⟩ :=
    no_shape_of_head (head_of_heading h) (by decide) (by decide) (by decide)
  simp only [ofText, hinput, hduration, hstream, h, beq_self_eq_true, if_true, Option.none_or,
    Option.getD_some]

/-- An indented line that has none of the shapes that an indented line can have. -/
structure Odd (raw : String) : Prop where
  indented : ∃ c ∈ raw.toList.head?, Text.isBlank c = true
  no_duration : duration? raw.toList = none
  no_stream : stream? raw.toList = none
  no_heading : Text.trim raw ≠ "Metadata:"
  no_entry : entry? raw.toList = none

theorem Odd.ofText_eq (h : Odd raw) : ofText raw = .other := by
  have hinput : input? raw.toList = none := by
    rw [Option.eq_none_iff_forall_ne_some]
    intro line hline
    obtain ⟨⟨rest, hrest⟩, -⟩ := shape_of_input? hline
    obtain ⟨c, hc, hblank⟩ := h.indented
    rw [hrest] at hc
    obtain rfl : 'I' = c := by simpa using hc
    exact absurd hblank (by decide)
  have hheading : (Text.trim raw == "Metadata:") = false := beq_false_of_ne h.no_heading
  simp only [ofText, hinput, h.no_duration, h.no_stream, hheading, h.no_entry, Option.none_or,
    Bool.false_eq_true, if_false, Option.getD_none]

end SummaryLine

/-- A block of metadata: its heading and the entries below it. -/
structure IsMetadata (heading : String) (entries : List String) : Prop where
  heading : Text.trim heading = "Metadata:"
  entries : ∀ raw ∈ entries, (SummaryLine.ofText raw).isEntry = true

namespace IsMetadata

variable {heading : String} {kept lost : List String}

theorem left (h : IsMetadata heading (kept ++ lost)) : IsMetadata heading kept :=
  ⟨h.heading, fun raw hraw => h.entries raw (List.mem_append_left _ hraw)⟩

theorem right (h : IsMetadata heading (kept ++ lost)) :
    ∀ raw ∈ lost, (SummaryLine.ofText raw).isEntry = true :=
  fun raw hraw => h.entries raw (List.mem_append_right _ hraw)

end IsMetadata

/-! ## Reading rows of lines -/

namespace SummaryState

variable {st : SummaryState} {line : SummaryLine} {raw heading odd : String}
  {lines kept lost rest : List String}

/-- Takes in a row of lines as they stand in the text. -/
def read (st : SummaryState) (lines : List String) : SummaryState × List SurveyEvent :=
  st.run (lines.map SummaryLine.ofText)

theorem read_cons (st : SummaryState) (raw : String) (lines : List String) :
    st.read (raw :: lines) =
      (((st.step (.ofText raw)).1.read lines).1,
        (st.step (.ofText raw)).2 ++ ((st.step (.ofText raw)).1.read lines).2) := rfl

theorem read_append (st : SummaryState) (lines later : List String) :
    st.read (lines ++ later) =
      (((st.read lines).1.read later).1,
        (st.read lines).2 ++ ((st.read lines).1.read later).2) := by
  induction lines generalizing st with
  | nil => rfl
  | cons raw lines ih => simp only [List.cons_append, read_cons, ih, List.append_assoc]

theorem step_unseen (hseen : st.seenInput = false) (h : ∀ format, line ≠ .input format) :
    st.step line = (st, []) := by
  cases line with
  | input format => exact absurd rfl (h format)
  | _ => simp only [step, hseen, Bool.not_false, if_true]

theorem read_unseen (hseen : st.seenInput = false)
    (h : ∀ raw ∈ lines, ∀ format, SummaryLine.ofText raw ≠ .input format) :
    st.read lines = (st, []) := by
  induction lines with
  | nil => rfl
  | cons raw lines ih =>
    obtain ⟨hline, hlines⟩ := List.forall_mem_cons.mp h
    rw [read_cons, step_unseen hseen hline, ih hlines, List.append_nil]

/-- The state with the mark of a block set or taken away. -/
def marked (st : SummaryState) (inMetadata : Bool) : SummaryState := { st with inMetadata }

/-- What an entry tells where it is read. -/
def entryTold (st : SummaryState) : SummaryLine → List SurveyEvent
  | .entry key value => st.entryEvents key value
  | _ => []

/-- What a row of entries tells where it is read: nothing before the first input. -/
def told (st : SummaryState) (entries : List String) : List SurveyEvent :=
  if st.seenInput then entries.flatMap fun raw => st.entryTold (.ofText raw) else []

theorem told_append (st : SummaryState) (entries later : List String) :
    st.told (entries ++ later) = st.told entries ++ st.told later := by
  cases hseen : st.seenInput <;> simp [told, hseen]

/-- **Which entries tell nothing**: those below a stream that is passed over, and below a stream of
the file those that are no titles. Of an input every entry is told. -/
theorem told_eq_nil_iff (hseen : st.seenInput = true)
    (h : ∀ raw ∈ lines, (SummaryLine.ofText raw).isEntry = true) :
    st.told lines = [] ↔ lines = [] ∨ st.scope = .ignored ∨
      ∃ kind, st.scope = .stream kind ∧ ∀ raw ∈ lines, ∀ key value,
        SummaryLine.ofText raw = .entry key value → Text.sameLetters key "title" = false := by
  have hnil : st.told lines = [] ↔ ∀ raw ∈ lines, ∀ key value,
      SummaryLine.ofText raw = .entry key value → st.entryEvents key value = [] := by
    rw [told, if_pos hseen, List.flatMap_eq_nil_iff]
    refine forall₂_congr fun raw hraw => ?_
    obtain ⟨key, value, hline⟩ := SummaryLine.isEntry_iff.mp (h raw hraw)
    simp [hline, entryTold]
  rw [hnil]
  cases hscope : st.scope with
  | ignored => simp [entryEvents, hscope]
  | stream kind =>
    have hnone : lines = [] → ∀ raw ∈ lines, ∀ key value,
        SummaryLine.ofText raw = .entry key value → Text.sameLetters key "title" = false := by
      rintro rfl raw hraw
      exact absurd hraw List.not_mem_nil
    simpa [entryEvents, hscope] using hnone
  | input =>
    simp only [entryEvents, hscope, reduceCtorEq, false_and, exists_false, or_false,
      List.cons_ne_nil]
    constructor
    · intro hnone
      refine List.eq_nil_iff_forall_not_mem.mpr fun raw hraw => ?_
      obtain ⟨key, value, hline⟩ := SummaryLine.isEntry_iff.mp (h raw hraw)
      exact hnone raw hraw key value hline
    · rintro rfl raw hraw
      exact absurd hraw List.not_mem_nil

theorem step_entry (hseen : st.seenInput = true) (h : line.isEntry = true) :
    st.step line = (st, if st.inMetadata then st.entryTold line else []) := by
  obtain ⟨key, value, rfl⟩ := SummaryLine.isEntry_iff.mp h
  simp [step, hseen, entryTold]

theorem read_entries (hseen : st.seenInput = true) (hmark : st.inMetadata = true)
    (h : ∀ raw ∈ lines, (SummaryLine.ofText raw).isEntry = true) :
    st.read lines = (st, st.told lines) := by
  induction lines with
  | nil => simp [read, run, told]
  | cons raw lines ih =>
    obtain ⟨hline, hlines⟩ := List.forall_mem_cons.mp h
    rw [read_cons, step_entry hseen hline, ih hlines, if_pos hmark]
    simp only [told, hseen, if_true, List.flatMap_cons]

theorem read_entries_unmarked (hseen : st.seenInput = true) (hmark : st.inMetadata = false)
    (h : ∀ raw ∈ lines, (SummaryLine.ofText raw).isEntry = true) : st.read lines = (st, []) := by
  induction lines with
  | nil => rfl
  | cons raw lines ih =>
    obtain ⟨hline, hlines⟩ := List.forall_mem_cons.mp h
    rw [read_cons, step_entry hseen hline, ih hlines, hmark]
    rfl

/-! ## Blocks -/

theorem ne_input_of_isEntry (h : (SummaryLine.ofText raw).isEntry = true) (format : String) :
    SummaryLine.ofText raw ≠ .input format := by
  obtain ⟨key, value, hline⟩ := SummaryLine.isEntry_iff.mp h
  simp [hline]

/-- **A block leaves the mark and tells its entries.** -/
theorem read_block (h : IsMetadata heading lines) (st : SummaryState) :
    st.read (heading :: lines) =
      (if st.seenInput then st.marked true else st, st.told lines) := by
  have hheading := SummaryLine.ofText_of_trim h.heading
  cases hseen : st.seenInput with
  | false =>
    rw [read_unseen hseen]
    · simp [told, hseen]
    · refine List.forall_mem_cons.mpr ⟨fun format => ?_, fun raw hraw =>
        ne_input_of_isEntry (h.entries raw hraw)⟩
      simp [hheading]
  | true =>
    have hstep : st.step (.ofText heading) = (st.marked true, []) := by
      simp [hheading, step, hseen, marked]
    have hrun : (st.marked true).read lines = (st.marked true, (st.marked true).told lines) :=
      read_entries hseen rfl h.entries
    rw [read_cons, hstep, hrun]
    rfl

theorem read_odd (hodd : SummaryLine.Odd odd)
    (h : ∀ raw ∈ lines, (SummaryLine.ofText raw).isEntry = true) (st : SummaryState) :
    st.read (odd :: lines) = (if st.seenInput then st.marked false else st, []) := by
  cases hseen : st.seenInput with
  | false =>
    refine read_unseen hseen ?_
    refine List.forall_mem_cons.mpr ⟨fun format => ?_, fun raw hraw =>
      ne_input_of_isEntry (h raw hraw)⟩
    simp [hodd.ofText_eq]
  | true =>
    have hstep : st.step (.ofText odd) = (st.marked false, []) := by
      simp [hodd.ofText_eq, step, hseen, marked]
    have hrun : (st.marked false).read lines = (st.marked false, []) :=
      read_entries_unmarked hseen rfl h
    rw [read_cons, hstep, hrun]
    rfl

/-- **Any line that is no entry makes up for the mark**, once an input has begun. -/
theorem step_marked (hseen : st.seenInput = true) (h : line.isEntry = false) (mark : Bool) :
    (st.marked mark).step line = st.step line := by
  cases line with
  | entry key value => exact absurd h (by simp [SummaryLine.isEntry])
  | stream index language type rest =>
    simp only [step, marked, hseen, streamStep, Bool.not_true, Bool.false_eq_true, if_false]
  | _ => simp only [step, marked, hseen, Bool.not_true, Bool.false_eq_true, if_false]

/-- Two readings that tell the same, and end in states that differ at most in the mark. -/
structure Alike (x y : SummaryState × List SurveyEvent) : Prop where
  events : x.2 = y.2
  state : x.1.marked false = y.1.marked false

theorem Alike.refl (x : SummaryState × List SurveyEvent) : Alike x x := ⟨rfl, rfl⟩

theorem Alike.after {later : List String} (before : List String)
    (h : Alike ((st.read before).1.read lines) ((st.read before).1.read later)) :
    Alike (st.read (before ++ lines)) (st.read (before ++ later)) := by
  rw [read_append, read_append]
  exact ⟨congrArg ((st.read before).2 ++ ·) h.events, h.state⟩

/-- Before the first input the mark does not matter, and the input takes it away. -/
theorem alike_unseen (hseen : st.seenInput = false) (mark : Bool) :
    Alike ((st.marked mark).read lines) (st.read lines) := by
  induction lines with
  | nil => exact ⟨rfl, rfl⟩
  | cons raw lines ih =>
    by_cases hinput : ∃ format, SummaryLine.ofText raw = .input format
    · -- an input makes a state of its own, whatever the mark was
      obtain ⟨format, hinput⟩ := hinput
      rw [read_cons, read_cons, hinput]
      exact Alike.refl _
    · have hline : ∀ format, SummaryLine.ofText raw ≠ .input format :=
        fun format h => hinput ⟨format, h⟩
      have hmarked : (st.marked mark).seenInput = false := hseen
      rw [read_cons, read_cons, step_unseen hseen hline, step_unseen hmarked hline]
      exact ih

/-- **What follows a block is read without the mark as well.** -/
theorem alike_marked (h : ∀ raw ∈ lines.head?, (SummaryLine.ofText raw).isEntry = false)
    (st : SummaryState) (mark : Bool) : Alike ((st.marked mark).read lines) (st.read lines) := by
  cases hseen : st.seenInput with
  | false => exact alike_unseen hseen mark
  | true =>
    cases lines with
    | nil => exact ⟨rfl, rfl⟩
    | cons raw lines =>
      rw [read_cons, read_cons, step_marked hseen (h raw rfl) mark]
      exact Alike.refl _

/-- An odd line among entries: those below it could as well be missing. -/
theorem alike_odd (hblock : IsMetadata heading (kept ++ lost)) (hodd : SummaryLine.Odd odd)
    (hrest : ∀ raw ∈ rest.head?, (SummaryLine.ofText raw).isEntry = false) (st : SummaryState) :
    Alike (st.read (heading :: kept ++ (odd :: lost ++ rest)))
      (st.read (heading :: kept ++ rest)) := by
  refine Alike.after _ ?_
  rw [read_block hblock.left, read_append, read_odd hodd hblock.right, List.nil_append]
  dsimp only
  generalize (if st.seenInput then st.marked true else st) = below
  split
  · exact alike_marked hrest below false
  · exact Alike.refl _

/-- Entries that tell nothing could as well be missing. -/
theorem read_silent (hblock : IsMetadata heading (kept ++ lost)) (hsilent : st.told lost = []) :
    st.read (heading :: kept ++ rest) = st.read (heading :: (kept ++ lost) ++ rest) := by
  rw [read_append, read_append, read_block hblock.left, read_block hblock, told_append, hsilent,
    List.append_nil]

end SummaryState

/-! ## Summaries by their lines -/

namespace StreamSummary

open SummaryState

/-- Reads the lines of a summary. -/
def ofLines? (lines : List String) : Option StreamSummary :=
  let (s, events) := SummaryState.read {} lines
  if s.seenInput then some ⟨(Survey.start.run events).finish, s.cover⟩ else none

theorem ofText?_eq (text : String) : ofText? text = ofLines? (Text.lines text) := rfl

/-- The summary that a reading comes to, if it saw an input. -/
def ofReading? (x : SummaryState × List SurveyEvent) : Option StreamSummary :=
  if x.1.seenInput then some ⟨(Survey.start.run x.2).finish, x.1.cover⟩ else none

theorem ofLines?_eq (lines : List String) :
    ofLines? lines = ofReading? (SummaryState.read {} lines) := rfl

theorem ofReading?_congr {x y : SummaryState × List SurveyEvent} (h : Alike x y) :
    ofReading? x = ofReading? y := by
  have hseen := congrArg SummaryState.seenInput h.state
  have hcover := congrArg SummaryState.cover h.state
  simp only [marked] at hseen hcover
  simp only [ofReading?, h.events, hseen, hcover]

theorem ofLines?_congr {lines later : List String}
    (h : Alike (SummaryState.read {} lines) (SummaryState.read {} later)) :
    ofLines? lines = ofLines? later := ofReading?_congr h

/-- **An odd line in a block.** Whatever stands before and behind the block, the summary is read as
the one without the entries below the odd line; and as the whole one if these tell nothing, as where
there are none. -/
theorem odd_line_law {whole broken heading odd : String} {before kept lost rest : List String}
    (hblock : IsMetadata heading (kept ++ lost)) (hodd : SummaryLine.Odd odd)
    (hrest : ∀ raw ∈ rest.head?, (SummaryLine.ofText raw).isEntry = false)
    (hwhole : Text.lines whole = before ++ (heading :: (kept ++ lost) ++ rest))
    (hbroken : Text.lines broken = before ++ (heading :: kept ++ (odd :: lost ++ rest))) :
    ofText? broken = ofLines? (before ++ (heading :: kept ++ rest)) ∧
      ((SummaryState.read {} before).1.told lost = [] → ofText? broken = ofText? whole) := by
  have hcut : ofText? broken = ofLines? (before ++ (heading :: kept ++ rest)) := by
    rw [ofText?_eq, hbroken]
    exact ofLines?_congr (Alike.after _ (alike_odd hblock hodd hrest _))
  refine ⟨hcut, fun hsilent => ?_⟩
  rw [hcut, ofText?_eq, hwhole]
  refine ofLines?_congr (Alike.after _ ?_)
  rw [read_silent hblock hsilent]
  exact Alike.refl _

/-- The text of some lines, all of them closed. -/
def textOf (lines : List String) : String := String.join (lines.map (· ++ "\n"))

theorem lines_textOf {lines : List String}
    (h : ∀ l ∈ lines, '\n' ∉ l.toList ∧ l.toList.getLast? ≠ some '\r') :
    Text.lines (textOf lines) = lines :=
  Text.lines_join fun l hl => ⟨(h l hl).1, (h l hl).2⟩

theorem ofText?_textOf {lines : List String}
    (h : ∀ l ∈ lines, '\n' ∉ l.toList ∧ l.toList.getLast? ≠ some '\r') :
    ofText? (textOf lines) = ofLines? lines := by
  rw [ofText?_eq, lines_textOf h]

/-- A summary of a song: one block below the input, and one below the stream. -/
def songLines : List String :=
  ["Input #0, mp3, from 'a.mp3':", "  Metadata:", "    title           : One",
    "    artist          : Two", "  Duration: N/A", "  Stream #0:0: Audio: mp3",
    "    Metadata:", "      title           : Main", "      encoder         : Lavf"]

/-- The second line of a value. -/
def continuation : String := "                    : more"

theorem odd_continuation : SummaryLine.Odd continuation where
  indented := ⟨' ', rfl, rfl⟩
  no_duration := by decide +kernel
  no_stream := by decide +kernel
  no_heading := by decide +kernel
  no_entry := by decide +kernel

/-- A title of the stream in two lines. -/
theorem odd_line_law_song :
    ofText? (textOf (songLines.take 8 ++ continuation :: songLines.drop 8)) =
      ofText? (textOf songLines) := by
  have hwhole : Text.lines (textOf songLines) = songLines.take 6 ++
      ("    Metadata:" :: (["      title           : Main"] ++
        ["      encoder         : Lavf"]) ++ []) := by
    rw [lines_textOf (by decide +kernel)]
    rfl
  have hbroken : Text.lines (textOf (songLines.take 8 ++ continuation :: songLines.drop 8)) =
      songLines.take 6 ++ ("    Metadata:" :: ["      title           : Main"] ++
        (continuation :: ["      encoder         : Lavf"] ++ [])) := by
    rw [lines_textOf (by decide +kernel)]
    rfl
  have hblock : IsMetadata "    Metadata:"
      (["      title           : Main"] ++ ["      encoder         : Lavf"]) :=
    ⟨by decide +kernel, by decide +kernel⟩
  refine (odd_line_law hblock odd_continuation (by simp) hwhole hbroken).2 ?_
  -- the title is above the continuation, and below it there is none
  refine (told_eq_nil_iff (by decide +kernel) (by decide +kernel)).mpr (.inr (.inr ?_))
  refine ⟨.audio, by decide +kernel, fun raw hraw key value hentry => ?_⟩
  obtain rfl := List.mem_singleton.mp hraw
  have hencoder : SummaryLine.ofText "      encoder         : Lavf" = .entry "encoder" "Lavf" := by
    rfl
  obtain ⟨rfl, -⟩ := SummaryLine.entry.inj (hencoder.symm.trans hentry)
  decide

/-- **A title of the input in two lines costs the artist**, who is named below it. -/
theorem continued_title :
    (ofText? (textOf songLines)).map (·.descriptor.audioTracks.map (·.artist)) =
        some [some "Two"] ∧
      (ofText? (textOf (songLines.take 3 ++ continuation :: songLines.drop 3))).map
        (·.descriptor.audioTracks.map (·.artist)) = some [none] := by
  constructor
  · rw [ofText?_textOf (by decide +kernel)]
    decide +kernel
  · rw [ofText?_textOf (by decide +kernel)]
    decide +kernel

end StreamSummary

end MediaIndex
