import MediaIndex.Proofs.Number.Digits
import MediaIndex.Proofs.Report.Events
import MediaIndex.Proofs.Survey.Streams
import MediaIndex.Proofs.Text.Cuts

/-!
# Reports lose no stream

Both readers of reports have to find the streams in a text and to tell each of them to a survey. A
track list has an object for each, with its kind. In a summary the streams are the lines of a
certain shape, behind the first input line; between them stand metadata and remarks, and a cover
picture is no stream of the file although it stands on a line of its own.

> **`reports_lose_no_stream`**: whatever the text is, if it can be read then the tracks of the
> descriptor are the audio and the subtitle streams of the text, one for one and in order, its
> videos and images are counted, and the cover is the last one named.

For track lists this is the law for blocks. For summaries two things come before it: which lines
are stream lines does not depend on the order in which shapes are tried (`ofText_eq_line_iff`), and
what stands between the stream lines is silent (`silent_step`).
-/

set_option autoImplicit false

namespace MediaIndex

open Survey

theorem isFieldOf_fieldIfAny {kind : StreamKind} {name : FieldName} {value : Option String}
    {e : SurveyEvent} (h : e ∈ fieldIfAny kind name value) : e.IsFieldOf kind := by
  obtain ⟨v, -, rfl⟩ := Option.map_eq_some_iff.mp (Option.mem_toList.mp h)
  exact ⟨_, _, rfl⟩

/-! ## Track lists -/

namespace TrackList

/-- What is told of a track is one block. -/
theorem isBlock_kindEvents (kind : StreamKind) (track : Track) :
    IsBlock kind (kindEvents kind track) := by
  have hfield : ∀ {e name value}, e ∈ fieldEvent kind name value → e.IsFieldOf kind := by
    intro e name value he
    obtain ⟨v, -, rfl⟩ := mem_fieldEvent he
    exact ⟨_, _, rfl⟩
  refine ⟨_, kindEvents_eq kind track, fun e he => ?_⟩
  simp only [laterEvents, List.mem_append, List.mem_flatMap] at he
  rcases he with (he | he) | he | he | ⟨m, -, he⟩ | he | ⟨m, -, he⟩ | he
  · exact isFieldOf_fieldIfAny he
  · exact isFieldOf_fieldIfAny he
  all_goals exact hfield he

theorem blocks_trackEvents : Blocks kind? trackEvents where
  block := by
    intro track kind h
    rw [trackEvents, h]
    exact isBlock_kindEvents kind track
  silent := by
    intro track h
    rw [trackEvents, h]

end TrackList

/-! ## Shapes of lines -/

namespace SummaryLine

open Scan

variable {cs rest : List Char} {line : SummaryLine}

theorem eq_append_of_after? {lead : String} (h : after? lead cs = some rest) :
    cs = lead.toList ++ rest := by
  unfold after? at h
  split at h
  · rename_i hlead
    obtain ⟨tail, rfl⟩ := List.isPrefixOf_iff_prefix.mp hlead
    rw [← Option.some.inj h, List.drop_left]
  · exact absurd h (by simp)

theorem run?_spec {p : Char → Bool} {found : List Char} (h : run? p cs = some (found, rest)) :
    found ≠ [] ∧ ∀ c ∈ found, p c = true := by
  unfold run? at h
  split at h
  · exact absurd h (by simp)
  · rename_i hne
    obtain ⟨rfl, -⟩ := Prod.mk.inj (Option.some.inj h)
    exact ⟨hne, fun c hc => List.all_eq_true.mp List.all_takeWhile c hc⟩

theorem shape_of_input? (h : input? cs = some line) :
    (∃ rest, cs = "Input #".toList ++ rest) ∧ ∃ format, line = .input format := by
  simp only [input?, bind, Option.bind_eq_some_iff] at h
  obtain ⟨_, hlead, _, -, _, -, name, -, hline⟩ := h
  split at hline
  · exact ⟨⟨_, eq_append_of_after? hlead⟩, _, (Option.some.inj hline).symm⟩
  · exact absurd hline (by simp)

theorem shape_of_duration? (h : duration? cs = some line) :
    (∃ rest, cs.dropWhile Text.isBlank = "Duration: ".toList ++ rest) ∧
      ∃ length bitrate, line = .duration length bitrate := by
  simp only [duration?, bind, Option.bind_eq_some_iff] at h
  obtain ⟨_, hlead, _, -, hline⟩ := h
  exact ⟨⟨_, eq_append_of_after? hlead⟩, _, _, (Option.some.inj hline).symm⟩

theorem shape_of_stream? (h : stream? cs = some line) :
    (∃ rest, cs.dropWhile Text.isBlank = "Stream #".toList ++ rest) ∧
      ∃ index language type rest, line = .stream index language type rest := by
  simp only [stream?, bind, Option.bind_eq_some_iff] at h
  obtain ⟨_, hlead, _, -, _, -, _, -, _, -, hword⟩ := h
  obtain ⟨word, -, hword⟩ := List.exists_of_findSome?_eq_some hword
  obtain ⟨_, -, hline⟩ := Option.map_eq_some_iff.mp hword
  exact ⟨⟨_, eq_append_of_after? hlead⟩, _, _, _, _, hline.symm⟩

/-- The index of a stream line is a number, in digits of any script. -/
theorem digits_of_stream? {index : String} {language : Option String} {type : SummaryStream}
    (h : stream? cs = some (.stream index language type rest)) :
    index.toList ≠ [] ∧ ∀ c ∈ index.toList, isDigit c = true := by
  simp only [stream?, bind, Option.bind_eq_some_iff] at h
  obtain ⟨_, -, _, -, _, -, ⟨digits, tail⟩, hrun, _, -, hword⟩ := h
  obtain ⟨word, -, hword⟩ := List.exists_of_findSome?_eq_some hword
  obtain ⟨_, -, hline⟩ := Option.map_eq_some_iff.mp hword
  obtain ⟨rfl, -, -, -⟩ := SummaryLine.stream.inj hline
  rw [String.toList_ofList]
  exact run?_spec hrun

theorem shape_of_entry? (h : entry? cs = some line) : ∃ key value, line = .entry key value := by
  simp only [bind, Option.bind_eq_some_iff, entry?] at h
  obtain ⟨_, -, h⟩ := h
  split at h
  · split at h
    · obtain ⟨value, -, hline⟩ := Option.bind_eq_some_iff.mp h
      exact ⟨_, _, (Option.some.inj hline).symm⟩
    · exact absurd h (by simp)
  · exact absurd h (by simp)

/-- **The shapes of lines exclude each other**: a stream line is neither an input line nor a
duration line. -/
theorem stream?_alone (h : stream? cs = some line) : input? cs = none ∧ duration? cs = none := by
  -- an input line begins without blanks, a duration line with another word
  obtain ⟨⟨tail, hlead⟩, -⟩ := shape_of_stream? h
  constructor
  · cases hinput : input? cs with
    | none => rfl
    | some found =>
      obtain ⟨⟨tail', rfl⟩, -⟩ := shape_of_input? hinput
      exact absurd hlead (by simp [Text.isBlank])
  · cases hduration : duration? cs with
    | none => rfl
    | some found =>
      obtain ⟨⟨tail', hlead'⟩, -⟩ := shape_of_duration? hduration
      exact absurd (hlead.symm.trans hlead') (by simp)

/-- How a line is read: as what the recogniser of some shape makes of it, or without one. -/
inductive Shaped (raw : String) : SummaryLine → Prop where
  | input {format : String} (found : input? raw.toList = some (.input format)) :
    Shaped raw (.input format)
  | duration {length : String} {bitrate : Option String}
    (found : duration? raw.toList = some (.duration length bitrate)) :
    Shaped raw (.duration length bitrate)
  | stream {index : String} {language : Option String} {type : SummaryStream} {rest : List Char}
    (found : stream? raw.toList = some (.stream index language type rest)) :
    Shaped raw (.stream index language type rest)
  | entry {key value : String} (found : entry? raw.toList = some (.entry key value)) :
    Shaped raw (.entry key value)
  | metadataHeading : Shaped raw .metadataHeading
  | other : Shaped raw .other

/-- The shapes are tried in turn, and the first that fits is taken. -/
theorem shaped_ofText (raw : String) : Shaped raw (ofText raw) := by
  simp only [ofText]
  cases hinput : input? raw.toList with
  | some found =>
    obtain ⟨-, format, rfl⟩ := shape_of_input? hinput
    exact .input hinput
  | none =>
    cases hduration : duration? raw.toList with
    | some found =>
      obtain ⟨-, length, bitrate, rfl⟩ := shape_of_duration? hduration
      exact .duration hduration
    | none =>
      cases hstream : stream? raw.toList with
      | some found =>
        obtain ⟨-, index, language, type, rest, rfl⟩ := shape_of_stream? hstream
        exact .stream hstream
      | none =>
        simp only [Option.none_or]
        split
        · exact .metadataHeading
        · cases hentry : entry? raw.toList with
          | some found =>
            obtain ⟨key, value, rfl⟩ := shape_of_entry? hentry
            exact .entry hentry
          | none => exact .other

/-- Whether an input begins with a line. -/
def isInput (raw : String) : Bool := (input? raw.toList).isSome

theorem isInput_iff {raw : String} : isInput raw = true ↔ ∃ format, ofText raw = .input format := by
  constructor
  · intro h
    obtain ⟨found, hfound⟩ := Option.isSome_iff_exists.mp h
    obtain ⟨-, format, rfl⟩ := shape_of_input? hfound
    exact ⟨format, by simp only [ofText, hfound, Option.some_or, Option.getD_some]⟩
  · rintro ⟨format, h⟩
    have hshaped := shaped_ofText raw
    rw [h] at hshaped
    cases hshaped with
    | input hfound =>
      rw [isInput, hfound]
      rfl

end SummaryLine

/-! ## Stream lines -/

/-- A stream line of a summary. -/
structure StreamLine where
  index : String
  language : Option String
  type : SummaryStream
  rest : List Char

namespace StreamLine

variable {l : StreamLine} {raw : String} {kind : StreamKind} {e : SurveyEvent}

/-- The stream line that a line is, by its shape alone. -/
def ofText? (raw : String) : Option StreamLine :=
  match SummaryLine.stream? raw.toList with
  | some (.stream index language type rest) => some ⟨index, language, type, rest⟩
  | _ => none

/-- A stream line as one of the lines of a summary. -/
def line (l : StreamLine) : SummaryLine := .stream l.index l.language l.type l.rest

theorem ofText?_eq_some_iff :
    ofText? raw = some l ↔ SummaryLine.stream? raw.toList = some l.line := by
  unfold ofText?
  cases hstream : SummaryLine.stream? raw.toList with
  | none => simp
  | some found =>
    obtain ⟨-, index, language, type, rest, rfl⟩ := SummaryLine.shape_of_stream? hstream
    obtain ⟨index', language', type', rest'⟩ := l
    simp [line]

/-- **A line is taken for a stream line if it has the shape of one**, in whatever order the shapes
are tried. -/
theorem ofText_eq_line_iff : SummaryLine.ofText raw = l.line ↔ ofText? raw = some l := by
  rw [ofText?_eq_some_iff]
  constructor
  · intro h
    have hshaped := SummaryLine.shaped_ofText raw
    rw [h] at hshaped
    cases hshaped with
    | stream hfound => exact hfound
  · intro h
    obtain ⟨hinput, hduration⟩ := SummaryLine.stream?_alone h
    simp only [SummaryLine.ofText, hinput, hduration, h, Option.none_or, Option.some_or,
      Option.getD_some]

theorem ofText?_eq_none_iff :
    ofText? raw = none ↔ ∀ l : StreamLine, SummaryLine.ofText raw ≠ l.line := by
  simp only [ne_eq, ofText_eq_line_iff, Option.eq_none_iff_forall_ne_some]

/-- Whether a stream line names a cover picture. -/
def isCover (l : StreamLine) : Bool :=
  l.type == .video && Text.occursIn "(attached pic)".toList l.rest

/-- The kind of stream that a line is about, if it is a stream of the file. -/
def kind? (l : StreamLine) : Option StreamKind :=
  match l.type with
  | .video => if l.isCover then none else some .video
  | .audio => some .audio
  | .subtitle => some .text
  | .data | .attachment => none

/-- What a stream line tells. -/
def events (l : StreamLine) : List SurveyEvent :=
  (SummaryState.streamStep {} l.index l.language l.type l.rest).2

theorem isFieldOf_codecEvents {part : String} (h : e ∈ codecEvents kind part) :
    e.IsFieldOf kind := by
  rcases List.mem_cons.mp h with rfl | h
  · exact ⟨_, _, rfl⟩
  · exact isFieldOf_fieldIfAny h

theorem isBlock_videoEvents (parts : List String) (language : Option String) :
    IsBlock .video (videoEvents parts ++ (language.map (reported .video .language)).toList) := by
  refine ⟨_, videoEvents_eq parts language, fun e he => ?_⟩
  simp only [laterVideoEvents, List.mem_append, List.mem_flatMap] at he
  rcases he with (he | he) | he | ⟨part, -, he⟩ | he
  · exact isFieldOf_fieldIfAny he
  · exact isFieldOf_fieldIfAny he
  · exact isFieldOf_fieldIfAny he
  · obtain ⟨name, value, rfl, -⟩ := mem_videoPartEvents he
    exact ⟨_, _, rfl⟩
  · exact isFieldOf_fieldIfAny he

theorem isBlock_audioEvents (parts : List String) (language : Option String) :
    IsBlock .audio (audioEvents parts ++ (language.map (reported .audio .language)).toList) := by
  refine ⟨codecEvents .audio (parts.headD "") ++
    (((plainSampleDepth? (codecWord (parts.headD ""))).map (reported .audio .bitDepth)).toList ++
    (audioPartEvents false parts.tail ++ (language.map (reported .audio .language)).toList)),
    by simp only [audioEvents, List.cons_append, List.append_assoc], fun e he => ?_⟩
  simp only [List.mem_append] at he
  rcases he with he | he | he | he
  · exact isFieldOf_codecEvents he
  · exact isFieldOf_fieldIfAny he
  · exact mem_audioPartEvents he
  · exact isFieldOf_fieldIfAny he

theorem isBlock_subtitleEvents (parts : List String) (rest : List Char)
    (language : Option String) :
    IsBlock .text (subtitleEvents parts rest ++
      (language.map (reported .text .language)).toList) := by
  refine ⟨reported .text .format (codecWord (parts.headD "")) ::
    ((if Text.occursIn "(forced)".toList rest then [reported .text .forced "yes"] else []) ++
    ((if Text.occursIn "(default)".toList rest then [reported .text .default "yes"] else []) ++
    (language.map (reported .text .language)).toList)),
    by simp only [subtitleEvents, List.cons_append, List.nil_append, List.append_assoc],
    fun e he => ?_⟩
  simp only [List.mem_cons, List.mem_append] at he
  rcases he with rfl | he | he | he
  · exact ⟨_, _, rfl⟩
  · split at he
    · exact ⟨_, _, List.mem_singleton.mp he⟩
    · exact absurd he (by simp)
  · split at he
    · exact ⟨_, _, List.mem_singleton.mp he⟩
    · exact absurd he (by simp)
  · exact isFieldOf_fieldIfAny he

section

variable {index : String} {language : Option String} {rest : List Char}

theorem kind?_of_cover (h : Text.occursIn "(attached pic)".toList rest = true) :
    kind? ⟨index, language, .video, rest⟩ = none := by
  simp only [kind?, isCover, beq_self_eq_true, Bool.true_and, h, if_true]

theorem kind?_of_video (h : Text.occursIn "(attached pic)".toList rest = false) :
    kind? ⟨index, language, .video, rest⟩ = some .video := by
  simp only [kind?, isCover, beq_self_eq_true, Bool.true_and, h, Bool.false_eq_true, if_false]

end

/-- **A stream line tells one block**, and one that is about no stream of the file tells nothing. -/
theorem blocks_events : Blocks kind? events where
  block := by
    intro l kind h
    obtain ⟨index, language, type, rest⟩ := l
    cases type with
    | video =>
      cases hcover : Text.occursIn "(attached pic)".toList rest with
      | true => exact absurd ((kind?_of_cover hcover).symm.trans h) (by simp)
      | false =>
        obtain rfl : .video = kind := Option.some.inj ((kind?_of_video hcover).symm.trans h)
        simp only [events, SummaryState.streamStep, hcover, Bool.false_eq_true, if_false]
        exact isBlock_videoEvents _ _
    | audio =>
      obtain rfl : .audio = kind := Option.some.inj h
      exact isBlock_audioEvents _ _
    | subtitle =>
      obtain rfl : .text = kind := Option.some.inj h
      exact isBlock_subtitleEvents _ _ _
    | data | attachment => exact absurd h (by simp [kind?])
  silent := by
    intro l h
    obtain ⟨index, language, type, rest⟩ := l
    cases type with
    | video =>
      cases hcover : Text.occursIn "(attached pic)".toList rest with
      | true => simp only [events, SummaryState.streamStep, hcover, if_true]
      | false => exact absurd ((kind?_of_video hcover).symm.trans h) (by simp)
    | data | attachment => rfl
    | audio | subtitle => exact absurd h (by simp [kind?])

/-- The number of the stream that a line is about, if it is one of 32 bits. -/
def number? (l : StreamLine) : Option UInt32 :=
  (Number.readNat? Quantity.limit l.index).map UInt32.ofNat

/-- **The index of a stream line is its number** if it is written in ASCII digits and fits. -/
theorem number?_eq_some_iff (h : ofText? raw = some l) {n : UInt32} :
    l.number? = some n ↔
      l.index.toList.all Number.isAsciiDigit = true ∧
        Number.digitsValue l.index.toList = n.toNat := by
  obtain ⟨hne, hdigits⟩ := SummaryLine.digits_of_stream? (ofText?_eq_some_iff.mp h)
  have hplus : '+' ∉ l.index.toList := fun h => absurd (hdigits '+' h) (by decide)
  rw [number?, Number.readNat?_unsigned hne hplus]
  constructor
  · intro hn
    obtain ⟨m, hm, rfl⟩ := Option.map_eq_some_iff.mp hn
    split at hm
    · rename_i hfits
      obtain rfl := Option.some.inj hm
      exact ⟨hfits.1, (UInt32.toNat_ofNat_of_lt' (Nat.lt_succ_of_le hfits.2)).symm⟩
    · exact absurd hm (by simp)
  · rintro ⟨hall, hvalue⟩
    have hfits : Number.digitsValue l.index.toList ≤ Quantity.limit :=
      Nat.le_of_lt_succ (hvalue ▸ n.toNat_lt)
    rw [if_pos ⟨hall, hfits⟩, Option.map_some, hvalue, UInt32.ofNat_toNat]

end StreamLine

/-! ## Line by line -/

namespace SummaryState

variable {st : SummaryState} {l : StreamLine} {line : SummaryLine}

/-- The cover after a stream line. -/
def coverAfter (cover : Option UInt32) (l : StreamLine) : Option UInt32 :=
  if l.isCover then l.number? else cover

/-- What a stream line tells does not depend on the lines before it. -/
theorem step_streamLine (hseen : st.seenInput = true) (l : StreamLine) :
    (st.step l.line).2 = l.events ∧ (st.step l.line).1.seenInput = true ∧
      (st.step l.line).1.cover = coverAfter st.cover l := by
  obtain ⟨index, language, type, rest⟩ := l
  obtain ⟨scope, inMetadata, seenInput, cover⟩ := st
  obtain rfl : seenInput = true := hseen
  simp only [StreamLine.line, step, Bool.not_true, Bool.false_eq_true, if_false,
    StreamLine.events, coverAfter, StreamLine.isCover, StreamLine.number?]
  cases type with
  | video =>
    by_cases hcover : Text.occursIn "(attached pic)".toList rest = true
    · simp only [streamStep, hcover, if_true, beq_self_eq_true, Bool.true_and, and_self]
    · simp only [streamStep, hcover, if_false, Bool.false_eq_true, Bool.and_false, and_self]
  | audio | subtitle | data | attachment => simp [streamStep]

theorem silent_reported_general (name : FieldName) (value : String) :
    Silent (reported .general name value) := silent_general name value

theorem silent_entryEvents (st : SummaryState) (key value : String) :
    ∀ e ∈ st.entryEvents key value, Silent e := by
  intro e he
  unfold entryEvents at he
  split at he
  · obtain rfl := List.mem_singleton.mp he
    exact silent_reported_general _ _
  · split at he
    · obtain rfl := List.mem_singleton.mp he
      exact silent_title _ _
    · exact absurd he (by simp)
  · exact absurd he (by simp)

/-- **What stands between the stream lines is silent.** It names no cover either. -/
theorem silent_step (h : ∀ l : StreamLine, line ≠ l.line) (st : SummaryState) :
    (∀ e ∈ (st.step line).2, Silent e) ∧ (st.step line).1.cover = st.cover ∧
      (st.seenInput = true → (st.step line).1.seenInput = true) := by
  obtain ⟨scope, inMetadata, seenInput, cover⟩ := st
  cases line with
  | input format =>
    refine ⟨fun e he => ?_, rfl, fun _ => rfl⟩
    rcases List.mem_cons.mp he with rfl | he
    · exact silent_begin_general
    · obtain rfl := List.mem_singleton.mp he
      exact silent_reported_general _ _
  | stream index language type rest => exact absurd rfl (h ⟨index, language, type, rest⟩)
  | duration length bitrate =>
    cases seenInput with
    | false => exact ⟨fun e he => absurd he (by simp [step]), rfl, id⟩
    | true =>
      refine ⟨fun e he => ?_, rfl, fun _ => rfl⟩
      rcases List.mem_cons.mp he with rfl | he
      · exact silent_reported_general _ _
      · obtain ⟨rate, -, rfl⟩ := Option.map_eq_some_iff.mp (Option.mem_toList.mp he)
        exact silent_reported_general _ _
  | entry key value =>
    cases seenInput with
    | false => exact ⟨fun e he => absurd he (by simp [step]), rfl, id⟩
    | true =>
      refine ⟨fun e he => ?_, rfl, fun _ => rfl⟩
      cases inMetadata with
      | false => exact absurd he (by simp [step])
      | true => exact silent_entryEvents _ key value e he
  | metadataHeading | other =>
    cases seenInput <;> exact ⟨fun e he => absurd he (by simp [step]), rfl, fun h => h⟩

/-- **What a run of lines tells**, once an input has begun: the streams of its stream lines, and the
last cover that they name. -/
theorem heard_lines (hseen : st.seenInput = true) (lines : List String) (s : Survey) :
    let done := st.run (lines.map SummaryLine.ofText)
    let streams := lines.filterMap StreamLine.ofText?
    (s.run done.2).heard = s.heard ++ .concat (streams.map fun l => told l.events) ∧
      done.1.cover = streams.foldl coverAfter st.cover := by
  -- no line ends an input, so the lines that follow are read like this one
  induction lines generalizing st s with
  | nil => exact ⟨(Streams.append_empty _).symm, rfl⟩
  | cons raw rest ih =>
    simp only [List.map_cons, run, run_append]
    cases hline : StreamLine.ofText? raw with
    | some l =>
      rw [StreamLine.ofText_eq_line_iff.mpr hline, List.filterMap_cons_some hline]
      obtain ⟨hevents, hseen', hcover⟩ := step_streamLine hseen l
      obtain ⟨hheard, hlast⟩ := ih hseen' (s.run (st.step l.line).2)
      constructor
      · rw [hheard, hevents, StreamLine.blocks_events.adds, Streams.append_assoc]
        rfl
      · rw [hlast, hcover]
        rfl
    | none =>
      have hother := StreamLine.ofText?_eq_none_iff.mp hline
      rw [List.filterMap_cons_none hline]
      obtain ⟨hsilent, hcover, hseen'⟩ := silent_step hother st
      obtain ⟨hheard, hlast⟩ := ih (hseen' hseen) (s.run (st.step (.ofText raw)).2)
      constructor
      · rw [hheard, heard_run_silent hsilent]
      · rw [hlast, hcover]

/-- Of several covers the last one named counts. -/
theorem foldl_coverAfter (cover : Option UInt32) (streams : List StreamLine) :
    streams.foldl coverAfter cover =
      match (streams.filter (·.isCover)).getLast? with
      | some l => l.number?
      | none => cover := by
  induction streams using List.reverseRecOn with
  | nil => rfl
  | append_singleton streams l ih =>
    rw [List.foldl_append, List.foldl_cons, List.foldl_nil, coverAfter, List.filter_append]
    cases hcover : l.isCover with
    | true => simp [hcover]
    | false => simp [hcover, ih]

/-- Before the first input line nothing counts. -/
theorem step_before_input (h : ∀ format, line ≠ .input format) : step {} line = ({}, []) := by
  cases line with
  | input format => exact absurd rfl (h format)
  | _ => rfl

end SummaryState

namespace StreamSummary

/-- The stream lines that count: those behind the first input line. -/
def streamLines (lines : List String) : List StreamLine :=
  (lines.dropWhile fun raw => !SummaryLine.isInput raw).filterMap StreamLine.ofText?

variable {raw : String} {rest : List String}

theorem streamLines_before (h : SummaryLine.isInput raw = false) :
    streamLines (raw :: rest) = streamLines rest := by
  simp only [streamLines, List.dropWhile_cons, h, Bool.not_false, if_true]

/-- The line that an input begins with is no stream line, and all behind it count. -/
theorem streamLines_input (h : SummaryLine.isInput raw = true) :
    (∀ l : StreamLine, SummaryLine.ofText raw ≠ l.line) ∧
      streamLines (raw :: rest) = rest.filterMap StreamLine.ofText? := by
  obtain ⟨format, hline⟩ := SummaryLine.isInput_iff.mp h
  have hother : ∀ l : StreamLine, SummaryLine.ofText raw ≠ l.line := by
    intro l
    rw [hline]
    simp [StreamLine.line]
  refine ⟨hother, ?_⟩
  simp only [streamLines, List.dropWhile_cons, h, Bool.not_true, Bool.false_eq_true, if_false,
    List.filterMap_cons, StreamLine.ofText?_eq_none_iff.mpr hother]

/-- **What a summary tells are its stream lines.** -/
theorem told_lines (lines : List String) :
    let done := SummaryState.run {} (lines.map SummaryLine.ofText)
    told done.2 = .concat ((streamLines lines).map fun l => told l.events) ∧
      done.1.cover = (streamLines lines).foldl SummaryState.coverAfter none := by
  -- up to the first input line the state stays as it was at the start
  induction lines with
  | nil => exact ⟨rfl, rfl⟩
  | cons raw rest ih =>
    cases hinput : SummaryLine.isInput raw with
    | true =>
      obtain ⟨hother, hstreams⟩ := @streamLines_input raw rest hinput
      obtain ⟨hsilent, hcover, -⟩ := SummaryState.silent_step hother {}
      have hseen : (SummaryState.step {} (.ofText raw)).1.seenInput = true := by
        obtain ⟨format, hline⟩ := SummaryLine.isInput_iff.mp hinput
        rw [hline]
        rfl
      obtain ⟨hheard, hlast⟩ := SummaryState.heard_lines hseen rest
        (start.run (SummaryState.step {} (.ofText raw)).2)
      rw [hstreams]
      simp only [List.map_cons, SummaryState.run, told, run_append]
      constructor
      · rw [hheard, heard_run_silent hsilent, heard_start, Streams.empty_append]
        rfl
      · rw [hlast, hcover]
    | false =>
      have hbefore := SummaryState.step_before_input
        fun format (hline : SummaryLine.ofText raw = .input format) => by
          rw [SummaryLine.isInput_iff.mpr ⟨format, hline⟩] at hinput
          exact absurd hinput (by simp)
      rw [streamLines_before hinput]
      simp only [List.map_cons, SummaryState.run, hbefore]
      exact ih

variable {text : String} {summary : StreamSummary}

theorem of_ofText? (h : ofText? text = some summary) :
    let done := SummaryState.run {} ((Text.lines text).map SummaryLine.ofText)
    summary = ⟨(start.run done.2).finish, done.1.cover⟩ := by
  unfold ofText? at h
  dsimp only at h
  split at h
  · exact (Option.some.inj h).symm
  · exact absurd h (by simp)

/-- The descriptor of a summary accounts for its stream lines. -/
theorem accounts_ofText? (h : ofText? text = some summary)
    (hfew : Numerable StreamLine.kind? (streamLines (Text.lines text))) :
    Accounts StreamLine.kind? StreamLine.events (streamLines (Text.lines text))
      summary.descriptor := by
  rw [of_ofText? h]
  exact accounts_of_heard StreamLine.blocks_events (told_lines (Text.lines text)).1 hfew

/-- The cover of a summary is the last that its stream lines name, by its number. -/
theorem cover_ofText? (h : ofText? text = some summary) (n : UInt32) :
    summary.cover = some n ↔
      ∃ l, ((streamLines (Text.lines text)).filter (·.isCover)).getLast? = some l ∧
        l.index.toList.all Number.isAsciiDigit = true ∧
        Number.digitsValue l.index.toList = n.toNat := by
  have hcover : summary.cover =
      (streamLines (Text.lines text)).foldl SummaryState.coverAfter none := by
    rw [of_ofText? h]
    exact (told_lines (Text.lines text)).2
  rw [hcover, SummaryState.foldl_coverAfter]
  cases hlast : ((streamLines (Text.lines text)).filter (·.isCover)).getLast? with
  | none => simp
  | some l =>
    have hmem := List.mem_of_mem_filter (List.mem_of_getLast? hlast)
    obtain ⟨raw, -, hraw⟩ := List.mem_filterMap.mp hmem
    simp [StreamLine.number?_eq_some_iff hraw]

end StreamSummary

/-! ## Reports of both kinds -/

/-- **Reports lose no stream and invent none**, as long as the streams can be numbered.

Whatever the text of a summary is, if it can be read then its descriptor accounts for the stream
lines behind the first input line: the lines of type audio are its audio tracks, those of type
subtitle its subtitle tracks, and those of type video its videos, unless they name a cover. The
cover is the index of the last line that does, as far as that is a number of 32 bits.

Whatever a track list is, if it can be read then its descriptor accounts for the objects of the
kinds audio, text, video and image, and the objects of no known kind could as well be missing. -/
theorem reports_lose_no_stream :
    (∀ text summary, StreamSummary.ofText? text = some summary →
      let lines := StreamSummary.streamLines (Text.lines text)
      (Numerable StreamLine.kind? lines →
        Accounts StreamLine.kind? StreamLine.events lines summary.descriptor) ∧
      ∀ n, summary.cover = some n ↔ ∃ l, (lines.filter (·.isCover)).getLast? = some l ∧
        l.index.toList.all Number.isAsciiDigit = true ∧
        Number.digitsValue l.index.toList = n.toNat) ∧
    (∀ text d, TrackList.describe? text = some d →
      ∃ tracks, TrackList.ofText? text = some tracks ∧
        (Numerable TrackList.kind? tracks →
          Accounts TrackList.kind? TrackList.trackEvents tracks d) ∧
        d = (start.run (TrackList.events
          (tracks.filter fun track => (TrackList.kind? track).isSome))).finish) := by
  refine ⟨fun text summary h => ⟨StreamSummary.accounts_ofText? h, StreamSummary.cover_ofText? h⟩,
    fun text d h => ?_⟩
  obtain ⟨tracks, htracks, rfl⟩ := Option.map_eq_some_iff.mp h
  refine ⟨tracks, htracks, fun hfew => ?_, ?_⟩
  · exact accounts_of_heard TrackList.blocks_trackEvents
      (TrackList.blocks_trackEvents.told_flatMap tracks) hfew
  · have hfilter : TrackList.events
        (tracks.filter fun track => (TrackList.kind? track).isSome) = TrackList.events tracks :=
      TrackList.blocks_trackEvents.flatMap_filter tracks
    rw [hfilter]

/-- A summary of a concert: a stream line that comes before the input, a title that looks like one,
two sound tracks and two covers. -/
def concertLines : List String :=
  ["Stream #0:9: Audio: mp3", "Input #0, matroska,webm, from 'a.mkv':", "  Metadata:",
    "    title : Stream #0:8: Audio", "  Stream #0:0: Video: h264",
    "  Stream #0:1(eng): Audio: aac, 48000 Hz, stereo", "  Stream #0:2: Audio: flac",
    "  Stream #0:3: Video: png (attached pic)", "  Stream #0:7: Video: mjpeg (attached pic)"]

/-- The text of these lines. -/
def concertSummary : String := String.join (concertLines.map (· ++ "\n"))

theorem lines_concertSummary : Text.lines concertSummary = concertLines := by
  have hplain : ∀ l ∈ concertLines, '\n' ∉ l.toList ∧ l.toList.getLast? ≠ some '\r' := by
    decide +kernel
  exact Text.lines_join fun l hl => ⟨(hplain l hl).1, (hplain l hl).2⟩

/-- The same concert as a track list, with a menu. -/
def concertList : String :=
  "\x7b\"media\":\x7b\"track\":[\x7b\"@type\":\"Video\"\x7d,\x7b\"@type\":\"Menu\"\x7d," ++
    "\x7b\"@type\":\"Audio\",\"Language\":\"eng\"\x7d,\x7b\"@type\":\"Audio\"\x7d]\x7d\x7d"

theorem reports_lose_no_stream_concert :
    (∃ summary, StreamSummary.ofText? concertSummary = some summary ∧
      summary.descriptor.audioTracks.length = 2 ∧
      summary.descriptor.videoTrackCount.toNat = 1 ∧ summary.cover = some 7) ∧
    ∃ d, TrackList.describe? concertList = some d ∧ d.audioTracks.length = 2 ∧
      d.videoTrackCount.toNat = 1 := by
  obtain ⟨hsummaries, hlists⟩ := reports_lose_no_stream
  constructor
  · have hinput :
        (SummaryState.run {} (concertLines.map SummaryLine.ofText)).1.seenInput = true := by
      decide +kernel
    have hkinds : (StreamSummary.streamLines concertLines).map StreamLine.kind? =
        [some .video, some .audio, some .audio, none, none] := by decide +kernel
    have hlast : ((StreamSummary.streamLines concertLines).filter
        (·.isCover)).getLast?.any (·.index == "7") = true := by decide +kernel
    obtain ⟨summary, hsummary⟩ :
        ∃ summary, StreamSummary.ofText? concertSummary = some summary := by
      rw [StreamSummary.ofText?, lines_concertSummary]
      exact ⟨_, if_pos hinput⟩
    obtain ⟨haccounts, hcover⟩ := hsummaries concertSummary summary hsummary
    rw [lines_concertSummary] at haccounts hcover
    have hfew := numerable_iff.mpr fun kind (_ : kind ≠ .general) => by
      rw [hkinds]
      cases kind <;> decide
    have h := haccounts hfew
    obtain ⟨l, hl, hindex⟩ := (Option.any_eq_true _ _).mp hlast
    have hnumber : l.index = "7" := beq_iff_eq.mp hindex
    refine ⟨summary, hsummary, ?_, ?_, (hcover 7).mpr ⟨l, hl, ?_⟩⟩
    · rw [h.length_audioTracks, hkinds]
      decide
    · rw [h.toNat_videoTrackCount, hkinds]
      decide
    · rw [hnumber]
      decide
  · have hread : (TrackList.ofText? concertList).map (·.map TrackList.kind?) =
        some [some .video, none, some .audio, some .audio] := by decide +kernel
    obtain ⟨tracks, htracks, hkinds⟩ := Option.map_eq_some_iff.mp hread
    have hd : TrackList.describe? concertList =
        some (start.run (TrackList.events tracks)).finish := by
      rw [TrackList.describe?, htracks, Option.map_some]
    obtain ⟨tracks', htracks', haccounts, -⟩ := hlists concertList _ hd
    obtain rfl := Option.some.inj (htracks'.symm.trans htracks)
    have hfew := numerable_iff.mpr fun kind (_ : kind ≠ .general) => by
      rw [hkinds]
      cases kind <;> decide
    have h := haccounts hfew
    refine ⟨_, hd, ?_, ?_⟩
    · rw [h.length_audioTracks, hkinds]
      decide
    · rw [h.toNat_videoTrackCount, hkinds]
      decide

end MediaIndex
