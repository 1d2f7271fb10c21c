import MediaIndex.Probe.ToolProber
import MediaIndex.Proofs.Report.Blocks

/-!
# A grab disturbs nothing

A probe that reads a summary may go on and grab a picture, by a second call of the tool. The report
has been read by then, so whatever becomes of the grab, nothing but the thumbnail can be lost.

> **`grab_law`**: with and without grabs a probe fails the same way, or yields the same descriptor
> but for the thumbnail. It calls the tool once more at most, and only for a file that may have a
> picture; and there is a thumbnail exactly if that call wrote one.

That a probe without grabs yields no thumbnail at all is a fact about summaries: no line of them
tells of a picture (`SummaryState.isPicture_read`), and no field makes one
(`Survey.picture_setField`).
-/

set_option autoImplicit false

namespace MediaIndex

open Survey

/-! ## Fields make no picture -/

/-- Whether an event brings a picture. -/
def SurveyEvent.isPicture : SurveyEvent → Bool
  | .thumbnail _ => true
  | _ => false

namespace Survey

variable {s : Survey} {kind : StreamKind} {name : FieldName} {value : String}

/-- The picture of what was found so far. -/
def picture (s : Survey) : Option Thumbnail := s.found.thumbnail

theorem picture_describe {f : Descriptor → Descriptor} (h : ∀ d, (f d).thumbnail = d.thumbnail)
    (s : Survey) : (s.describe f).picture = s.picture := h s.found

theorem picture_describeVideo {f : Descriptor → Descriptor}
    (h : ∀ d, (f d).thumbnail = d.thumbnail) (s : Survey) :
    (s.describeVideo f).picture = s.picture :=
  view_describeVideo picture (picture_describe h s)

theorem picture_keepTag (s : Survey) (f : SongTags → SongTags) :
    (s.keepTag f).picture = s.picture := rfl

theorem picture_describeMeaning (s : Survey) (kind : StreamKind) (m : Meaning) :
    (s.describeMeaning kind m).picture = s.picture := by
  unfold describeMeaning describeFormat
  cases m with
  | format f =>
    cases kind with
    | video => exact picture_describeVideo (by simp) s
    | _ => rfl
  | subtitle f => rfl
  | profileLevel p => exact picture_describeVideo (by simp [setProfile]) s

theorem picture_classify (s : Survey) (kind : StreamKind) (value : String) :
    (s.classify kind value).picture = s.picture := by
  have hsettle (r : Recognition) : (s.settleToken kind r).picture = s.picture := by
    unfold settleToken
    split <;> rfl
  rw [classify_eq s kind value rfl]
  split
  · rfl
  · split
    · exact (picture_describeMeaning _ kind _).trans (hsettle _)
    · exact hsettle _

theorem picture_setVideoField (s : Survey) (name : FieldName) (value : String) :
    (s.setVideoField name value).picture = s.picture := by
  refine picture_describe (fun d => ?_) s
  cases name <;> rfl

theorem picture_setGeneralField (s : Survey) (name : FieldName) (value : String) :
    (s.setGeneralField name value).picture = s.picture := by
  unfold setGeneralField
  cases name with
  | overallBitrate | overallBitrateMode | bitrateMode | fileSize =>
    exact picture_describe (by simp) s
  | title | track | album | performer | genre | trackPosition | recordedDate =>
    exact picture_keepTag s _
  | _ => rfl

theorem picture_setField (s : Survey) (kind : StreamKind) (name : FieldName) (value : String) :
    (s.setField kind name value).picture = s.picture := by
  unfold setField
  cases name with
  | extra key => rfl
  | format | formatVersion | formatFeatures => exact picture_classify s kind value
  | formatProfile =>
    dsimp only
    split
    · exact picture_describeVideo (by simp [setProfile]) s
    · exact picture_classify s kind value
  | codecId =>
    dsimp only
    split
    · rfl
    · exact picture_classify s kind value
  | duration =>
    dsimp only
    split
    · exact picture_describe (by simp) s
    · rfl
  | bitrate =>
    cases kind with
    | video =>
      dsimp only
      split
      · exact picture_describe (by simp) s
      · rfl
    | general => exact picture_setGeneralField s _ value
    | _ => rfl
  | width | height =>
    cases kind with
    | video | image => exact picture_describeVideo (by simp) s
    | general => exact picture_setGeneralField s _ value
    | _ => rfl
  | _ =>
    cases kind with
    | video =>
      dsimp only
      split
      · exact picture_setVideoField s _ value
      · rfl
    | general => exact picture_setGeneralField s _ value
    | _ => rfl

theorem picture_step (s : Survey) {e : SurveyEvent} (h : e.isPicture = false) :
    (s.step e).picture = s.picture := by
  cases e with
  | begin kind => cases kind <;> rfl
  | field kind name value =>
    rw [step, field]
    cases Text.nonBlank? value with
    | none => rfl
    | some value => exact picture_setField s kind name value
  | thumbnail t => exact absurd h (by simp [SurveyEvent.isPicture])
  | size n => rfl

/-- **Where no event brings a picture, there is none in the end.** -/
theorem thumbnail_finish_run {events : List SurveyEvent}
    (h : ∀ e ∈ events, e.isPicture = false) : (start.run events).finish.thumbnail = none := by
  have hrun : ∀ (events : List SurveyEvent) (s : Survey), (∀ e ∈ events, e.isPicture = false) →
      (s.run events).picture = s.picture := by
    intro events
    induction events with
    | nil => exact fun s _ => rfl
    | cons e rest ih =>
      intro s h
      obtain ⟨he, hrest⟩ := List.forall_mem_cons.mp h
      exact (ih (s.step e) hrest).trans (picture_step s he)
  rw [finish_eq]
  exact hrun events start h

end Survey

/-! ## Summaries tell of no picture -/

namespace SummaryState

theorem isPicture_streamLine (l : StreamLine) : ∀ e ∈ l.events, e.isPicture = false := by
  cases hkind : l.kind? with
  | none => simp [StreamLine.blocks_events.silent hkind]
  | some kind =>
    obtain ⟨fields, hevents, hfields⟩ := StreamLine.blocks_events.block hkind
    rw [hevents]
    refine List.forall_mem_cons.mpr ⟨rfl, fun e he => ?_⟩
    obtain ⟨name, value, rfl⟩ := hfields e he
    rfl

theorem isPicture_entryEvents (st : SummaryState) (key value : String) :
    ∀ e ∈ st.entryEvents key value, e.isPicture = false := by
  unfold entryEvents
  split
  · simp [reported, SurveyEvent.isPicture]
  · split <;> simp [reported, SurveyEvent.isPicture]
  · simp

theorem isPicture_step (st : SummaryState) (line : SummaryLine) :
    ∀ e ∈ (st.step line).2, e.isPicture = false := by
  by_cases hinput : ∃ format, line = .input format
  · obtain ⟨format, rfl⟩ := hinput
    simp [step, reported, SurveyEvent.isPicture]
  have hother : ∀ format, line ≠ .input format := fun format h => hinput ⟨format, h⟩
  cases hseen : st.seenInput with
  | false => simp [step_unseen hseen hother]
  | true =>
    cases line with
    | input format => exact absurd rfl (hother format)
    | stream index language type rest =>
      rw [show SummaryLine.stream index language type rest =
        StreamLine.line ⟨index, language, type, rest⟩ from rfl, (step_streamLine hseen _).1]
      exact isPicture_streamLine _
    | duration length bitrate =>
      cases bitrate <;> simp [step, hseen, reported, SurveyEvent.isPicture]
    | entry key value =>
      rw [step_entry hseen rfl]
      dsimp only
      split
      · exact isPicture_entryEvents st key value
      · simp
    | metadataHeading | other => simp [step, hseen]

/-- **No line of a summary brings a picture.** -/
theorem isPicture_read (st : SummaryState) (lines : List String) :
    ∀ e ∈ (st.read lines).2, e.isPicture = false := by
  induction lines generalizing st with
  | nil => simp [read, run]
  | cons raw lines ih =>
    rw [read_cons]
    exact List.forall_mem_append.mpr ⟨isPicture_step st _, ih _⟩

end SummaryState

namespace StreamSummary

variable {text : String} {s : StreamSummary}

theorem thumbnail_ofText? (h : ofText? text = some s) : s.descriptor.thumbnail = none := by
  rw [of_ofText? h]
  exact thumbnail_finish_run (SummaryState.isPicture_read {} (Text.lines text))

end StreamSummary

/-! ## Dialogues -/

namespace ToolDialogue

variable {α β : Type}

/-- **What comes after a dialogue** is played with the outcomes that are left. -/
theorem play_bind (d : ToolDialogue α) (next : α → ToolDialogue β) (outcomes : List ToolOutcome) :
    (d.bind next).play outcomes =
      let first := d.play outcomes
      let second := (next first.1).play (outcomes.drop first.2.length)
      (second.1, first.2 ++ second.2) := by
  induction d generalizing outcomes with
  | done answer => rfl
  | ask call continuation ih =>
    simp only [bind, play, ih, List.length_cons, List.cons_append, List.drop_tail]

end ToolDialogue

/-! ## Grabs -/

namespace FrameSource

theorem thumbnail?_eq_some_iff {outcome : ToolOutcome} {t : Thumbnail} :
    thumbnail? outcome = some t ↔
      ∃ o, outcome = .ended o ∧ o.code = some 0 ∧ o.output.isEmpty = false ∧
        t = ⟨o.output, "image/jpeg", none, none⟩ := by
  cases outcome with
  | ended o =>
    have hcontent : (o.isSuccess && !o.output.isEmpty) = true ↔
        o.code = some 0 ∧ o.output.isEmpty = false := by
      simp [ToolOutput.isSuccess]
    simp only [thumbnail?, hcontent]
    constructor
    · intro h
      split at h
      · rename_i hsuccess
        exact ⟨o, rfl, hsuccess.1, hsuccess.2, (Option.some.inj h).symm⟩
      · exact absurd h (by simp)
    · rintro ⟨o', ho, hcode, houtput, rfl⟩
      obtain rfl := ToolOutcome.ended.inj ho
      rw [if_pos ⟨hcode, houtput⟩]
  | _ => simp [thumbnail?]

end FrameSource

namespace StreamSummary

variable {path : Path} {size : Option UInt64} {s : StreamSummary}

theorem interpret_eq_ok_iff {o : ToolOutput} :
    interpret path size o = .ok s ↔
      ∃ read, ofText? (Text.decodeLossy o.complaints) = some read ∧
        read.descriptor.container.isSome = true ∧
        s = { read with descriptor := read.descriptor.fillSize size } := by
  unfold interpret
  cases hread : ofText? (Text.decodeLossy o.complaints) with
  | none => simp
  | some read =>
    cases hcontainer : read.descriptor.container with
    | none => simp [hcontainer]
    | some f =>
      simp only [hcontainer, Option.isNone_some, Bool.false_eq_true, if_false]
      constructor
      · intro h
        exact ⟨read, rfl, by rw [hcontainer]; rfl, (Except.ok.inj h).symm⟩
      · rintro ⟨read', hsame, -, rfl⟩
        rw [Option.some.inj hsame]

/-- **Which files may have a picture**: those with a cover, and videos. -/
theorem isSome_frameSource?_iff :
    s.frameSource?.isSome = true ↔ s.cover.isSome = true ∨ s.descriptor.mediaType = .video := by
  unfold frameSource?
  cases s.cover <;> cases s.descriptor.mediaType <;> simp

variable {program : String} {limit : Milliseconds}

/-- Adding a thumbnail plays at most one call, whose outcome the thumbnail is read off. -/
theorem play_addThumbnail (outcomes : List ToolOutcome) :
    (s.addThumbnail program path limit).play outcomes =
      match s.frameSource? with
      | none => (s.descriptor, [])
      | some source =>
        ({ s.descriptor with thumbnail := FrameSource.thumbnail? (outcomes.headD (.ended {})) },
          [⟨program, source.arguments path, limit⟩]) := by
  unfold addThumbnail
  cases s.frameSource? <;> rfl

/-! ## The law -/

/-- Whether a picture is looked for after a first call: it left a summary with a container, and the
file has a cover or is a video. -/
def MayGrab (first : ToolOutcome) : Prop :=
  ∃ o s, first = .ended o ∧ ofText? (Text.decodeLossy o.complaints) = some s ∧
    s.descriptor.container.isSome = true ∧
    (s.cover.isSome = true ∨ s.descriptor.mediaType = .video)

/-- The call for the summary. -/
def reportCall (program : String) (limit : Milliseconds) (path : Path) : ToolCall :=
  ⟨program, ["-hide_banner", "-i", path], limit⟩

/-- What the call for the summary comes to. -/
def reading (program : String) (limit : Milliseconds) (path : Path) (size : Option UInt64)
    (first : ToolOutcome) : Except ProbeFailure StreamSummary :=
  ((reportCall program limit path).outputOf first).bind (interpret path size)

section

variable {first : ToolOutcome}

theorem reading_eq_ok_iff :
    reading program limit path size first = .ok s ↔
      ∃ o, first = .ended o ∧ interpret path size o = .ok s := by
  cases first <;> simp [reading, ToolCall.outputOf, Except.bind]

theorem mayGrab_iff : MayGrab first ↔
    ∃ s, reading program limit path size first = .ok s ∧ s.frameSource?.isSome = true := by
  constructor
  · rintro ⟨o, s, rfl, hread, hcontainer, hpicture⟩
    refine ⟨{ s with descriptor := s.descriptor.fillSize size },
      reading_eq_ok_iff.mpr ⟨o, rfl, interpret_eq_ok_iff.mpr ⟨s, hread, hcontainer, rfl⟩⟩, ?_⟩
    exact isSome_frameSource?_iff.mpr hpicture
  · rintro ⟨s, hs, hpicture⟩
    obtain ⟨o, rfl, ho⟩ := reading_eq_ok_iff.mp hs
    obtain ⟨read, hread, hcontainer, rfl⟩ := interpret_eq_ok_iff.mp ho
    exact ⟨o, read, rfl, hread, hcontainer, isSome_frameSource?_iff.mp hpicture⟩

theorem thumbnail_reading (h : reading program limit path size first = .ok s) :
    s.descriptor.thumbnail = none := by
  obtain ⟨o, -, ho⟩ := reading_eq_ok_iff.mp h
  obtain ⟨read, hread, -, rfl⟩ := interpret_eq_ok_iff.mp ho
  show read.descriptor.thumbnail = none
  exact thumbnail_ofText? hread

end

section

variable {outcomes : List ToolOutcome}

theorem play_probe_error {e : ProbeFailure}
    (h : reading program limit path size (outcomes.headD (.ended {})) = .error e)
    (grabLimit : Option Milliseconds) :
    (probe program limit grabLimit path size).play outcomes =
      (.error e, [reportCall program limit path]) := by
  simp only [reading, reportCall] at h
  simp only [probe, ToolDialogue.play, h, reportCall]

theorem play_probe_ok
    (h : reading program limit path size (outcomes.headD (.ended {})) = .ok s) :
    (probe program limit none path size).play outcomes =
      (.ok s.descriptor, [reportCall program limit path]) := by
  simp only [reading, reportCall] at h
  simp only [probe, ToolDialogue.play, h, reportCall]

theorem play_probe_grab
    (h : reading program limit path size (outcomes.headD (.ended {})) = .ok s)
    (grabLimit : Milliseconds) :
    (probe program limit (some grabLimit) path size).play outcomes =
      let added := (s.addThumbnail program path grabLimit).play outcomes.tail
      (.ok added.1, reportCall program limit path :: added.2) := by
  simp only [reading, reportCall] at h
  simp only [probe, ToolDialogue.play, ToolDialogue.play_bind, h, reportCall, List.append_nil]

end

/-- **A grab disturbs nothing.** The outcomes of the calls may be whatever they like. With grabs a
probe fails as it does without them, or yields the same descriptor but for the thumbnail, of which
there is none without. It makes one more call at most, and makes it just if a picture may be there;
and the thumbnail is what that call wrote, if it ended well and wrote something, and else missing. -/
theorem grab_law (program : String) (limit grabLimit : Milliseconds) (path : Path)
    (size : Option UInt64) (outcomes : List ToolOutcome) :
    let first := outcomes.headD (.ended {})
    let second := outcomes.tail.headD (.ended {})
    let plain := (probe program limit none path size).play outcomes
    let grabbing := (probe program limit (some grabLimit) path size).play outcomes
    grabbing.1.map Descriptor.withoutThumbnail = plain.1 ∧
      ∃ grabs : List ToolCall,
        plain.2.length = 1 ∧ grabbing.2 = plain.2 ++ grabs ∧ grabs.length ≤ 1 ∧
        (grabs ≠ [] ↔ MayGrab first) ∧
        ∀ t, (∃ d, grabbing.1 = .ok d ∧ d.thumbnail = some t) ↔
          grabs ≠ [] ∧ ∃ o, second = .ended o ∧ o.code = some 0 ∧ o.output.isEmpty = false ∧
            t = ⟨o.output, "image/jpeg", none, none⟩ := by
  intro first second plain grabbing
  have hmay : MayGrab first ↔ ∃ s, reading program limit path size first = .ok s ∧
      s.frameSource?.isSome = true := mayGrab_iff
  cases hread : reading program limit path size first with
  | error e =>
    have hplain : plain = _ := play_probe_error hread none
    have hgrabbing : grabbing = _ := play_probe_error hread (some grabLimit)
    have hnot : ¬MayGrab first := by simp [hmay, hread]
    rw [hplain, hgrabbing]
    exact ⟨rfl, [], rfl, rfl, Nat.zero_le _, by simp [hnot], by simp⟩
  | ok s =>
    have hplain : plain = _ := play_probe_ok hread
    have hgrabbing : grabbing = _ := play_probe_grab hread grabLimit
    have hnone := thumbnail_reading hread
    have hsame : (Except.ok s.descriptor.withoutThumbnail : ProbeAnswer) = .ok s.descriptor :=
      congrArg Except.ok (Descriptor.withoutThumbnail_eq_self hnone)
    have hmay : MayGrab first ↔ s.frameSource?.isSome = true := by simp [hmay, hread]
    rw [play_addThumbnail] at hgrabbing
    cases hsource : s.frameSource? with
    | none =>
      have hnot : ¬MayGrab first := by simp [hmay, hsource]
      simp only [hsource] at hgrabbing
      rw [hplain, hgrabbing]
      exact ⟨hsame, [], rfl, rfl, Nat.zero_le _, by simp [hnot], by simp [hnone]⟩
    | some source =>
      have hgrab : MayGrab first := by simp [hmay, hsource]
      simp only [hsource] at hgrabbing
      rw [hplain, hgrabbing]
      refine ⟨hsame, [_], rfl, rfl, Nat.le_refl _, by simp [hgrab], fun t => ?_⟩
      rw [← FrameSource.thumbnail?_eq_some_iff]
      constructor
      · rintro ⟨d, hd, hpicture⟩
        obtain rfl := Except.ok.inj hd
        exact ⟨List.cons_ne_nil _ _, hpicture⟩
      · rintro ⟨-, hpicture⟩
        exact ⟨_, rfl, hpicture⟩

end StreamSummary

end MediaIndex
