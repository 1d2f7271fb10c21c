import MediaIndex.Proofs.Survey

/-!
# What is settled is what is written down

A survey keeps three facts twice: the container, the codec of the video and the codec of the audio
track that began last stand once in what is settled, where the next token is read by them, and once
in what was found. The two are changed by different hands. A token may rename the container, a
video codec is written down for the first stream alone, an image stands in for a container that is
missing, and an audio codec may be reported before any track has begun.

> **`settled_found`**: after every report, a settled container is the one that was found, and
> without fields of images the two are always the same; while at most one video stream has begun
> the video codecs are the same; and the settled audio codec is that of the last track, if there is
> one.

The containers and the audio codecs are gathered in `Survey.Sides`. What a token does to them is one
equation (`sides_classify`), whatever the token is taken for, and the two facts about them are kept
by every outcome. The video codec is already in `Survey.Core`: that it is linked is kept by what a
field can do (`Reads`), but not by the stream that begins, so the streams are counted.
-/

set_option autoImplicit false

namespace MediaIndex

/-- Whether an event is a field of an image. -/
def SurveyEvent.isImageField : SurveyEvent → Bool
  | .field .image _ _ => true
  | _ => false

/-- Whether a video stream begins. -/
def SurveyEvent.beginsVideo : SurveyEvent → Bool
  | .begin kind => kind == .video
  | _ => false

namespace Survey

/-- The container and the audio codec of a survey, each on both of its sides. -/
structure Sides where
  known : Settled
  container : Option Format
  /-- The codec of the audio track that began last, if one did. -/
  lastAudio : Option (Option Format)

def sides (s : Survey) : Sides where
  known := s.known
  container := s.found.container
  lastAudio := s.found.audioTracks.getLast?.map (·.codec)

namespace Sides

/-- A format is written down for the streams of a kind. -/
def written (m : Sides) (kind : StreamKind) (f : Format) : Sides :=
  match kind with
  | .general => { m with container := some f }
  | .image => { m with container := m.container.or (some f) }
  | .audio => { m with lastAudio := m.lastAudio.map fun _ => some f }
  | .video | .text => m

/-- A token renames the container, if it does. -/
def renamed (m : Sides) (r : Recognition) : Sides :=
  { m with known := m.known.renamed r, container := r.container.or m.container }

/-- A token names a format. -/
def named (m : Sides) (kind : StreamKind) (f : Format) : Sides :=
  { m.written kind f with known := m.known.settle kind f }

/-- All that the outcome for a token does. -/
def heard (m : Sides) (kind : StreamKind) (r : Recognition) : Sides :=
  match r.meaning with
  | some (.format f) => (m.renamed r).named kind f
  | _ => m.renamed r

end Sides

variable {s : Survey} {kind : StreamKind} {name : FieldName} {value : String}

/-! ## What a field can do -/

theorem sides_of_books {t : Survey} (h : s.books = t.books) : s.sides = t.sides :=
  congrArg (fun b : Books => (⟨b.known, b.container, b.lastAudio⟩ : Sides)) h

theorem sides_describeFormat (s : Survey) (kind : StreamKind) (f : Format) :
    (s.describeFormat kind f).sides = s.sides.written kind f := by
  cases kind with
  | general | image | text => rfl
  | video => exact view_describeVideo sides rfl
  | audio =>
    simp only [describeFormat, describeAudio, describe, sides, Sides.written, getLast?_modifyLast,
      Option.map_map, Function.comp_def]

theorem sides_settleToken (s : Survey) (kind : StreamKind) (r : Recognition) :
    (s.settleToken kind r).sides =
      { s.sides.renamed r with known := s.known.apply kind r } := by
  unfold settleToken Sides.renamed
  cases r.container <;> rfl

theorem sides_settleToken_of_unnamed {r : Recognition} (h : ∀ f, r.meaning ≠ some (.format f)) :
    (s.settleToken kind r).sides = s.sides.renamed r := by
  rw [sides_settleToken, Settled.apply_of_unnamed h]
  rfl

/-- **What a token does**, whatever it is taken for. -/
theorem sides_classify (s : Survey) (kind : StreamKind) (value : String) :
    (s.classify kind value).sides = s.sides.heard kind (recognise kind value s.known) := by
  generalize hr : recognise kind value s.known = r
  rw [classify_eq s kind value hr]
  obtain ⟨meaning, container⟩ := r
  cases meaning with
  | none =>
    cases container with
    | none => rfl
    | some f =>
      rw [if_neg (by simp [Recognition.isEmpty])]
      exact sides_settleToken_of_unnamed (by simp)
  | some m =>
    rw [if_neg (by simp [Recognition.isEmpty])]
    cases m with
    | format f =>
      dsimp only [describeMeaning]
      rw [sides_describeFormat, sides_settleToken, Settled.apply_of_named rfl]
      cases kind <;> rfl
    | subtitle f =>
      exact sides_settleToken_of_unnamed (r := ⟨some (.subtitle f), container⟩) (by simp)
    | profileLevel p =>
      dsimp only [describeMeaning]
      rw [view_describeVideo sides rfl]
      exact sides_settleToken_of_unnamed (by simp)

/-- A field leaves both sides as they are, or is a token. -/
theorem sides_setField (s : Survey) (kind : StreamKind) (name : FieldName) (value : String) :
    (s.setField kind name value).sides = s.sides ∨
      ∃ r, (s.setField kind name value).sides = s.sides.heard kind r := by
  have htoken : ∃ r, (s.classify kind value).sides = s.sides.heard kind r :=
    ⟨_, sides_classify s kind value⟩
  by_cases hname : name.isFormatField = true
  · cases name with
    | format | formatVersion | formatFeatures => exact .inr htoken
    | formatProfile =>
      unfold setField
      dsimp only
      split
      · exact .inl (view_describeVideo sides rfl)
      · exact .inr htoken
    | codecId =>
      unfold setField
      dsimp only
      split
      · exact .inl rfl
      · exact .inr htoken
    | _ => exact absurd hname (by simp [FieldName.isFormatField])
  · refine .inl ?_
    by_cases hduration : name = .duration
    · subst hduration
      unfold setField
      dsimp only
      split
      · simp only [sides, describe]
      · rfl
    · exact sides_of_books (books_setField (by simpa using hname) hduration)

/-! ## What both sides keep -/

namespace Sides

/-- What is settled is written down as well. An image may have been written down for a container
that is not settled. -/
structure Mirrored (m : Sides) : Prop where
  container : ∀ f, m.known.container = some f → m.container = some f
  audio : ∀ codec, m.lastAudio = some codec → m.known.audioCodec = codec

variable {m : Sides}

theorem Mirrored.renamed (h : m.Mirrored) (r : Recognition) : (m.renamed r).Mirrored where
  container f hf := by
    simp only [Sides.renamed, Settled.renamed] at hf ⊢
    rcases Option.or_eq_some_iff.mp hf with hr | ⟨hr, hknown⟩
    · rw [hr, Option.some_or]
    · rw [hr, Option.none_or, h.container f hknown]
  audio := h.audio

theorem Mirrored.named (h : m.Mirrored) (kind : StreamKind) (f : Format) :
    (m.named kind f).Mirrored := by
  cases kind with
  | video | text => exact ⟨h.container, h.audio⟩
  | general => exact ⟨fun g hg => hg, h.audio⟩
  | image =>
    refine ⟨fun g hg => ?_, h.audio⟩
    show m.container.or (some f) = some g
    rw [h.container g hg, Option.some_or]
  | audio =>
    refine ⟨h.container, fun codec hcodec => ?_⟩
    obtain ⟨-, -, hcodec⟩ := Option.map_eq_some_iff.mp hcodec
    exact hcodec

theorem Mirrored.heard (h : m.Mirrored) (kind : StreamKind) (r : Recognition) :
    (m.heard kind r).Mirrored := by
  unfold Sides.heard
  split
  · exact (h.renamed r).named kind _
  · exact h.renamed r

/-- No token but an image's is written down for the container and not settled. -/
theorem container_heard (h : m.known.container = m.container) (hkind : kind ≠ .image)
    (r : Recognition) : (m.heard kind r).known.container = (m.heard kind r).container := by
  have hrenamed : (m.renamed r).known.container = (m.renamed r).container := by
    simp only [renamed, Settled.renamed, h]
  unfold heard
  split
  · cases kind with
    | general => rfl
    | video | audio | text => exact hrenamed
    | image => exact absurd rfl hkind
  · exact hrenamed

end Sides

/-! ## Reports -/

theorem sides_field (s : Survey) (kind : StreamKind) (name : FieldName) (value : String) :
    (s.field kind name value).sides = s.sides ∨
      ∃ r, (s.field kind name value).sides = s.sides.heard kind r := by
  unfold field
  cases Text.nonBlank? value with
  | none => exact .inl rfl
  | some value => exact sides_setField s kind name value

theorem mirrored_start : start.sides.Mirrored :=
  ⟨fun _ hf => hf, fun _ hcodec => absurd hcodec (by simp [sides, start, Descriptor.blank])⟩

theorem mirrored_step (h : s.sides.Mirrored) (e : SurveyEvent) : (s.step e).sides.Mirrored := by
  cases e with
  | begin kind =>
    cases kind with
    | general | video | image | text => exact h
    | audio =>
      -- the new track has no codec yet, and none is settled any more
      refine ⟨h.container, fun codec hcodec => ?_⟩
      simpa [step, beginStream, sides] using hcodec
  | field kind name value =>
    rw [step]
    rcases sides_field s kind name value with hsame | ⟨r, hr⟩
    · rw [hsame]
      exact h
    · rw [hr]
      exact h.heard kind r
  | thumbnail t => exact h
  | size n => exact h

theorem mirrored_run (h : s.sides.Mirrored) (events : List SurveyEvent) :
    (s.run events).sides.Mirrored := by
  induction events generalizing s with
  | nil => exact h
  | cons e rest ih => exact ih (mirrored_step h e)

theorem container_step (h : s.sides.known.container = s.sides.container) {e : SurveyEvent}
    (he : e.isImageField = false) :
    (s.step e).sides.known.container = (s.step e).sides.container := by
  cases e with
  | begin kind => cases kind <;> exact h
  | field kind name value =>
    have hkind : kind ≠ .image := by
      rintro rfl
      exact absurd he (by simp [SurveyEvent.isImageField])
    rw [step]
    rcases sides_field s kind name value with hsame | ⟨r, hr⟩
    · rw [hsame]
      exact h
    · rw [hr]
      exact Sides.container_heard h hkind r
  | thumbnail t => exact h
  | size n => exact h

theorem container_run (h : s.sides.known.container = s.sides.container) {events : List SurveyEvent}
    (hnone : ∀ e ∈ events, e.isImageField = false) :
    (s.run events).sides.known.container = (s.run events).sides.container := by
  induction events generalizing s with
  | nil => exact h
  | cons e rest ih =>
    have hstep := container_step h (hnone e List.mem_cons_self)
    exact ih hstep fun e' he' => hnone e' (List.mem_cons_of_mem _ he')

theorem Reads.linked {v w : Core} (h : Reads kind name v w) (hv : v.Linked) : w.Linked := by
  cases h with
  | nothing => exact hv
  | codec f _ _ _ _ => exact v.linked_named kind f
  | level raw _ _ _ => exact hv
  | duration x _ => exact hv

/-- The codec of the first video stream stays linked while no second one begins. -/
theorem linked_run (h : s.core.Linked) {events : List SurveyEvent}
    (hfew : s.core.streams.toNat + events.countP SurveyEvent.beginsVideo ≤ 1) :
    (s.run events).core.codec = (s.run events).core.known := by
  induction events generalizing s with
  | nil => exact h (UInt32.le_iff_toNat_le.mpr hfew)
  | cons e rest ih =>
    cases e with
    | begin kind =>
      by_cases hkind : kind = .video
      · subst hkind
        rw [List.countP_cons_of_pos rfl] at hfew
        have hzero : s.core.streams = 0 := UInt32.toNat_inj.mp (by rw [UInt32.toNat_zero]; omega)
        have hcore : (s.step (.begin .video)).core = { s.core with streams := 1 } := by
          rw [step, core_beginStream, if_pos rfl, hzero]
          rfl
        refine ih ?_ ?_
        · rw [hcore]
          exact fun _ => h (by rw [hzero]; decide)
        · rw [hcore]
          show 1 + _ ≤ 1
          omega
      · have hother : ¬SurveyEvent.beginsVideo (.begin kind) = true := by
          simpa [SurveyEvent.beginsVideo] using hkind
        rw [List.countP_cons_of_neg hother] at hfew
        refine ih ?_ ?_
        · rw [core_step_begin s hkind]
          exact h
        · rw [core_step_begin s hkind]
          exact hfew
    | field kind name value =>
      rw [List.countP_cons_of_neg (by simp [SurveyEvent.beginsVideo])] at hfew
      have hreads := reads_field s kind name value
      refine ih ?_ ?_
      · rw [step]
        exact hreads.linked h
      · rw [step, hreads.streams]
        exact hfew
    | thumbnail t =>
      rw [List.countP_cons_of_neg (by simp [SurveyEvent.beginsVideo])] at hfew
      exact ih h hfew
    | size n =>
      rw [List.countP_cons_of_neg (by simp [SurveyEvent.beginsVideo])] at hfew
      exact ih h hfew

/-- **What is settled is what is written down**, after every report. -/
theorem settled_found (events : List SurveyEvent) :
    let s := start.run events
    (∀ f, s.known.container = some f → s.found.container = some f) ∧
      ((∀ e ∈ events, e.isImageField = false) → s.known.container = s.found.container) ∧
      (events.countP SurveyEvent.beginsVideo ≤ 1 → s.known.videoCodec = s.found.videoCodec) ∧
      ∀ t, s.found.audioTracks.getLast? = some t → s.known.audioCodec = t.codec := by
  intro s
  have hmirrored : s.sides.Mirrored := mirrored_run mirrored_start events
  refine ⟨hmirrored.container, container_run rfl, fun hfew => ?_, fun t ht => ?_⟩
  · refine (linked_run (s := start) (fun _ => rfl) ?_).symm
    rw [show start.core.streams = 0 from rfl, UInt32.toNat_zero, Nat.zero_add]
    exact hfew
  · refine hmirrored.audio t.codec ?_
    show s.found.audioTracks.getLast?.map (·.codec) = _
    rw [ht, Option.map_some]

/-- A film of two video streams; the second one is not described. -/
def twoVideos : List SurveyEvent :=
  [.field .general .format "Matroska", .begin .video, .field .video .format "AVC", .begin .audio,
    .field .audio .format "AAC", .begin .video, .field .video .format "HEVC"]

theorem settled_found_twoVideos :
    let s := start.run twoVideos
    (∀ f, s.known.container = some f → s.found.container = some f) ∧
      s.known.container = s.found.container ∧ s.known.container = some .matroska ∧
      (∀ t, s.found.audioTracks.getLast? = some t → s.known.audioCodec = t.codec) ∧
      s.known.videoCodec = some .h265 ∧ s.found.videoCodec = some .h264 := by
  obtain ⟨hcontainer, hsame, -, haudio⟩ := settled_found twoVideos
  exact ⟨hcontainer, hsame (by decide), by decide +kernel, haudio, by decide +kernel,
    by decide +kernel⟩

/-- An image stands in for the container, which is not settled by it. -/
example :
    let s := start.run [.field .image .format "PNG"]
    s.known.container = none ∧ s.found.container = some .png := by
  decide +kernel

end Survey

end MediaIndex
