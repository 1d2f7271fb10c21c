import Mathlib.Data.List.Forall2
import MediaIndex.Proofs.Survey.Closing

/-!
# Surveys, stream by stream

A report tells the streams of a file in a row, each as a block: the stream begins, and then come its
fields. Much of what a field does depends on what was told before: a codec on the container, a frame
size on how many videos there are. But the tracks of a file are told apart, and what is measured of
each (`AudioTrack.measured`, `SubtitleTrack.measured`) is told in its own block alone.

> **`heard_block`**: a block adds to the streams that were heard before what it tells by itself, and
> changes nothing in them.

So a row of blocks is heard as the row of what each of them tells, and the tracks of the descriptor
are the streams of the report, one for one and in order (`accounts_of_heard`).

That a field does not reach back is said in one place (`Touches`): it gives values to the track that
began last, of its own kind, and these do not depend on anything else.
-/

set_option autoImplicit false

namespace MediaIndex

/-! ## What is heard of streams -/

/-- What is measured of an audio track. It has neither number nor names, and no codec either, since
that may depend on the container. -/
def AudioTrack.measured (t : AudioTrack) : AudioTrack :=
  { language := t.language, channels := t.channels, sampleRate := t.sampleRate
    bitDepth := t.bitDepth, bitrate := t.bitrate, bitrateMode := t.bitrateMode, delay := t.delay }

/-- What is measured of a subtitle track: all but its number and its title. -/
def SubtitleTrack.measured (t : SubtitleTrack) : SubtitleTrack :=
  { t with number := 0, title := none }

namespace Streams

/-- No streams. -/
def empty : Streams := ⟨[], [], 0, 0⟩

/-- Streams with no more than what is measured of them. -/
def measured (v : Streams) : Streams :=
  { v with
    audio := v.audio.map AudioTrack.measured
    subtitles := v.subtitles.map SubtitleTrack.measured }

/-- Streams, and then more of them. -/
def append (v w : Streams) : Streams :=
  ⟨v.audio ++ w.audio, v.subtitles ++ w.subtitles, v.videos + w.videos, v.images + w.images⟩

instance : Append Streams := ⟨append⟩

theorem append_def (v w : Streams) :
    v ++ w =
      ⟨v.audio ++ w.audio, v.subtitles ++ w.subtitles, v.videos + w.videos, v.images + w.images⟩ :=
  rfl

theorem append_empty (v : Streams) : v ++ empty = v := by
  simp only [append_def, empty, List.append_nil, UInt32.add_zero]

theorem empty_append (v : Streams) : empty ++ v = v := by
  simp only [append_def, empty, List.nil_append, UInt32.zero_add]

theorem append_assoc (u v w : Streams) : u ++ v ++ w = u ++ (v ++ w) := by
  simp only [append_def, List.append_assoc, UInt32.add_assoc]

/-- Changes the last track of each kind. -/
def touch (f : AudioTrack → AudioTrack) (g : SubtitleTrack → SubtitleTrack) (v : Streams) :
    Streams :=
  { v with audio := modifyLast f v.audio, subtitles := modifyLast g v.subtitles }

theorem touch_id (v : Streams) : v.touch id id = v := by
  simp only [touch, modifyLast_id]

theorem touch_touch (f f' : AudioTrack → AudioTrack) (g g' : SubtitleTrack → SubtitleTrack)
    (v : Streams) : (v.touch f g).touch f' g' = v.touch (f' ∘ f) (g' ∘ g) := by
  simp only [touch, modifyLast_modifyLast]

/-- A stream of a kind that has just begun. -/
def opened : StreamKind → Streams
  | .general => empty
  | .video => ⟨[], [], 1, 0⟩
  | .image => ⟨[], [], 0, 1⟩
  | .audio => ⟨[{}], [], 0, 0⟩
  | .text => ⟨[], [{}], 0, 0⟩

/-- What is heard of one stream of a kind, or of what is no stream at all. -/
inductive Single : Option StreamKind → Streams → Prop where
  | nothing : Single none empty
  | general : Single (some .general) empty
  | video : Single (some .video) ⟨[], [], 1, 0⟩
  | image : Single (some .image) ⟨[], [], 0, 1⟩
  | audio (a : AudioTrack) : Single (some .audio) ⟨[a], [], 0, 0⟩
  | text (t : SubtitleTrack) : Single (some .text) ⟨[], [t], 0, 0⟩

theorem single_opened (kind : StreamKind) (f : AudioTrack → AudioTrack)
    (g : SubtitleTrack → SubtitleTrack) : Single (some kind) ((opened kind).touch f g) := by
  cases kind with
  | general => exact .general
  | video => exact .video
  | image => exact .image
  | audio => exact .audio _
  | text => exact .text _

/-- A stream that has just begun takes what is given to the last track of its kind. -/
theorem touch_append_opened (v : Streams) {kind : StreamKind} {f : AudioTrack → AudioTrack}
    {g : SubtitleTrack → SubtitleTrack} (hf : kind ≠ .audio → f = id) (hg : kind ≠ .text → g = id) :
    (v ++ opened kind).touch f g = v ++ (opened kind).touch f g := by
  cases kind with
  | general | video | image =>
    obtain rfl := hf (by simp)
    obtain rfl := hg (by simp)
    simp only [touch_id]
  | audio =>
    obtain rfl := hg (by simp)
    simp only [append_def, opened, touch, modifyLast_append, modifyLast_id, modifyLast]
  | text =>
    obtain rfl := hf (by simp)
    simp only [append_def, opened, touch, modifyLast_append, modifyLast_id, modifyLast]

end Streams

namespace Survey

variable {s t : Survey} {kind : StreamKind} {name : FieldName} {value : String}

/-- The streams that have begun, with what was measured of them. -/
def heard (s : Survey) : Streams := s.found.streams.measured

/-- What some events tell of streams by themselves. -/
def told (events : List SurveyEvent) : Streams := (start.run events).heard

theorem heard_describeAudio {set : AudioTrack → AudioTrack}
    (h : ∀ a, (set a).measured = (set a.measured).measured) (s : Survey) :
    (s.describeAudio set).heard = s.heard.touch (fun a => (set a).measured) id := by
  have hseen : (modifyLast set s.found.audioTracks).map AudioTrack.measured =
      modifyLast (fun a => (set a).measured) (s.found.audioTracks.map AudioTrack.measured) :=
    map_modifyLast_comm h _
  simp only [describeAudio, describe, heard, Descriptor.streams, Streams.measured, Streams.touch,
    hseen, modifyLast_id]

theorem heard_describeSubtitle {set : SubtitleTrack → SubtitleTrack}
    (h : ∀ a, (set a).measured = (set a.measured).measured) (s : Survey) :
    (s.describeSubtitle set).heard = s.heard.touch id fun a => (set a).measured := by
  have hseen : (modifyLast set s.found.subtitleTracks).map SubtitleTrack.measured =
      modifyLast (fun a => (set a).measured) (s.found.subtitleTracks.map SubtitleTrack.measured) :=
    map_modifyLast_comm h _
  simp only [describeSubtitle, describe, heard, Descriptor.streams, Streams.measured, Streams.touch,
    hseen, modifyLast_id]

/-- What is not measured of an audio track is not heard. -/
theorem heard_describeAudio_of_same {set : AudioTrack → AudioTrack}
    (h : ∀ a, (set a).measured = a.measured) (s : Survey) :
    (s.describeAudio set).heard = s.heard := by
  simp only [describeAudio, describe, heard, Descriptor.streams, Streams.measured,
    map_modifyLast h]

/-- What is not measured of a subtitle track is not heard. -/
theorem heard_describeSubtitle_of_same {set : SubtitleTrack → SubtitleTrack}
    (h : ∀ a, (set a).measured = a.measured) (s : Survey) :
    (s.describeSubtitle set).heard = s.heard := by
  simp only [describeSubtitle, describe, heard, Descriptor.streams, Streams.measured,
    map_modifyLast h]

theorem heard_beginStream (s : Survey) (kind : StreamKind) :
    (s.beginStream kind).heard = s.heard ++ .opened kind := by
  cases kind <;>
    simp [beginStream, describe, heard, Descriptor.streams, Streams.measured, Streams.append_def,
      Streams.opened, Streams.empty, AudioTrack.measured, SubtitleTrack.measured]

/-! ## What a field gives to a track -/

/-- Whether a change only gives values to the track of a kind that began last. Which values these
are depends on nothing but what is measured of that track. -/
def Touches (kind : StreamKind) (change : Survey → Survey) : Prop :=
  ∃ f g, (kind ≠ .audio → f = id) ∧ (kind ≠ .text → g = id) ∧
    ∀ s, (change s).heard = s.heard.touch f g

namespace Touches

variable {change next : Survey → Survey}

theorem of_same (h : ∀ s, (change s).heard = s.heard) : Touches kind change :=
  ⟨id, id, fun _ => rfl, fun _ => rfl, fun s => (h s).trans (Streams.touch_id _).symm⟩

theorem of_audio {set : AudioTrack → AudioTrack}
    (h : ∀ a, (set a).measured = (set a.measured).measured) :
    Touches .audio (·.describeAudio set) :=
  ⟨_, id, fun hkind => absurd rfl hkind, fun _ => rfl, heard_describeAudio h⟩

theorem of_subtitle {set : SubtitleTrack → SubtitleTrack}
    (h : ∀ a, (set a).measured = (set a.measured).measured) :
    Touches .text (·.describeSubtitle set) :=
  ⟨id, _, fun _ => rfl, fun hkind => absurd rfl hkind, heard_describeSubtitle h⟩

theorem comp (h : Touches kind change) (hnext : Touches kind next) :
    Touches kind fun s => next (change s) := by
  obtain ⟨f, g, hf, hg, hchange⟩ := h
  obtain ⟨f', g', hf', hg', hnext⟩ := hnext
  refine ⟨f' ∘ f, g' ∘ g, fun hkind => ?_, fun hkind => ?_, fun s => ?_⟩
  · rw [hf hkind, hf' hkind]
    rfl
  · rw [hg hkind, hg' hkind]
    rfl
  · rw [hnext, hchange, Streams.touch_touch]

end Touches

/-- What a token means for the streams of a kind other than text is not measured of any track. -/
theorem heard_classify (hkind : kind ≠ .text) (s : Survey) (value : String) :
    (s.classify kind value).heard = s.heard := by
  have hsettled : ∀ r, (s.settleToken kind r).heard = s.heard := by
    intro r
    unfold settleToken
    split <;> rfl
  have hformat : ∀ (t : Survey) (f : Format), (t.describeFormat kind f).heard = t.heard := by
    intro t f
    cases kind with
    | general | image | text => rfl
    | video => exact view_describeVideo heard rfl
    | audio =>
      -- which codec it is may depend on the container, but codecs are not measured
      have hcodec : ∀ a : AudioTrack, { a with codec := some f }.measured = a.measured :=
        fun _ => rfl
      exact heard_describeAudio_of_same hcodec t
  cases hr : recognise kind value s.known with
  | mk meaning container =>
  rw [classify_eq s kind value hr]
  split
  · rfl
  · cases meaning with
    | none => exact hsettled _
    | some m =>
      cases m with
      | format f => exact (hformat _ f).trans (hsettled _)
      | subtitle f =>
        exact absurd (congrArg Recognition.meaning hr) (recognise_ne_subtitle hkind)
      | profileLevel p => exact (view_describeVideo heard rfl).trans (hsettled _)

/-- What a token means for a subtitle stream does not depend on what is settled. -/
theorem recognise_text (value : String) :
    ∃ f : Option SubtitleFormat, ∀ known,
      recognise .text value known = ⟨f.map .subtitle, none⟩ := by
  by_cases hempty : (Text.lower (Text.trim value)).isEmpty = true
  · exact ⟨none, fun known => by simp only [recognise, hempty, if_true, Option.map_none]⟩
  · exact ⟨recogniseSubtitle (Text.lower (Text.trim value)),
      fun known => by simp only [recognise, hempty, if_false, Bool.false_eq_true]⟩

/-- A token of a subtitle stream gives a format to the last track, or nothing. -/
theorem heard_classify_text (value : String) :
    ∃ g, ∀ s : Survey, (s.classify .text value).heard = s.heard.touch id g := by
  obtain ⟨f, hr⟩ := recognise_text value
  cases f with
  | none =>
    refine ⟨id, fun s => ?_⟩
    rw [classify_eq s .text value (hr s.known), Streams.touch_id]
    rfl
  | some f =>
    let set (a : SubtitleTrack) : SubtitleTrack := { a with format := some f }
    refine ⟨fun a => (set a).measured, fun s => ?_⟩
    rw [classify_eq s .text value (hr s.known)]
    exact heard_describeSubtitle (fun _ => rfl) s

/-! ### The fields of the kinds of streams -/

/-- A field of a stream without a track gives nothing to any track. -/
theorem heard_setField (haudio : kind ≠ .audio) (htext : kind ≠ .text) (s : Survey)
    (name : FieldName) (value : String) : (s.setField kind name value).heard = s.heard := by
  have hwritten := written_setField s kind name value
  generalize s.setField kind name value = t at hwritten ⊢
  cases hwritten with
  | nothing | tag => rfl
  | token value => exact heard_classify htext s value
  | file f hstreams => exact congrArg Streams.measured (hstreams s.found)
  | audio f hkind => exact absurd hkind haudio
  | subtitle f hkind => exact absurd hkind htext

theorem heard_setDuration (kind : StreamKind) (value : String) (s : Survey) :
    (s.setField kind .duration value).heard = s.heard := by
  simp only [setField]
  split
  · exact congrArg Streams.measured (by simp only [describe, Descriptor.streams])
  · rfl

theorem touches_setAudioField (name : FieldName) (value : String) :
    Touches .audio (·.setAudioField name value) := by
  refine .of_audio fun a => ?_
  cases name <;> rfl

theorem touches_setSubtitleField (name : FieldName) (value : String) :
    Touches .text (·.setSubtitleField name value) := by
  refine .of_subtitle fun a => ?_
  cases name <;> rfl

theorem touches_setField_audio (name : FieldName) (value : String) :
    Touches .audio (·.setField .audio name value) := by
  have htoken : ∀ s : Survey, (s.classify .audio value).heard = s.heard :=
    fun s => heard_classify (by simp) s value
  cases name with
  | extra key => exact .of_same fun _ => rfl
  | format | formatVersion | formatFeatures =>
    simp only [setField]
    exact .of_same htoken
  | formatProfile =>
    simp only [setField, reduceCtorEq, if_false]
    exact .of_same htoken
  | codecId =>
    refine .of_same fun s => ?_
    simp only [setField]
    split
    · rfl
    · exact htoken s
  | duration => exact .of_same (heard_setDuration .audio value)
  | _ => exact touches_setAudioField _ value

theorem touches_setField_text (name : FieldName) (value : String) :
    Touches .text (·.setField .text name value) := by
  obtain ⟨g, htoken⟩ := heard_classify_text value
  have hclassify : Touches .text (·.classify .text value) :=
    ⟨id, g, fun _ => rfl, fun hkind => absurd rfl hkind, htoken⟩
  cases name with
  | extra key => exact .of_same fun _ => rfl
  | format | formatVersion | formatFeatures =>
    simp only [setField]
    exact hclassify
  | formatProfile =>
    simp only [setField, reduceCtorEq, if_false]
    exact hclassify
  | codecId =>
    -- whether the identifier counts is seen from what was measured of the last track
    refine ⟨id, fun a => if a.format.isSome then a else g a, fun _ => rfl,
      fun hkind => absurd rfl hkind, fun s => ?_⟩
    have hlast : s.heard.subtitles.getLast?.any (fun a => a.format.isSome) = s.hasCodec .text := by
      simp only [heard, Streams.measured, Descriptor.streams, hasCodec, List.getLast?_map,
        Option.any_map, SubtitleTrack.measured]
    simp only [setField, Streams.touch, modifyLast_unless, hlast, modifyLast_id]
    split
    · rfl
    · rw [htoken, Streams.touch, modifyLast_id]
  | duration => exact .of_same (heard_setDuration .text value)
  | _ => exact touches_setSubtitleField _ value

theorem heard_field (haudio : kind ≠ .audio) (htext : kind ≠ .text) (s : Survey)
    (name : FieldName) (value : String) : (s.field kind name value).heard = s.heard := by
  unfold field
  cases Text.nonBlank? value with
  | none => rfl
  | some value => exact heard_setField haudio htext s name value

/-- **A field gives values to the track that began last**, of its own kind, and to no other. -/
theorem touches_field (kind : StreamKind) (name : FieldName) (value : String) :
    Touches kind (·.field kind name value) := by
  unfold field
  cases Text.nonBlank? value with
  | none => exact .of_same fun _ => rfl
  | some value =>
    cases kind with
    | audio => exact touches_setField_audio name value
    | text => exact touches_setField_text name value
    | general | video | image =>
      exact .of_same fun s => heard_setField (by simp) (by simp) s name value

/-- A title is not measured, of whatever stream it is. -/
theorem heard_title (kind : StreamKind) (value : String) (s : Survey) :
    (s.field kind .title value).heard = s.heard := by
  unfold field
  cases Text.nonBlank? value with
  | none => rfl
  | some value =>
    cases kind with
    | general | video | image => exact heard_setField (by simp) (by simp) s .title value
    | audio =>
      have htitle : ∀ a : AudioTrack, { a with title := some value }.measured = a.measured :=
        fun _ => rfl
      exact heard_describeAudio_of_same htitle s
    | text =>
      have htitle : ∀ t : SubtitleTrack, { t with title := some value }.measured = t.measured :=
        fun _ => rfl
      exact heard_describeSubtitle_of_same htitle s

end Survey

/-! ## Blocks -/

/-- Whether an event is a field of a stream of a kind. -/
def SurveyEvent.IsFieldOf (kind : StreamKind) (e : SurveyEvent) : Prop :=
  ∃ name value, e = .field kind name value

/-- Whether some events are what is told of one stream of a kind: it begins, and its fields
follow. -/
def IsBlock (kind : StreamKind) (events : List SurveyEvent) : Prop :=
  ∃ fields, events = .begin kind :: fields ∧ ∀ e ∈ fields, e.IsFieldOf kind

namespace Survey

variable {s : Survey} {kind : StreamKind} {events : List SurveyEvent}

theorem touches_fields (h : ∀ e ∈ events, e.IsFieldOf kind) : Touches kind (·.run events) := by
  induction events with
  | nil => exact .of_same fun _ => rfl
  | cons e rest ih =>
    obtain ⟨name, value, rfl⟩ := h e List.mem_cons_self
    exact (touches_field kind name value).comp (ih fun e he => h e (List.mem_cons_of_mem _ he))

theorem heard_start : start.heard = .empty := rfl

/-- Whether some events leave the streams that were heard before as they are, and add to them what
they tell by themselves. -/
def Adds (events : List SurveyEvent) : Prop :=
  ∀ s : Survey, (s.run events).heard = s.heard ++ told events

/-- What a block does: a stream of its kind is there, with the values of the fields. -/
theorem heard_run_block (h : IsBlock kind events) :
    ∃ f g, ∀ s : Survey, (s.run events).heard = s.heard ++ (Streams.opened kind).touch f g := by
  obtain ⟨fields, rfl, hfields⟩ := h
  obtain ⟨f, g, hf, hg, hchange⟩ := touches_fields hfields
  refine ⟨f, g, fun s => ?_⟩
  show ((s.beginStream kind).run fields).heard = _
  rw [hchange, heard_beginStream, Streams.touch_append_opened _ hf hg]

/-- **A block adds what it tells by itself**, which is one stream of its kind. -/
theorem adds_block (h : IsBlock kind events) : Adds events ∧ (told events).Single (some kind) := by
  obtain ⟨f, g, hrun⟩ := heard_run_block h
  have htold : told events = (Streams.opened kind).touch f g := by
    rw [told, hrun start, heard_start, Streams.empty_append]
  rw [htold]
  exact ⟨fun s => (hrun s).trans (by rw [htold]), Streams.single_opened kind f g⟩

/-- Whether nothing is heard of streams in an event. -/
def Silent (e : SurveyEvent) : Prop := ∀ s : Survey, (s.step e).heard = s.heard

theorem heard_run_silent (h : ∀ e ∈ events, Silent e) (s : Survey) :
    (s.run events).heard = s.heard := by
  induction events generalizing s with
  | nil => rfl
  | cons e rest ih =>
    exact (ih (fun e he => h e (List.mem_cons_of_mem _ he)) _).trans (h e List.mem_cons_self s)

theorem silent_begin_general : Silent (.begin .general) := fun _ => rfl

theorem silent_general (name : FieldName) (value : String) : Silent (.field .general name value) :=
  fun s => heard_field (by simp) (by simp) s name value

theorem silent_title (kind : StreamKind) (value : String) : Silent (.field kind .title value) :=
  heard_title kind value

end Survey

/-! ## Rows of streams -/

/-- Streams, one after the other. -/
def Streams.concat (l : List Streams) : Streams := l.foldr (· ++ ·) empty

/-- An audio track is what some events tell by themselves. -/
def AudioTrack.IsToldBy (t : AudioTrack) (events : List SurveyEvent) : Prop :=
  (Survey.told events).audio = [t.measured]

/-- A subtitle track is what some events tell by themselves. -/
def SubtitleTrack.IsToldBy (t : SubtitleTrack) (events : List SurveyEvent) : Prop :=
  (Survey.told events).subtitles = [t.measured]

section Rows

open Survey

variable {σ : Type} {kind? : σ → Option StreamKind} {events : σ → List SurveyEvent}

/-- Whether what a report is made of is told in blocks: what is a stream of some kind in a block of
that kind, and what is no stream not at all. -/
structure Blocks (kind? : σ → Option StreamKind) (events : σ → List SurveyEvent) : Prop where
  block : ∀ {i kind}, kind? i = some kind → IsBlock kind (events i)
  silent : ∀ {i}, kind? i = none → events i = []

/-- Whether the streams of each kind are few enough to be numbered. What is told of a file as a
whole is no stream, and may be told as often as it likes. -/
def Numerable (kind? : σ → Option StreamKind) (items : List σ) : Prop :=
  ∀ kind, kind ≠ .general → items.countP (kind? · == some kind) < UInt32.size

/-- **Whether a descriptor accounts for the streams of a report**: its audio tracks are the audio
streams, one for one and in order, each as it is told by itself; so are the subtitle tracks; both
are numbered from zero on; and videos and images are counted. -/
structure Accounts (kind? : σ → Option StreamKind) (events : σ → List SurveyEvent)
    (items : List σ) (d : Descriptor) : Prop where
  audio : List.Forall₂ (fun t i => t.IsToldBy (events i)) d.audioTracks
    (items.filter (kind? · == some .audio))
  subtitles : List.Forall₂ (fun t i => t.IsToldBy (events i)) d.subtitleTracks
    (items.filter (kind? · == some .text))
  audioNumbers : d.audioTracks.map (·.number.toNat) = List.range d.audioTracks.length
  subtitleNumbers : d.subtitleTracks.map (·.number.toNat) = List.range d.subtitleTracks.length
  videos : d.videoTrackCount.toNat = items.countP (kind? · == some .video)
  images : d.imageCount.toNat = items.countP (kind? · == some .image)

/-- Whether streams are those of a row of items. -/
structure RowOf (kind? : σ → Option StreamKind) (events : σ → List SurveyEvent) (items : List σ)
    (v : Streams) : Prop where
  audio : List.Forall₂ (fun a i => (told (events i)).audio = [a]) v.audio
    (items.filter (kind? · == some .audio))
  subtitles : List.Forall₂ (fun t i => (told (events i)).subtitles = [t]) v.subtitles
    (items.filter (kind? · == some .text))
  videos : v.videos = UInt32.ofNat (items.countP (kind? · == some .video))
  images : v.images = UInt32.ofNat (items.countP (kind? · == some .image))

variable {i : σ} {items : List σ} {v : Streams} {d : Descriptor}

theorem Accounts.length_audioTracks (h : Accounts kind? events items d) :
    d.audioTracks.length = (items.map kind?).count (some .audio) := by
  rw [h.audio.length_eq, ← List.countP_eq_length_filter, List.count, List.countP_map]
  rfl

theorem Accounts.toNat_videoTrackCount (h : Accounts kind? events items d) :
    d.videoTrackCount.toNat = (items.map kind?).count (some .video) := by
  rw [h.videos, List.count, List.countP_map]
  rfl

theorem numerable_iff : Numerable kind? items ↔
    ∀ kind, kind ≠ .general → (items.map kind?).count (some kind) < UInt32.size := by
  simp only [Numerable, List.count, List.countP_map, Function.comp_def]

theorem RowOf.cons (h : RowOf kind? events items v)
    (hsingle : (told (events i)).Single (kind? i)) :
    RowOf kind? events (i :: items) (told (events i) ++ v) := by
  -- an item adds to one of the four at most, and which one is told by its kind
  generalize hkind : kind? i = kind at hsingle
  generalize htold : told (events i) = w at hsingle
  refine ⟨?_, ?_, ?_, ?_⟩
  · rw [List.filter_cons, Streams.append_def]
    cases hsingle with
    | audio a =>
      have hfirst : (told (events i)).audio = [a] := congrArg Streams.audio htold
      simpa [hkind, hfirst] using h.audio
    | _ => simpa [hkind, Streams.empty] using h.audio
  · rw [List.filter_cons, Streams.append_def]
    cases hsingle with
    | text t =>
      have hfirst : (told (events i)).subtitles = [t] := congrArg Streams.subtitles htold
      simpa [hkind, hfirst] using h.subtitles
    | _ => simpa [hkind, Streams.empty] using h.subtitles
  · rw [List.countP_cons, Streams.append_def, h.videos]
    cases hsingle <;> simp [hkind, Streams.empty, UInt32.add_comm]
  · rw [List.countP_cons, Streams.append_def, h.images]
    cases hsingle <;> simp [hkind, Streams.empty, UInt32.add_comm]

/-- **Items that are told in blocks make a row of streams**, whatever comes before them. -/
theorem Blocks.rowOf (h : Blocks kind? events) (items : List σ) :
    RowOf kind? events items (.concat (items.map fun i => told (events i))) := by
  induction items with
  | nil => exact ⟨.nil, .nil, rfl, rfl⟩
  | cons i rest ih =>
    refine ih.cons ?_
    cases hkind : kind? i with
    | none =>
      rw [h.silent hkind]
      exact .nothing
    | some kind => exact (adds_block (h.block hkind)).2

theorem Blocks.adds (h : Blocks kind? events) (i : σ) : Adds (events i) := by
  cases hkind : kind? i with
  | none =>
    rw [h.silent hkind]
    exact fun s => (Streams.append_empty s.heard).symm
  | some kind => exact (adds_block (h.block hkind)).1

/-- What is no stream could as well be missing. -/
theorem Blocks.flatMap_filter (h : Blocks kind? events) (items : List σ) :
    (items.filter fun i => (kind? i).isSome).flatMap events = items.flatMap events := by
  induction items with
  | nil => rfl
  | cons i rest ih =>
    cases hkind : kind? i with
    | none =>
      rw [List.filter_cons_of_neg (by simp [hkind]), ih, List.flatMap_cons, h.silent hkind,
        List.nil_append]
    | some kind =>
      rw [List.filter_cons_of_pos (by simp [hkind]), List.flatMap_cons, ih, List.flatMap_cons]

/-- A row of items is heard as what each of them tells. -/
theorem Blocks.told_flatMap (h : Blocks kind? events) (items : List σ) :
    told (items.flatMap events) = .concat (items.map fun i => told (events i)) := by
  have hrun : ∀ s : Survey, (s.run (items.flatMap events)).heard =
      s.heard ++ .concat (items.map fun i => told (events i)) := by
    induction items with
    | nil => exact fun s => (Streams.append_empty s.heard).symm
    | cons i rest ih =>
      intro s
      rw [List.flatMap_cons, run_append, ih, h.adds, Streams.append_assoc]
      rfl
  exact (hrun start).trans (Streams.empty_append _)

end Rows

/-! ## Finished descriptors -/

/-- Closing a survey changes nothing that is heard of its streams. -/
theorem Survey.heard_finish (s : Survey) : s.finish.streams.measured = s.heard := by
  have hfilled : (s.found.modifyFirstAudio (SongTags.fillIn s.tags)).audioTracks.map
      AudioTrack.measured = s.found.audioTracks.map AudioTrack.measured := by
    unfold Descriptor.modifyFirstAudio
    cases s.found.audioTracks <;> rfl
  rw [finish_eq]
  by_cases htype : s.found.streamsType = .audio
  · simp only [htype, if_true, heard, Descriptor.streams, Streams.measured, hfilled]
  · simp only [htype, if_false, heard, Descriptor.streams, Streams.measured]

section

open Survey SurveyEvent

variable {σ : Type} {kind? : σ → Option StreamKind} {events : σ → List SurveyEvent}
variable {items : List σ} {all : List SurveyEvent}

theorem Survey.toNat_numbers {τ : Type} {tracks : List τ} {number : τ → UInt32} {n : Nat}
    (h : tracks.map number = numbers n) (hfew : tracks.length < UInt32.size) :
    tracks.map (fun t => (number t).toNat) = List.range tracks.length := by
  have hlength : tracks.length = n := by rw [← List.length_map, h, length_numbers]
  have hsame : tracks.map (fun t => (number t).toNat) = (numbers n).map UInt32.toNat := by
    rw [← h, List.map_map]
    rfl
  rw [hlength] at hfew ⊢
  rw [hsame, numbers, List.map_map]
  refine (List.map_congr_left (g := id) fun i hi => ?_).trans (List.map_id _)
  exact UInt32.toNat_ofNat_of_lt' (Nat.lt_trans (List.mem_range.mp hi) hfew)

/-- The tracks of a finished survey are numbered in their order. -/
theorem Survey.numbers_finish (all : List SurveyEvent) :
    let d := (start.run all).finish
    d.audioTracks.map (·.number) = numbers (all.countP (begins .audio)) ∧
      d.subtitleTracks.map (·.number) = numbers (all.countP (begins .text)) := by
  intro d
  constructor
  · have hlabels := congrArg (List.map Label.number) (labels_finish all)
    rw [List.map_map, List.map_map] at hlabels
    exact hlabels
  · show (start.run all).finish.subtitleTracks.map _ = _
    rw [finish_eq]
    exact congrArg Roll.subtitles (roll_run all)

/-- **A descriptor accounts for the streams of a report** if they are what was heard in it. -/
theorem accounts_of_heard (h : Blocks kind? events)
    (hheard : told all = .concat (items.map fun i => told (events i)))
    (hfew : Numerable kind? items) : Accounts kind? events items (start.run all).finish := by
  -- the values of the tracks were heard stream by stream, their numbers come from the roll
  have hrow := h.rowOf items
  have hfinish : (start.run all).finish.streams.measured = told all := heard_finish _
  rw [← hheard, ← hfinish] at hrow
  obtain ⟨haudio, hsubtitles, hvideos, himages⟩ := hrow
  obtain ⟨hnumbers, hnumbers'⟩ := numbers_finish all
  generalize (start.run all).finish = d at haudio hsubtitles hvideos himages hnumbers hnumbers' ⊢
  have haudioTracks : List.Forall₂ (fun t i => t.IsToldBy (events i)) d.audioTracks
      (items.filter (kind? · == some .audio)) := List.forall₂_map_left_iff.mp haudio
  have hsubtitleTracks : List.Forall₂ (fun t i => t.IsToldBy (events i)) d.subtitleTracks
      (items.filter (kind? · == some .text)) := List.forall₂_map_left_iff.mp hsubtitles
  have haudioLength : d.audioTracks.length < UInt32.size := by
    rw [haudioTracks.length_eq, ← List.countP_eq_length_filter]
    exact hfew .audio (by simp)
  have hsubtitleLength : d.subtitleTracks.length < UInt32.size := by
    rw [hsubtitleTracks.length_eq, ← List.countP_eq_length_filter]
    exact hfew .text (by simp)
  refine ⟨haudioTracks, hsubtitleTracks, toNat_numbers hnumbers haudioLength,
    toNat_numbers hnumbers' hsubtitleLength, ?_, ?_⟩
  · exact (congrArg UInt32.toNat hvideos).trans (UInt32.toNat_ofNat_of_lt' (hfew .video (by simp)))
  · exact (congrArg UInt32.toNat himages).trans (UInt32.toNat_ofNat_of_lt' (hfew .image (by simp)))

end

end MediaIndex
