import MediaIndex.Survey
import MediaIndex.Proofs.Vocabulary
import MediaIndex.Proofs.Recognition

/-!
# What a report can do to the level

A level is read for the codec that is known at that moment, and the codec may be replaced later. So
whether the level of a finished survey is one of its codec is a question about the order of events,
and the answer is in this file.

The fields that bear on it are few, and they are gathered in `Survey.Core`. What one event can do to
them is said once, in `reads_field`; everything after that is about cores, and no proof looks into a
step again. The two facts that a step keeps are

* `Core.Linked`: while only one video stream has begun, the codec that is written down is the one
  that is known, and
* `Core.Fits`: the level is one of the codec that is written down.

The first is kept by all events, the second by all but those that may name another codec
(`mayRename`).
-/

set_option autoImplicit false

namespace MediaIndex

/-- The names of fields that can name a codec, or a profile with a level. -/
def FieldName.isFormatField : FieldName → Bool
  | .format | .formatVersion | .formatProfile | .formatFeatures | .codecId => true
  | _ => false

theorem Quantity.duration?_isNumber {value : String} {x : Float}
    (h : x ∈ Quantity.duration? value) : Number.isNotANumber x = false := by
  unfold Quantity.duration? at h
  split at h
  · exact absurd h (by simp)
  · obtain ⟨-, hx⟩ := Option.mem_filter_iff.mp h
    have hfinite : Number.isFinite x = true := by
      rw [Bool.and_eq_true] at hx
      exact hx.1
    unfold Number.isFinite at hfinite
    unfold Number.isNotANumber
    split at hfinite
    · rename_i hparts
      rw [hparts]
    · exact absurd hfinite (by simp)

/-- The name that a container has where it holds audio alone. -/
def Format.asAudio (f : Format) : Format := f.audioVariant?.getD f

/-! ## Parts of a descriptor -/

/-- The streams that a descriptor tells of. -/
structure Streams where
  audio : List AudioTrack
  subtitles : List SubtitleTrack
  videos : UInt32
  images : UInt32

def Descriptor.streams (d : Descriptor) : Streams :=
  ⟨d.audioTracks, d.subtitleTracks, d.videoTrackCount, d.imageCount⟩

/-- What a format of the file, or of its video, is written down in, and the duration. -/
structure Formats where
  container : Option Format
  videoCodec : Option Format
  videoLevel : Option Level
  duration : Option Float

def Descriptor.formats (d : Descriptor) : Formats :=
  ⟨d.container, d.videoCodec, d.videoLevel, d.duration⟩

/-- What an audio track is called: its number, and its song tags. -/
structure Label where
  number : UInt32
  song : SongTags := {}
  deriving DecidableEq

def AudioTrack.label (t : AudioTrack) : Label :=
  ⟨t.number, t.album, t.artist, t.songName, t.songNumber, t.year, t.genre⟩

namespace Survey

/-! ## The core of a survey -/

/-- What bears on the level: the codec that is known, the codec and the level that are written down,
and how many video streams have begun. The duration is here as the other field that the cache could
lose. -/
structure Core where
  known : Option Format
  codec : Option Format
  level : Option Level
  streams : UInt32
  duration : Option Float

def core (s : Survey) : Core where
  known := s.known.videoCodec
  codec := s.found.videoCodec
  level := s.found.videoLevel
  streams := s.found.videoTrackCount
  duration := s.found.duration

namespace Core

/-- A format is settled for the video. It is written down for an image, and for the first video
stream. -/
def named (v : Core) (kind : StreamKind) (f : Format) : Core :=
  { v with known := some f, codec := if kind = .image ∨ v.streams ≤ 1 then some f else v.codec }

/-- A level is read for the codec that is known. -/
def leveled (v : Core) (raw : String) : Core :=
  { v with level := (ProfileLevel.ofText v.known raw).level }

end Core

/-- What a field of a stream can do to the core. The conditions say when: a codec is named by the
format fields of video streams and images, though not by a profile of a video stream, nor by an
identifier where the codec is known already; a level is read only while the first video stream is
described. -/
inductive Reads (kind : StreamKind) (name : FieldName) (v : Core) : Core → Prop where
  | nothing : Reads kind name v v
  | codec (f : Format) (hkind : kind = .video ∨ kind = .image) (hname : name.isFormatField = true)
      (hprofile : name = .formatProfile → kind = .image)
      (hid : name = .codecId → kind = .video → v.known = none) : Reads kind name v (v.named kind f)
  | level (raw : String) (hkind : kind = .video) (hname : name.isFormatField = true)
      (hfirst : v.streams ≤ 1) : Reads kind name v (v.leveled raw)
  | duration (x : Option Float) (hx : ∀ y ∈ x, Number.isNotANumber y = false) :
      Reads kind name v { v with duration := x }

variable {s : Survey} {kind : StreamKind} {name : FieldName} {value : String}

/-! ## What plain values leave alone -/

/-- All that a format is settled or written down in, and what goes with it. The audio codec is that
of the track that began last, if one did. -/
structure Books where
  known : Settled
  container : Option Format
  videoCodec : Option Format
  videoLevel : Option Level
  lastAudio : Option (Option Format)
  streams : UInt32
  duration : Option Float

def books (s : Survey) : Books where
  known := s.known
  container := s.found.container
  videoCodec := s.found.videoCodec
  videoLevel := s.found.videoLevel
  lastAudio := s.found.audioTracks.getLast?.map (·.codec)
  streams := s.found.videoTrackCount
  duration := s.found.duration

theorem core_of_books {t : Survey} (h : s.books = t.books) : s.core = t.core :=
  congrArg (fun b : Books =>
    (⟨b.known.videoCodec, b.videoCodec, b.videoLevel, b.streams, b.duration⟩ : Core)) h

theorem books_of_parts {t : Survey} (hknown : t.known = s.known)
    (hstreams : t.found.streams = s.found.streams) (hformats : t.found.formats = s.found.formats) :
    t.books = s.books := by
  have hparts : ∀ u : Survey, u.books =
      ⟨u.known, u.found.formats.container, u.found.formats.videoCodec, u.found.formats.videoLevel,
        u.found.streams.audio.getLast?.map (·.codec), u.found.streams.videos,
        u.found.formats.duration⟩ := fun _ => rfl
  rw [hparts, hparts, hknown, hstreams, hformats]

/-- What a change of the description leaves alone, it leaves alone where it is not made. -/
theorem view_describeVideo {α : Type} (view : Survey → α) {f : Descriptor → Descriptor}
    (h : view (s.describe f) = view s) : view (s.describeVideo f) = view s := by
  unfold describeVideo
  split
  · exact h
  · rfl

/-- **By which hand a field is written down.** A field that may name a format is taken for a token,
unless it is the profile of a video. Every other field goes to the file, to the track that began
last, or to the tags that are kept aside, and leaves there what is not its own: the streams that
have begun, what they are numbered and called, and, but for the duration, all that a format is
written down in. -/
inductive Written (s : Survey) (kind : StreamKind) (name : FieldName) : Survey → Prop where
  | nothing : Written s kind name s
  | token (value : String) (hname : name.isFormatField = true) :
      Written s kind name (s.classify kind value)
  | file (f : Descriptor → Descriptor) (hstreams : ∀ d, (f d).streams = d.streams)
      (hformats : name.isFormatField = false → name ≠ .duration →
        ∀ d, (f d).formats = d.formats) : Written s kind name (s.describe f)
  | audio (f : AudioTrack → AudioTrack) (hkind : kind = .audio)
      (hcodec : ∀ t, (f t).codec = t.codec) (hlabel : ∀ t, (f t).label = t.label) :
      Written s kind name (s.describeAudio f)
  | subtitle (f : SubtitleTrack → SubtitleTrack) (hkind : kind = .text)
      (hnumber : ∀ t, (f t).number = t.number) : Written s kind name (s.describeSubtitle f)
  | tag (f : SongTags → SongTags) (hkind : kind = .general) : Written s kind name (s.keepTag f)

/-- A field of the first video stream, or of an image, goes to the file. -/
theorem written_describeVideo {f : Descriptor → Descriptor}
    (hstreams : ∀ d, (f d).streams = d.streams)
    (hformats : name.isFormatField = false → name ≠ .duration →
      ∀ d, (f d).formats = d.formats) : Written s kind name (s.describeVideo f) := by
  unfold describeVideo
  split
  · exact .file f hstreams hformats
  · exact .nothing

theorem written_setVideoField (s : Survey) (kind : StreamKind) (name : FieldName)
    (value : String) : Written s kind name (s.setVideoField name value) := by
  refine .file _ (fun d => ?_) fun _ _ d => ?_
  · cases name <;> simp only [Descriptor.streams]
  · cases name <;> simp only [Descriptor.formats]

theorem written_setAudioField (s : Survey) (name : FieldName) (value : String) :
    Written s .audio name (s.setAudioField name value) := by
  refine .audio _ rfl (fun t => ?_) fun t => ?_
  · cases name <;> simp only
  · cases name <;> simp only [AudioTrack.label]

theorem written_setSubtitleField (s : Survey) (name : FieldName) (value : String) :
    Written s .text name (s.setSubtitleField name value) := by
  refine .subtitle _ rfl fun t => ?_
  cases name <;> rfl

theorem written_setGeneralField (s : Survey) (name : FieldName) (value : String) :
    Written s .general name (s.setGeneralField name value) := by
  unfold setGeneralField
  cases name with
  | overallBitrate | overallBitrateMode | bitrateMode | fileSize =>
    refine .file _ (fun _ => ?_) fun _ _ _ => ?_ <;>
      simp only [Descriptor.streams, Descriptor.formats]
  | title | track | album | performer | genre | trackPosition | recordedDate =>
    exact .tag _ rfl
  | _ => exact .nothing

theorem written_setField (s : Survey) (kind : StreamKind) (name : FieldName) (value : String) :
    Written s kind name (s.setField kind name value) := by
  unfold setField
  cases name with
  | extra key =>
    refine .file _ (fun _ => ?_) fun _ _ _ => ?_ <;>
      simp only [Descriptor.streams, Descriptor.formats]
  | format | formatVersion | formatFeatures => exact .token value rfl
  | formatProfile =>
    dsimp only
    split
    · refine written_describeVideo (fun _ => ?_) fun hname => ?_
      · simp only [Descriptor.streams, setProfile]
      · exact absurd hname (by simp [FieldName.isFormatField])
    · exact .token value rfl
  | codecId =>
    dsimp only
    split
    · exact .nothing
    · exact .token value rfl
  | duration =>
    dsimp only
    split
    · exact .file _ (fun _ => by simp only [Descriptor.streams]) fun _ hname => absurd rfl hname
    · exact .nothing
  | bitrate =>
    cases kind with
    | video =>
      dsimp only
      split
      · refine .file _ (fun _ => ?_) fun _ _ _ => ?_ <;>
          simp only [Descriptor.streams, Descriptor.formats]
      · exact .nothing
    | audio => exact written_setAudioField s .bitrate value
    | text => exact written_setSubtitleField s .bitrate value
    | general => exact written_setGeneralField s .bitrate value
    | image => exact .nothing
  | width | height =>
    cases kind with
    | video | image =>
      refine written_describeVideo (fun _ => ?_) fun _ _ _ => ?_ <;>
        simp only [Descriptor.streams, Descriptor.formats]
    | audio => exact written_setAudioField s _ value
    | text => exact written_setSubtitleField s _ value
    | general => exact written_setGeneralField s _ value
  | _ =>
    cases kind with
    | video =>
      dsimp only
      split
      · exact written_setVideoField s .video _ value
      · exact .nothing
    | audio => exact written_setAudioField s _ value
    | text => exact written_setSubtitleField s _ value
    | general => exact written_setGeneralField s _ value
    | image => exact .nothing

/-- A field that is no format field and no duration leaves the books alone. -/
theorem books_setField (hname : name.isFormatField = false) (hduration : name ≠ .duration) :
    (s.setField kind name value).books = s.books := by
  have hwritten := written_setField s kind name value
  generalize s.setField kind name value = t at hwritten ⊢
  cases hwritten with
  | nothing | subtitle | tag => rfl
  | token value hformat => exact absurd hformat (by simp [hname])
  | file f hstreams hformats =>
    exact books_of_parts rfl (hstreams s.found) (hformats hname hduration s.found)
  | audio f _ hcodec _ =>
    unfold describeAudio describe books
    simp only [getLast?_modifyLast, Option.map_map, Function.comp_def, hcodec]

/-! ## What a field can do -/

theorem core_describeFormat (kind : StreamKind) (f : Format) :
    (s.describeFormat kind f).core =
      if kind = .image ∨ (kind = .video ∧ s.core.streams ≤ 1) then { s.core with codec := some f }
      else s.core := by
  cases kind with
  | video =>
    unfold describeFormat describeVideo atFirstVideo
    by_cases hfirst : s.found.videoTrackCount ≤ 1 <;> simp [core, describe, hfirst]
  | _ => rfl

theorem core_setProfile (p : ProfileLevel) :
    (s.describeVideo (setProfile p)).core =
      if s.core.streams ≤ 1 then { s.core with level := p.level } else s.core := by
  unfold describeVideo atFirstVideo
  by_cases hfirst : s.found.videoTrackCount ≤ 1 <;> simp [core, describe, setProfile, hfirst]

theorem videoCodec_apply (known : Settled) (kind : StreamKind) (r : Recognition) :
    (known.apply kind r).videoCodec =
      match r.meaning with
      | some (.format f) => if kind = .video ∨ kind = .image then some f else known.videoCodec
      | _ => known.videoCodec := by
  rw [Settled.apply_eq]
  cases r.meaning with
  | none => rfl
  | some m =>
    cases m with
    | format f => cases kind <;> rfl
    | _ => rfl

/-- A survey with a token settled and the container written down. -/
def settleToken (s : Survey) (kind : StreamKind) (r : Recognition) : Survey :=
  match r.container with
  | some container =>
    describe { s with known := s.known.apply kind r } fun d =>
      { d with container := some container }
  | none => { s with known := s.known.apply kind r }

theorem classify_eq (s : Survey) (kind : StreamKind) (value : String) {r : Recognition}
    (hr : recognise kind value s.known = r) :
    s.classify kind value =
      if r.isEmpty then s
      else match r.meaning with
        | some m => (s.settleToken kind r).describeMeaning kind m
        | none => s.settleToken kind r := by
  simp only [classify, hr]
  rfl

theorem core_settleToken (kind : StreamKind) (r : Recognition) :
    (s.settleToken kind r).core = { s.core with known := (s.known.apply kind r).videoCodec } := by
  unfold settleToken
  split <;> rfl

theorem Core.named_of_kind {v : Core} (hkind : kind = .video ∨ kind = .image) (f : Format) :
    (if kind = .image ∨ (kind = .video ∧ v.streams ≤ 1) then
        { v with known := some f, codec := some f }
      else { v with known := some f }) = v.named kind f := by
  rcases hkind with rfl | rfl
  · by_cases hfirst : v.streams ≤ 1 <;> simp [Core.named, hfirst]
  · simp [Core.named]

/-- **What a token does to the core**, where it counts at all. A video profile and the identifier of
a video stream with a codec are never handed to `classify`. -/
theorem reads_classify (hname : name.isFormatField = true)
    (hprofile : name = .formatProfile → kind ≠ .video)
    (hid : name = .codecId → kind = .video → s.known.videoCodec = none) (value : String) :
    Reads kind name s.core (s.classify kind value).core := by
  cases hr : recognise kind value s.known with
  | mk meaning container =>
  have hcore := core_settleToken (s := s) kind ⟨meaning, container⟩
  rw [videoCodec_apply] at hcore
  rw [classify_eq s kind value hr]
  split
  · exact .nothing
  cases meaning with
  | none =>
    have hsame : (s.settleToken kind ⟨none, container⟩).core = s.core := hcore
    dsimp only
    rw [hsame]
    exact .nothing
  | some m =>
    cases m with
    | format f =>
      dsimp only [describeMeaning] at hcore ⊢
      by_cases hkind : kind = .video ∨ kind = .image
      · rw [core_describeFormat, hcore, if_pos hkind]
        dsimp only
        rw [Core.named_of_kind hkind]
        exact .codec f hkind hname (fun hp => hkind.resolve_left (hprofile hp)) hid
      · have hneither : ¬(kind = .image ∨ kind = .video ∧ s.core.streams ≤ 1) := by
          rintro (h | ⟨h, -⟩)
          · exact hkind (Or.inr h)
          · exact hkind (Or.inl h)
        rw [core_describeFormat, hcore, if_neg hkind, if_neg hneither]
        exact .nothing
    | subtitle f =>
      have hsame : ((s.settleToken kind ⟨some (.subtitle f), container⟩).describeSubtitle
          fun t => { t with format := some f }).core = s.core := hcore
      dsimp only [describeMeaning]
      rw [hsame]
      exact .nothing
    | profileLevel p =>
      obtain ⟨hkind, token, rfl⟩ := profile_of_recognise (by rw [hr])
      dsimp only [describeMeaning] at hcore ⊢
      rw [core_setProfile, hcore]
      by_cases hfirst : s.core.streams ≤ 1
      · rw [if_pos hfirst]
        exact .level token hkind hname hfirst
      · rw [if_neg hfirst]
        exact .nothing

theorem reads_formatField (hname : name.isFormatField = true) :
    Reads kind name s.core (s.setField kind name value).core := by
  cases name with
  | formatProfile =>
    show Reads kind .formatProfile s.core
      (if kind = .video then s.describeVideo (setProfile (.ofText s.known.videoCodec value))
        else s.classify kind value).core
    by_cases hkind : kind = .video
    · rw [if_pos hkind, core_setProfile]
      by_cases hfirst : s.core.streams ≤ 1
      · rw [if_pos hfirst]
        exact .level value hkind rfl hfirst
      · rw [if_neg hfirst]
        exact .nothing
    · rw [if_neg hkind]
      exact reads_classify rfl (fun _ => hkind) (fun h => absurd h (by simp)) value
  | format | formatVersion | formatFeatures =>
    exact reads_classify rfl (fun h => absurd h (by simp)) (fun h => absurd h (by simp)) value
  | codecId =>
    show Reads kind .codecId s.core (if s.hasCodec kind then s else s.classify kind value).core
    by_cases hcodec : s.hasCodec kind = true
    · rw [if_pos hcodec]
      exact .nothing
    · rw [if_neg hcodec]
      refine reads_classify rfl (fun h => absurd h (by simp)) (fun _ hkind => ?_) value
      subst hkind
      simpa [hasCodec] using hcodec
  | _ => exact absurd hname (by simp [FieldName.isFormatField])

/-- **What a field does to the core**, whatever field it is. -/
theorem reads_setField (s : Survey) (kind : StreamKind) (name : FieldName) (value : String) :
    Reads kind name s.core (s.setField kind name value).core := by
  by_cases hname : name.isFormatField = true
  · exact reads_formatField hname
  by_cases hduration : name = .duration
  · subst hduration
    unfold setField
    dsimp only
    split
    · have hmeasured : (s.describe fun d => { d with duration := Quantity.duration? value }).core =
          { s.core with duration := Quantity.duration? value } := by
        simp only [core, describe]
      rw [hmeasured]
      exact .duration _ fun x hx => Quantity.duration?_isNumber hx
    · exact .nothing
  · rw [core_of_books (books_setField (by simpa using hname) hduration)]
    exact .nothing

theorem reads_field (s : Survey) (kind : StreamKind) (name : FieldName) (value : String) :
    Reads kind name s.core (s.field kind name value).core := by
  unfold field
  cases Text.nonBlank? value with
  | none => exact .nothing
  | some value => exact reads_setField s kind name value

/-! ## What every report keeps -/

variable {v w : Core}

theorem core_beginStream (s : Survey) (kind : StreamKind) :
    (s.beginStream kind).core =
      if kind = .video then { s.core with streams := s.core.streams + 1 } else s.core := by
  cases kind <;> rfl

theorem core_step_begin (s : Survey) (hkind : kind ≠ .video) :
    (s.step (.begin kind)).core = s.core := by
  rw [step, core_beginStream, if_neg hkind]

/-- The duration, if there is one, is a number. -/
def Core.Measured (v : Core) : Prop := ∀ x ∈ v.duration, Number.isNotANumber x = false

theorem Reads.measured (h : Reads kind name v w) (hv : v.Measured) : w.Measured := by
  cases h with
  | duration x hx => exact hx
  | _ => exact hv

theorem measured_step (h : s.core.Measured) (e : SurveyEvent) : (s.step e).core.Measured := by
  cases e with
  | begin kind =>
    rw [step, core_beginStream]
    split <;> exact h
  | field kind name value =>
    rw [step]
    exact (reads_field s kind name value).measured h
  | thumbnail t => exact h
  | size n => exact h

/-- **No report makes the duration anything but a number.** -/
theorem measured_run (h : s.core.Measured) (events : List SurveyEvent) :
    (s.run events).core.Measured := by
  induction events generalizing s with
  | nil => exact h
  | cons e rest ih => exact ih (measured_step h e)

/-! ## When the level stays one of the codec -/

namespace Core

/-- The level, if there is one, is one of the codec that is written down. -/
def Fits (v : Core) : Prop :=
  ∀ level ∈ v.level, v.codec.bind Format.levelFamily? = some level.family

/-- The codec of the first video stream is written down as it is known. -/
def Linked (v : Core) : Prop := v.streams ≤ 1 → v.codec = v.known

/-- What the events between two renamings keep. -/
structure Steady (v : Core) : Prop where
  fits : v.Fits
  linked : v.Linked

theorem fits_of_level (h : v.level = none) : v.Fits := by
  intro level hlevel
  rw [h] at hlevel
  exact absurd hlevel (by simp)

theorem Fits.level_of_codec (h : v.Fits) (hcodec : v.codec = none) : v.level = none := by
  cases hlevel : v.level with
  | none => rfl
  | some level =>
    have hfamily := h level hlevel
    rw [hcodec] at hfamily
    exact absurd hfamily (by simp)

/-- After the first video stream a codec is known, but not written down. -/
theorem Fits.named_later (h : v.Fits) (hlater : ¬v.streams ≤ 1) (f : Format) :
    (v.named .video f).Fits := by
  have hsame : (v.named .video f).codec = v.codec := by simp [Core.named, hlater]
  intro level hlevel
  rw [hsame]
  exact h level hlevel

theorem linked_named (v : Core) (kind : StreamKind) (f : Format) : (v.named kind f).Linked := by
  intro hfirst
  have hwritten : kind = .image ∨ v.streams ≤ 1 := Or.inr hfirst
  simp only [Core.named, if_pos hwritten]

theorem Linked.fits_leveled (h : v.Linked) (hfirst : v.streams ≤ 1) (raw : String) :
    (v.leveled raw).Fits := by
  intro level hlevel
  show v.codec.bind Format.levelFamily? = _
  rw [h hfirst]
  exact ProfileLevel.family_ofText hlevel

end Core

end Survey

namespace SurveyEvent

/-- Whether an event names no codec. The identifier of a video stream is passed over where a codec
is known, and the profile of a video stream is never taken for a codec. -/
def keepsCodec : SurveyEvent → Bool
  | .begin kind => kind != .video
  | .field .video name _ => !([.format, .formatVersion, .formatFeatures].contains name)
  | .field .image name _ => !name.isFormatField
  | _ => true

end SurveyEvent

namespace Survey

variable {s : Survey} {v w : Core} {kind : StreamKind} {name : FieldName} {value : String}

/-- **A field that names no codec keeps the level one of the codec.** -/
theorem Reads.steady (h : Reads kind name v w) (hv : v.Steady)
    (hkeeps : (SurveyEvent.field kind name value).keepsCodec = true) : w.Steady := by
  cases h with
  | nothing => exact hv
  | codec f hkind hname hprofile hid =>
    rcases hkind with rfl | rfl
    · -- of the format fields of a video stream only the identifier is left
      have hidentifier : name = .codecId := by
        cases name with
        | codecId => rfl
        | formatProfile => exact absurd (hprofile rfl) (by simp)
        | format | formatVersion | formatFeatures =>
          exact absurd hkeeps (by simp [SurveyEvent.keepsCodec])
        | _ => exact absurd hname (by simp [FieldName.isFormatField])
      refine ⟨?_, v.linked_named .video f⟩
      by_cases hfirst : v.streams ≤ 1
      · -- it counts only while no codec is known, and then there is no level either
        have hnone : v.codec = none := (hv.linked hfirst).trans (hid hidentifier rfl)
        exact Core.fits_of_level (hv.fits.level_of_codec hnone)
      · exact hv.fits.named_later hfirst f
    · exact absurd hkeeps (by simp [SurveyEvent.keepsCodec, hname])
  | level raw hkind hname hfirst => exact ⟨hv.linked.fits_leveled hfirst raw, hv.linked⟩
  | duration x hx => exact ⟨hv.fits, hv.linked⟩

theorem steady_step (h : s.core.Steady) {e : SurveyEvent} (hkeeps : e.keepsCodec = true) :
    (s.step e).core.Steady := by
  cases e with
  | begin kind =>
    have hother : kind ≠ .video := by simpa [SurveyEvent.keepsCodec] using hkeeps
    rw [core_step_begin s hother]
    exact h
  | field kind name value =>
    rw [step]
    exact (reads_field s kind name value).steady h hkeeps
  | thumbnail t => exact h
  | size n => exact h

theorem Reads.streams (h : Reads kind name v w) : w.streams = v.streams := by
  cases h <;> rfl

theorem streams_step {e : SurveyEvent} (hkeeps : e.keepsCodec = true) :
    (s.step e).core.streams = s.core.streams := by
  cases e with
  | begin kind =>
    have hother : kind ≠ .video := by simpa [SurveyEvent.keepsCodec] using hkeeps
    rw [core_step_begin s hother]
  | field kind name value =>
    rw [step]
    exact (reads_field s kind name value).streams
  | thumbnail t => rfl
  | size n => rfl

/-- **Events that name no codec** keep the level one of the codec, however many they are. -/
theorem steady_run (h : s.core.Steady) {events : List SurveyEvent}
    (hkeeps : ∀ e ∈ events, e.keepsCodec = true) :
    (s.run events).core.Steady ∧ (s.run events).core.streams = s.core.streams := by
  induction events generalizing s with
  | nil => exact ⟨h, rfl⟩
  | cons e rest ih =>
    have he := hkeeps e List.mem_cons_self
    obtain ⟨hsteady, hstreams⟩ :=
      ih (steady_step h he) fun e' he' => hkeeps e' (List.mem_cons_of_mem _ he')
    exact ⟨hsteady, hstreams.trans (streams_step he)⟩

/-! ## One stream after another -/

namespace Core

/-- Nothing is known of any video. -/
structure Bare (v : Core) : Prop where
  known : v.known = none
  codec : v.codec = none
  level : v.level = none

/-- What holds between two streams of a report without images. -/
structure Quiet (v : Core) : Prop where
  steady : v.Steady
  bare : v.streams = 0 → v.Bare

/-- No level is written down, and the codec is the one that is known. -/
structure Open (v : Core) : Prop where
  level : v.level = none
  linked : v.Linked

theorem Open.steady (h : v.Open) : v.Steady := ⟨fits_of_level h.level, h.linked⟩

theorem Bare.opened (h : v.Bare) : v.Open := ⟨h.level, fun _ => h.codec.trans h.known.symm⟩

end Core

/-- The first format field of the first video stream cannot find a level, as no codec is known. -/
theorem Reads.opened (h : Reads .video name v w) (hv : v.Bare) : w.Open := by
  cases h with
  | nothing => exact hv.opened
  | codec f _ _ _ _ => exact ⟨hv.level, v.linked_named .video f⟩
  | level raw _ _ _ =>
    have hnone : (ProfileLevel.ofText v.known raw).level = none := by
      rw [hv.known]
      exact ProfileLevel.level_ofText_none raw
    exact ⟨hnone, hv.opened.linked⟩
  | duration x hx => exact ⟨hv.level, hv.opened.linked⟩

/-- The next one may name another codec, as no level is lost, or find the first level. -/
theorem Reads.steady_of_open (h : Reads .video name v w) (hv : v.Open) : w.Steady := by
  cases h with
  | nothing => exact hv.steady
  | codec f _ _ _ _ => exact ⟨Core.fits_of_level hv.level, v.linked_named .video f⟩
  | level raw _ _ hfirst => exact ⟨hv.linked.fits_leveled hfirst raw, hv.linked⟩
  | duration x hx => exact ⟨Core.fits_of_level hv.level, hv.linked⟩

/-- After the first video stream no field of a video changes what is written down. -/
theorem Reads.steady_of_later (h : Reads .video name v w) (hv : v.Steady)
    (hlater : ¬v.streams ≤ 1) : w.Steady := by
  cases h with
  | nothing => exact hv
  | codec f _ _ _ _ => exact ⟨hv.fits.named_later hlater f, v.linked_named .video f⟩
  | level raw _ _ hfirst => exact absurd hfirst hlater
  | duration x hx => exact ⟨hv.fits, hv.linked⟩

theorem run_append (s : Survey) (events later : List SurveyEvent) :
    s.run (events ++ later) = (s.run events).run later :=
  List.foldl_append

/-- A field that may be missing. -/
def fieldIfAny (kind : StreamKind) (name : FieldName) (value : Option String) : List SurveyEvent :=
  (value.map (SurveyEvent.field kind name)).toList

theorem run_fieldIfAny_some (s : Survey) (kind : StreamKind) (name : FieldName) (v : String) :
    s.run (fieldIfAny kind name (some v)) = s.field kind name v := by
  simp only [fieldIfAny, Option.map_some, Option.toList_some, run, List.foldl_cons, List.foldl_nil,
    step]

theorem streams_fieldIfAny (s : Survey) (kind : StreamKind) (name : FieldName)
    (value : Option String) :
    (s.run (fieldIfAny kind name value)).core.streams = s.core.streams := by
  cases value with
  | none => rfl
  | some v =>
    rw [run_fieldIfAny_some]
    exact (reads_field s kind name v).streams

theorem open_fieldIfAny (h : s.core.Bare) (name : FieldName) (value : Option String) :
    (s.run (fieldIfAny .video name value)).core.Open := by
  cases value with
  | none => exact h.opened
  | some v =>
    rw [run_fieldIfAny_some]
    exact (reads_field s .video name v).opened h

theorem steady_fieldIfAny (h : s.core.Open) (name : FieldName) (value : Option String) :
    (s.run (fieldIfAny .video name value)).core.Steady := by
  cases value with
  | none => exact h.steady
  | some v =>
    rw [run_fieldIfAny_some]
    exact (reads_field s .video name v).steady_of_open h

theorem steady_fieldIfAny_later (h : s.core.Steady) (hlater : ¬s.core.streams ≤ 1)
    (name : FieldName) (value : Option String) :
    (s.run (fieldIfAny .video name value)).core.Steady := by
  cases value with
  | none => exact h
  | some v =>
    rw [run_fieldIfAny_some]
    exact (reads_field s .video name v).steady_of_later h hlater

/-- **A video stream**, told by its format, then by its version, then by fields that name no codec,
leaves a level of its codec, be it the first one or a later one. -/
theorem quiet_videoStream (h : s.core.Quiet) (hroom : s.core.streams.toNat + 1 < UInt32.size)
    (format version : Option String) {rest : List SurveyEvent}
    (hrest : ∀ e ∈ rest, e.keepsCodec = true) :
    let t := s.run (.begin .video :: (fieldIfAny .video .format format ++
      fieldIfAny .video .formatVersion version ++ rest))
    t.core.Quiet ∧ t.core.streams = s.core.streams + 1 := by
  intro t
  let begun := s.step (.begin .video)
  let named := begun.run (fieldIfAny .video .format format)
  let versioned := named.run (fieldIfAny .video .formatVersion version)
  have ht : t = versioned.run rest := by
    show (begun.run _) = _
    rw [run_append, run_append]
  have hnamed : named.core.streams = s.core.streams + 1 := streams_fieldIfAny begun _ _ _
  have hversioned : versioned.core.streams = s.core.streams + 1 :=
    (streams_fieldIfAny named _ _ _).trans hnamed
  -- the count of streams must not begin again, or a later stream would be taken for the first
  have hnext : (s.core.streams + 1).toNat = s.core.streams.toNat + 1 := by
    rw [UInt32.toNat_add]
    exact Nat.mod_eq_of_lt hroom
  have hsteady : versioned.core.Steady := by
    by_cases hfirst : s.core.streams = 0
    · have hbare : begun.core.Bare :=
        ⟨(h.bare hfirst).known, (h.bare hfirst).codec, (h.bare hfirst).level⟩
      exact steady_fieldIfAny (open_fieldIfAny hbare _ _) _ _
    · have hlater : ¬s.core.streams + 1 ≤ 1 := by
        rw [UInt32.le_iff_toNat_le, hnext]
        have hpos : s.core.streams.toNat ≠ 0 := fun h0 => hfirst (UInt32.toNat_inj.mp h0)
        show ¬s.core.streams.toNat + 1 ≤ 1
        omega
      have hbegun : begun.core.Steady := ⟨h.steady.fits, fun hle => absurd hle hlater⟩
      refine steady_fieldIfAny_later (steady_fieldIfAny_later hbegun hlater _ _) ?_ _ _
      rw [hnamed]
      exact hlater
  obtain ⟨hlast, hstreams⟩ := steady_run hsteady hrest
  rw [← ht] at hlast hstreams
  have hcount : t.core.streams = s.core.streams + 1 := hstreams.trans hversioned
  refine ⟨⟨hlast, fun hzero => ?_⟩, hcount⟩
  have hzero' : (s.core.streams + 1).toNat = 0 := by rw [← hcount, hzero]; rfl
  omega

/-- Whether an event is of no account for codecs and levels: it is about a stream of another kind,
or it is no format field. -/
def isOther : SurveyEvent → Bool
  | .begin kind => kind != .video
  | .field kind name _ => (kind != .video && kind != .image) || !name.isFormatField
  | _ => true

theorem isOther_field (hname : name.isFormatField = false) :
    isOther (.field kind name value) = true := by
  simp only [isOther, hname, Bool.not_false, Bool.or_true]

theorem Reads.quiet (h : Reads kind name v w)
    (hother : isOther (.field kind name value) = true) (hv : v.Quiet) : w.Quiet := by
  have hnot : name.isFormatField = true → kind ≠ .video ∧ kind ≠ .image := by
    intro hname
    simpa [isOther, hname] using hother
  cases h with
  | nothing => exact hv
  | codec f hkind hname _ _ =>
    obtain ⟨hvideo, himage⟩ := hnot hname
    exact absurd hkind (by simp [hvideo, himage])
  | level raw hkind hname _ => exact absurd hkind (hnot hname).1
  | duration x hx =>
    exact ⟨⟨hv.steady.fits, hv.steady.linked⟩,
      fun hzero => ⟨(hv.bare hzero).known, (hv.bare hzero).codec, (hv.bare hzero).level⟩⟩

theorem quiet_others (h : s.core.Quiet) {events : List SurveyEvent}
    (hothers : ∀ e ∈ events, isOther e = true) :
    (s.run events).core.Quiet ∧ (s.run events).core.streams = s.core.streams := by
  induction events generalizing s with
  | nil => exact ⟨h, rfl⟩
  | cons e rest ih =>
    have hstep : (s.step e).core.Quiet ∧ (s.step e).core.streams = s.core.streams := by
      have he := hothers e List.mem_cons_self
      cases e with
      | begin kind =>
        have hkind : kind ≠ .video := by simpa [isOther] using he
        rw [core_step_begin s hkind]
        exact ⟨h, rfl⟩
      | field kind name value =>
        have hreads := reads_field s kind name value
        rw [step]
        exact ⟨hreads.quiet he h, hreads.streams⟩
      | thumbnail t => exact ⟨h, rfl⟩
      | size n => exact ⟨h, rfl⟩
    obtain ⟨hquiet, hstreams⟩ :=
      ih hstep.1 fun e' he' => hothers e' (List.mem_cons_of_mem _ he')
    exact ⟨hquiet, hstreams.trans hstep.2⟩

/-! ## Reports without videos -/

theorem Reads.level_of_other (h : Reads kind name v w) (hvideo : kind ≠ .video) :
    w.level = v.level := by
  cases h with
  | level raw hkind _ _ => exact absurd hkind hvideo
  | _ => rfl

/-- Whether an event is not about videos. -/
def isNoVideo : SurveyEvent → Bool
  | .begin kind | .field kind _ _ => kind != .video
  | _ => true

theorem level_of_noVideo (h : s.core.level = none) {events : List SurveyEvent}
    (hno : ∀ e ∈ events, isNoVideo e = true) : (s.run events).core.level = none := by
  induction events generalizing s with
  | nil => exact h
  | cons e rest ih =>
    refine ih ?_ fun e' he' => hno e' (List.mem_cons_of_mem _ he')
    have he := hno e List.mem_cons_self
    cases e with
    | begin kind =>
      have hkind : kind ≠ .video := by simpa [isNoVideo] using he
      rw [core_step_begin s hkind]
      exact h
    | field kind name value =>
      have hkind : kind ≠ .video := by simpa [isNoVideo] using he
      rw [step]
      exact ((reads_field s kind name value).level_of_other hkind).trans h
    | thumbnail t => exact h
    | size n => exact h

/-! ## Closing -/

theorem applyAudioVariant?_getD (d : Descriptor) :
    d.applyAudioVariant?.getD d = { d with container :=
      if d.mediaType = .audio then d.container.map Format.asAudio else d.container } := by
  have hself : ∀ {c}, d.container = c → d = { d with container := c } := by
    rintro _ rfl
    rfl
  unfold Descriptor.applyAudioVariant? Descriptor.audioVariant? Format.asAudio
  split
  · cases hcontainer : d.container with
    | none => exact hself hcontainer
    | some f =>
      simp only [Option.bind_some, Option.map_some]
      cases f.audioVariant? with
      | none => exact hself hcontainer
      | some g => rfl
  · rfl

/-- **What closing a survey does**: the media type is set, and what follows from it. -/
theorem finish_eq (s : Survey) :
    s.finish = { s.found with
      mediaType := s.found.streamsType
      container :=
        if s.found.streamsType = .audio then s.found.container.map Format.asAudio
        else s.found.container
      audioTracks :=
        if s.found.streamsType = .audio then
          (s.found.modifyFirstAudio (SongTags.fillIn s.tags)).audioTracks
        else s.found.audioTracks
      parsed := true } := by
  simp only [finish, applyAudioVariant?_getD, Descriptor.resolveMediaType]
  split <;> simp only [Descriptor.modifyFirstAudio, Descriptor.markParsed]

/-- Closing a survey completes it and leaves codec, level and duration as they are. -/
theorem finish_core (s : Survey) :
    s.finish.videoCodec = s.core.codec ∧ s.finish.videoLevel = s.core.level ∧
      s.finish.duration = s.core.duration ∧ s.finish.parsed = true := by
  rw [finish_eq]
  exact ⟨rfl, rfl, rfl, rfl⟩

end Survey

end MediaIndex
