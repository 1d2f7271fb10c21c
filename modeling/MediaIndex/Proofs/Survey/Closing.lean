import Mathlib.Data.List.Induction
import MediaIndex.Proofs.Survey

/-!
# What a finished survey is like

A descriptor is handed out when the report is at its end, and by then everything derived is in it:
the tracks are numbered, the media type follows from the streams, a container of audio alone has the
name it then goes by, and the tags of the file stand where a song keeps them.

> **`finish_wellFormed`**: after every report the tracks are numbered in the order in which their
> streams began; the media type is that of the streams; the container is the one that was found,
> under its audio name if the file is audio; and the song tags that the file reported last are on
> the first track of an audio file, and on no other track of any file.

What a stream leaves behind when it begins is gathered in `Survey.Roll`. No field changes it
(`Written.roll`), so it is a matter of counting what began. The tags of the file are a matter of
what was said last (`tags_run`).
-/

set_option autoImplicit false

namespace MediaIndex

/-! ## What a report says -/

namespace SurveyEvent

/-- Whether a stream of a kind begins. -/
def begins (kind : StreamKind) : SurveyEvent → Bool
  | .begin k => k == kind
  | _ => false

/-- The media type that the streams of a report make: any video makes it a video, then any audio
makes it audio, then any image an image. -/
def mediaType (events : List SurveyEvent) : MediaType :=
  if events.any (begins .video) then .video
  else if events.any (begins .audio) then .audio
  else if events.any (begins .image) then .image
  else .unknown

/-- The value of an event, if it is a field of the file itself with one of the given names and not
blank. -/
def ofFile? (names : List FieldName) : SurveyEvent → Option String
  | .field .general name value => if name ∈ names then Text.nonBlank? value else none
  | _ => none

/-- What a report says last about the file under one of the given names. -/
def lastOfFile? (names : List FieldName) (events : List SurveyEvent) : Option String :=
  events.reverse.findSome? (ofFile? names)

end SurveyEvent

open SurveyEvent in
/-- The song tags that a report gives the file: of each tag, what is said last. A number or a year
that cannot be read takes the place of one that could. -/
def SongTags.reported (events : List SurveyEvent) : SongTags where
  album := lastOfFile? [.album] events
  artist := lastOfFile? [.performer] events
  songName := lastOfFile? [.title, .track] events
  songNumber := (lastOfFile? [.trackPosition] events).bind fun value =>
    Survey.leadingNumber? (String.ofList (Text.beforeChar '/' value.toList))
  year := (lastOfFile? [.recordedDate] events).bind fun value => Survey.yearIn? value.toList
  genre := lastOfFile? [.genre] events

/-- The tags after one more field of the file. -/
def SongTags.heard (tags : SongTags) (name : FieldName) (value : String) : SongTags :=
  match name with
  | .title | .track => { tags with songName := some value }
  | .album => { tags with album := some value }
  | .performer => { tags with artist := some value }
  | .genre => { tags with genre := some value }
  | .trackPosition =>
    { tags with songNumber :=
        Survey.leadingNumber? (String.ofList (Text.beforeChar '/' value.toList)) }
  | .recordedDate => { tags with year := Survey.yearIn? value.toList }
  | _ => tags

theorem SongTags.reported_append_general (events : List SurveyEvent) (name : FieldName)
    {value text : String} (h : Text.nonBlank? value = some text) :
    reported (events ++ [.field .general name value]) = (reported events).heard name text := by
  cases name <;> simp [reported, heard, SurveyEvent.lastOfFile?, SurveyEvent.ofFile?, h]

/-- No audio name has an audio name of its own. -/
theorem Format.audioVariant?_asAudio (f : Format) : f.asAudio.audioVariant? = none := by
  cases f <;> rfl

namespace Survey

variable {s t : Survey} {kind : StreamKind} {name : FieldName} {value : String}

/-! ## The streams that have begun -/

/-- What the streams leave behind when they begin. -/
structure Roll where
  audio : List Label
  subtitles : List UInt32
  videos : UInt32
  images : UInt32

def roll (s : Survey) : Roll where
  audio := s.found.audioTracks.map (·.label)
  subtitles := s.found.subtitleTracks.map (·.number)
  videos := s.found.videoTrackCount
  images := s.found.imageCount

theorem roll_of_streams (h : t.found.streams = s.found.streams) : t.roll = s.roll :=
  congrArg (fun v : Streams =>
    (⟨v.audio.map AudioTrack.label, v.subtitles.map SubtitleTrack.number, v.videos, v.images⟩ :
      Roll)) h

theorem roll_describeAudio {f : AudioTrack → AudioTrack} (h : ∀ a, (f a).label = a.label) :
    (s.describeAudio f).roll = s.roll := by
  simp only [describeAudio, describe, roll, map_modifyLast h]

theorem roll_describeSubtitle {f : SubtitleTrack → SubtitleTrack}
    (h : ∀ a, (f a).number = a.number) : (s.describeSubtitle f).roll = s.roll := by
  simp only [describeSubtitle, describe, roll, map_modifyLast h]

theorem roll_describeFormat (s : Survey) (kind : StreamKind) (f : Format) :
    (s.describeFormat kind f).roll = s.roll := by
  cases kind with
  | general | image | text => rfl
  | video => exact view_describeVideo roll rfl
  | audio => exact roll_describeAudio fun _ => rfl

theorem roll_describeMeaning (s : Survey) (kind : StreamKind) (m : Meaning) :
    (s.describeMeaning kind m).roll = s.roll := by
  cases m with
  | format f => exact roll_describeFormat s kind f
  | subtitle f => exact roll_describeSubtitle fun _ => rfl
  | profileLevel p => exact view_describeVideo roll rfl

theorem roll_classify (s : Survey) (kind : StreamKind) (value : String) :
    (s.classify kind value).roll = s.roll := by
  have hsettled : ∀ r, (s.settleToken kind r).roll = s.roll := by
    intro r
    unfold settleToken
    split <;> rfl
  rw [classify_eq s kind value rfl]
  split
  · rfl
  · split
    · rw [roll_describeMeaning, hsettled]
    · exact hsettled _

/-- **No field changes what the streams left behind** when they began. -/
theorem Written.roll (h : Written s kind name t) : t.roll = s.roll := by
  cases h with
  | nothing | tag => rfl
  | token value => exact roll_classify s kind value
  | file f hstreams => exact roll_of_streams (hstreams s.found)
  | audio f _ _ hlabel => exact roll_describeAudio hlabel
  | subtitle f _ hnumber => exact roll_describeSubtitle hnumber

theorem roll_field (s : Survey) (kind : StreamKind) (name : FieldName) (value : String) :
    (s.field kind name value).roll = s.roll := by
  unfold field
  split
  · rfl
  · exact (written_setField s kind name _).roll

/-- What a stream adds when it begins. -/
def Roll.begun (v : Roll) : StreamKind → Roll
  | .general => v
  | .video => { v with videos := v.videos + 1 }
  | .image => { v with images := v.images + 1 }
  | .audio => { v with audio := v.audio ++ [⟨UInt32.ofNat v.audio.length, {}⟩] }
  | .text => { v with subtitles := v.subtitles ++ [UInt32.ofNat v.subtitles.length] }

theorem roll_beginStream (s : Survey) (kind : StreamKind) :
    (s.beginStream kind).roll = s.roll.begun kind := by
  cases kind with
  | general | video | image => rfl
  | audio | text =>
    simp only [beginStream, describe, roll, Roll.begun, List.map_append, List.map_singleton,
      List.length_map, AudioTrack.label]

/-- The first numbers of tracks. -/
def numbers (n : Nat) : List UInt32 := (List.range n).map UInt32.ofNat

theorem numbers_succ (n : Nat) : numbers (n + 1) = numbers n ++ [UInt32.ofNat n] := by
  simp [numbers, List.range_succ]

theorem length_numbers (n : Nat) : (numbers n).length = n := by simp [numbers]

namespace Roll

open SurveyEvent

/-- What the streams of a report leave behind. -/
def ofEvents (events : List SurveyEvent) : Roll where
  audio := (numbers (events.countP (begins .audio))).map fun n => ⟨n, {}⟩
  subtitles := numbers (events.countP (begins .text))
  videos := UInt32.ofNat (events.countP (begins .video))
  images := UInt32.ofNat (events.countP (begins .image))

theorem ofEvents_append_begin (events : List SurveyEvent) (kind : StreamKind) :
    ofEvents (events ++ [.begin kind]) = (ofEvents events).begun kind := by
  cases kind <;>
    simp [ofEvents, begun, begins, List.countP_append, numbers_succ, length_numbers]

theorem ofEvents_append_of_not_begins (events : List SurveyEvent) {e : SurveyEvent}
    (h : ∀ kind, e.begins kind = false) : ofEvents (events ++ [e]) = ofEvents events := by
  simp [ofEvents, List.countP_append, h]

end Roll

theorem roll_step {events : List SurveyEvent} (h : s.roll = .ofEvents events) (e : SurveyEvent) :
    (s.step e).roll = .ofEvents (events ++ [e]) := by
  cases e with
  | begin kind => rw [step, roll_beginStream, h, Roll.ofEvents_append_begin]
  | field kind name value =>
    rw [step, roll_field, h, Roll.ofEvents_append_of_not_begins _ fun _ => rfl]
  | thumbnail t => rw [Roll.ofEvents_append_of_not_begins _ fun _ => rfl, ← h]; rfl
  | size n => rw [Roll.ofEvents_append_of_not_begins _ fun _ => rfl, ← h]; rfl

theorem roll_run (events : List SurveyEvent) : (start.run events).roll = .ofEvents events := by
  induction events using List.reverseRecOn with
  | nil => rfl
  | append_singleton events e ih =>
    rw [run_append]
    exact roll_step ih e

/-! ## The tags of the file -/

theorem tags_classify (s : Survey) (kind : StreamKind) (value : String) :
    (s.classify kind value).tags = s.tags := by
  have hsettled : ∀ r, (s.settleToken kind r).tags = s.tags := by
    intro r
    unfold settleToken
    split <;> rfl
  have hmeaning : ∀ (t : Survey) (m : Meaning), (t.describeMeaning kind m).tags = t.tags := by
    intro t m
    cases m with
    | format f =>
      cases kind with
      | video => exact view_describeVideo Survey.tags rfl
      | general | image | audio | text => rfl
    | subtitle f => rfl
    | profileLevel p => exact view_describeVideo Survey.tags rfl
  rw [classify_eq s kind value rfl]
  split
  · rfl
  · split
    · rw [hmeaning, hsettled]
    · exact hsettled _

/-- Only fields of the file are tags of the file. -/
theorem Written.tags (h : Written s kind name t) (hkind : kind ≠ .general) : t.tags = s.tags := by
  cases h with
  | nothing | file | audio | subtitle => rfl
  | token value => exact tags_classify s kind value
  | tag f hgeneral => exact absurd hgeneral hkind

theorem tags_setField (s : Survey) (name : FieldName) (value : String) :
    (s.setField .general name value).tags = s.tags.heard name value := by
  cases name with
  | format | formatVersion | formatFeatures => simp only [setField, tags_classify, SongTags.heard]
  | formatProfile =>
    simp only [setField, reduceCtorEq, if_false, tags_classify, SongTags.heard]
  | codecId =>
    simp only [setField, hasCodec, Bool.false_eq_true, if_false, tags_classify, SongTags.heard]
  | duration => simp only [setField, true_or, if_true, describe, SongTags.heard]
  | _ => simp only [setField, setGeneralField, describe, keepTag, SongTags.heard]

/-- The tags do not depend on anything but the fields of the file. -/
theorem tags_step {events : List SurveyEvent} (h : s.tags = .reported events) (e : SurveyEvent) :
    (s.step e).tags = .reported (events ++ [e]) := by
  have hsilent : (∀ names, e.ofFile? names = none) →
      SongTags.reported (events ++ [e]) = .reported events := by
    intro hnone
    simp [SongTags.reported, SurveyEvent.lastOfFile?, hnone]
  cases e with
  | begin kind =>
    rw [hsilent fun _ => rfl, ← h]
    cases kind <;> rfl
  | thumbnail t => rw [hsilent fun _ => rfl, ← h]; rfl
  | size n => rw [hsilent fun _ => rfl, ← h]; rfl
  | field kind name value =>
    rw [step, field]
    cases hvalue : Text.nonBlank? value with
    | none =>
      rw [hsilent fun names => ?_]
      · exact h
      · cases kind <;> simp [SurveyEvent.ofFile?, hvalue]
    | some text =>
      by_cases hkind : kind = .general
      · subst hkind
        rw [SongTags.reported_append_general events name hvalue, ← h]
        exact tags_setField s name text
      · have hother : ∀ names, SurveyEvent.ofFile? names (.field kind name value) = none := by
          cases kind <;> simp_all [SurveyEvent.ofFile?]
        rw [hsilent hother, ← h]
        exact (written_setField s kind name text).tags hkind

/-- **The tags of the file are those that it reported last.** -/
theorem tags_run (events : List SurveyEvent) : (start.run events).tags = .reported events := by
  induction events using List.reverseRecOn with
  | nil => rfl
  | append_singleton events e ih =>
    rw [run_append]
    exact tags_step ih e

/-! ## Closing -/

theorem label_fillIn {tags : SongTags} {a : AudioTrack} (h : a.label.song = {}) :
    (SongTags.fillIn tags a).label = ⟨a.number, tags⟩ := by
  simp only [AudioTrack.label, SongTags.mk.injEq] at h
  obtain ⟨halbum, hartist, hname, hnumber, hyear, hgenre⟩ := h
  simp only [SongTags.fillIn, AudioTrack.label, halbum, hartist, hname, hnumber, hyear, hgenre,
    Option.none_or]

theorem zero_lt_ofNat {n : Nat} (h : n < UInt32.size) : 0 < UInt32.ofNat n ↔ 0 < n := by
  rw [UInt32.lt_iff_toNat_lt, UInt32.toNat_ofNat_of_lt' h]
  rfl

open SurveyEvent in
/-- The media type is that of the streams, as long as their counts do not begin again. -/
theorem streamsType_run {events : List SurveyEvent} (hfew : events.length < UInt32.size) :
    (start.run events).found.streamsType = mediaType events := by
  have hroll := roll_run events
  have hany : ∀ kind, events.any (begins kind) = true ↔ 0 < events.countP (begins kind) := by
    intro kind
    rw [List.any_eq_true, List.countP_pos_iff]
  have hcount : ∀ kind, events.countP (begins kind) < UInt32.size :=
    fun kind => Nat.lt_of_le_of_lt List.countP_le_length hfew
  have hvideos : (start.run events).found.videoTrackCount = _ := congrArg Roll.videos hroll
  have himages : (start.run events).found.imageCount = _ := congrArg Roll.images hroll
  have haudio : (start.run events).found.audioTracks.isEmpty = true ↔
      ¬0 < events.countP (begins .audio) := by
    have hlength := congrArg (fun v => v.audio.length) hroll
    simp only [roll, Roll.ofEvents, List.length_map, length_numbers] at hlength
    rw [List.isEmpty_iff_length_eq_zero, hlength]
    omega
  simp only [Descriptor.streamsType, mediaType, hany, hvideos, himages, Roll.ofEvents,
    zero_lt_ofNat (hcount _), Bool.not_eq_true', ← Bool.not_eq_true, haudio, not_not]

/-- The labels of the tracks of a finished survey: the tags of the file are on the first track of an
audio file. -/
theorem labels_finish (events : List SurveyEvent) :
    let s := start.run events
    s.finish.audioTracks.map (·.label) =
      (List.range (events.countP (SurveyEvent.begins .audio))).map fun i =>
        ⟨UInt32.ofNat i, if s.found.streamsType = .audio ∧ i = 0 then s.tags else {}⟩ := by
  intro s
  have hroll : s.found.audioTracks.map (·.label) =
      (numbers (events.countP (SurveyEvent.begins .audio))).map fun n => ⟨n, {}⟩ :=
    congrArg Roll.audio (roll_run events)
  generalize events.countP (SurveyEvent.begins .audio) = n at hroll ⊢
  rw [finish_eq]
  by_cases htype : s.found.streamsType = .audio
  · simp only [htype, if_true, true_and, Descriptor.modifyFirstAudio]
    cases htracks : s.found.audioTracks with
    | nil =>
      have hzero : n = 0 := by simpa [htracks, numbers] using congrArg List.length hroll.symm
      subst hzero
      rfl
    | cons first rest =>
      cases n with
      | zero => simp [htracks, numbers] at hroll
      | succ n =>
        simp only [htracks, numbers, List.range_succ_eq_map, List.map_cons, List.map_map,
          List.cons.injEq] at hroll ⊢
        obtain ⟨hfirst, hrest⟩ := hroll
        refine ⟨?_, hrest⟩
        have hnumber : first.number = UInt32.ofNat 0 := congrArg Label.number hfirst
        rw [label_fillIn (congrArg Label.song hfirst), hnumber, if_pos trivial]
  · simp only [htype, if_false, false_and, hroll, numbers, List.map_map]
    rfl

open SurveyEvent in
/-- **Finished descriptors are well formed.** -/
theorem finish_wellFormed {events : List SurveyEvent} (hfew : events.length < UInt32.size) :
    let s := start.run events
    let d := s.finish
    d.parsed = true ∧
      d.audioTracks.map (·.number.toNat) = List.range (events.countP (begins .audio)) ∧
      d.subtitleTracks.map (·.number.toNat) = List.range (events.countP (begins .text)) ∧
      d.mediaType = mediaType events ∧
      d.container =
        (if d.mediaType = .audio then s.found.container.map Format.asAudio
        else s.found.container) ∧
      (d.mediaType = .audio → d.audioVariant? = none) ∧
      ∀ i t, d.audioTracks[i]? = some t →
        t.label.song = if d.mediaType = .audio ∧ i = 0 then SongTags.reported events else {} := by
  intro s d
  have hlabels := labels_finish events
  have htype : d.mediaType = s.found.streamsType := by
    show s.finish.mediaType = _
    rw [finish_eq]
  have hcontainer : d.container = if d.mediaType = .audio then s.found.container.map Format.asAudio
      else s.found.container := by
    rw [htype]
    show s.finish.container = _
    rw [finish_eq]
  have hcount : ∀ kind, events.countP (begins kind) < UInt32.size :=
    fun kind => Nat.lt_of_le_of_lt List.countP_le_length hfew
  have hnumbers : ∀ kind, (List.range (events.countP (begins kind))).map
      (fun i => (UInt32.ofNat i).toNat) = List.range (events.countP (begins kind)) := by
    intro kind
    refine (List.map_congr_left (g := id) fun i hi => ?_).trans (List.map_id _)
    exact UInt32.toNat_ofNat_of_lt' (Nat.lt_trans (List.mem_range.mp hi) (hcount kind))
  refine ⟨?_, ?_, ?_, htype.trans (streamsType_run hfew), hcontainer, fun haudio => ?_, ?_⟩
  · show s.finish.parsed = true
    rw [finish_eq]
  · have h := congrArg (List.map fun l : Label => l.number.toNat) hlabels
    rw [List.map_map, List.map_map] at h
    exact h.trans (hnumbers .audio)
  · have hsubtitles : d.subtitleTracks.map (·.number) = numbers (events.countP (begins .text)) := by
      show s.finish.subtitleTracks.map _ = _
      rw [finish_eq]
      exact congrArg Roll.subtitles (roll_run events)
    have h := congrArg (List.map UInt32.toNat) hsubtitles
    rw [numbers, List.map_map, List.map_map] at h
    exact h.trans (hnumbers .text)
  · rw [Descriptor.audioVariant?, hcontainer, if_pos haudio]
    cases s.found.container with
    | none => rfl
    | some f => exact f.audioVariant?_asAudio
  · intro i t ht
    have h := congrArg (·[i]?) hlabels
    simp only [List.getElem?_map] at h
    rw [ht, Option.map_some] at h
    obtain ⟨j, hj, hlabel⟩ := Option.map_eq_some_iff.mp h.symm
    obtain ⟨hi, rfl⟩ := List.getElem?_eq_some_iff.mp hj
    rw [← hlabel, htype, ← tags_run, List.getElem_range]

/-- A song with two tracks, a cover and the words. The album is named twice, and a title is given
before there is a track to take it. -/
def songWithCover : List SurveyEvent :=
  [.field .general .format "Ogg", .field .general .album "Demo", .field .audio .title "Early",
    .begin .image, .begin .audio, .field .audio .format "Vorbis", .begin .text, .begin .audio,
    .field .general .trackPosition "3/12", .field .general .album " Live "]

theorem finish_wellFormed_song :
    songWithCover.length < UInt32.size ∧
      let d := (start.run songWithCover).finish
      d.parsed = true ∧ d.audioTracks.map (·.number.toNat) = [0, 1] ∧
        d.subtitleTracks.map (·.number.toNat) = [0] ∧ d.mediaType = .audio ∧
        d.container = some .oga ∧ d.audioVariant? = none ∧
        ∀ i t, d.audioTracks[i]? = some t → t.label.song =
          if i = 0 then { album := some "Live", songNumber := some 3 } else ({} : SongTags) := by
  have hfew : songWithCover.length < UInt32.size := by decide
  obtain ⟨hparsed, haudio, hsubtitles, htype, hcontainer, hvariant, hsongs⟩ :=
    finish_wellFormed hfew
  have hsong : SurveyEvent.mediaType songWithCover = .audio := by decide
  have hogg : (start.run songWithCover).found.container = some .ogg := by decide +kernel
  have htags : SongTags.reported songWithCover =
      { album := some "Live", songNumber := some 3 } := by decide +kernel
  rw [hsong] at htype
  rw [htype, if_pos rfl, hogg] at hcontainer
  refine ⟨hfew, hparsed, haudio, hsubtitles, htype, hcontainer, hvariant htype, fun i t ht => ?_⟩
  rw [hsongs i t ht, htags]
  simp only [htype, true_and]

end Survey

end MediaIndex
