import MediaIndex.Proofs.Survey.Streams

/-!
# Closed tracks

A field is told of the stream of its kind that began last. So once the next stream of a kind has
begun, nothing is said any more of the tracks before it, and whatever a report goes on to tell they
stay as they are.

> **`closed_tracks_frozen`**: no event changes a track that another one of its kind has followed. In
> every run each closed track has the value it had when the next stream of its kind began.

What a field does to the streams is said once (`touchesLast_field`): it changes the last track of its
own kind, and a field that is told of no track changes none. From there on the tracks are only a row
that grows at its end (`RowStep`), and audio and subtitles are two instances of the same law.
-/

set_option autoImplicit false

namespace MediaIndex

/-! ## Rows that grow at their end -/

section Rows

variable {α : Type} {row next : List α} {opens : Prop}

theorem length_modifyLast (f : α → α) (row : List α) : (modifyLast f row).length = row.length := by
  fun_induction modifyLast f row <;> simp_all

theorem dropLast_modifyLast (f : α → α) (row : List α) :
    (modifyLast f row).dropLast = row.dropLast := by
  rcases List.eq_nil_or_concat row with rfl | ⟨front, a, rfl⟩
  · rfl
  · simp only [List.concat_eq_append, modifyLast_append, List.dropLast_concat]

/-- What one event does to a row of tracks: it adds one at the end if it opens one, and otherwise
changes the last one at most. -/
inductive RowStep (row : List α) (opens : Prop) : List α → Prop where
  | opened (a : α) (h : opens) : RowStep row opens (row ++ [a])
  | touched (f : α → α) (h : ¬opens) : RowStep row opens (modifyLast f row)

namespace RowStep

theorem of_same (h : ¬opens) : RowStep row opens row := by
  have htouched : RowStep row opens (modifyLast id row) := touched id h
  rwa [modifyLast_id] at htouched

theorem keeps_closed (h : RowStep row opens next) : row.dropLast <+: next.dropLast := by
  cases h with
  | opened a _ =>
    rw [List.dropLast_concat]
    exact row.dropLast_prefix
  | touched f _ =>
    have hsame : row.dropLast = (modifyLast f row).dropLast := (dropLast_modifyLast f row).symm
    exact hsame ▸ List.prefix_refl _

theorem dropLast_of_opens (h : RowStep row opens next) (hopens : opens) :
    next.dropLast = row := by
  cases h with
  | opened a _ => exact List.dropLast_concat
  | touched f hnot => exact absurd hopens hnot

theorem length_of_opens (h : RowStep row opens next) (hopens : opens) :
    next.length = row.length + 1 := by
  cases h with
  | opened a _ => exact List.length_append
  | touched f hnot => exact absurd hopens hnot

theorem length_of_not_opens (h : RowStep row opens next) (hnot : ¬opens) :
    next.length = row.length := by
  cases h with
  | opened a hopens => exact absurd hopens hnot
  | touched f _ => exact length_modifyLast f row

end RowStep

end Rows

/-- A name with the mark of a remark is the remark of that key, whatever the key is. -/
theorem FieldName.ofText_remark (key : String) : ofText (extraMark ++ key) = .extra key := by
  have hkey : Text.afterLead? extraMark (extraMark ++ key) = some key := by
    simp [Text.afterLead?, Text.startsWith, String.toList_append]
  rw [ofText, hkey]

namespace Survey

/-- **Whether closed tracks of a kind are frozen**, where `opening` is what a new one begins
with. -/
structure KeepsClosed {α : Type} (tracks : Survey → List α) (opening : SurveyEvent) : Prop where
  /-- An event leaves all tracks but the last as they are. -/
  step : ∀ s e, (tracks s).dropLast <+: tracks (s.step e)
  /-- The tracks that are there when a stream begins are closed from then on, and stay. -/
  since : ∀ (s : Survey) (before after : List SurveyEvent),
    tracks (s.run before) <+: (tracks (s.run (before ++ opening :: after))).dropLast
  /-- Every track that was closed in a run is what it was when the next one began. -/
  closed : ∀ (s : Survey) (events : List SurveyEvent) (i : Nat), (tracks s).length ≤ i + 1 →
    i + 1 < (tracks (s.run events)).length → ∃ before after, events = before ++ opening :: after ∧
      (tracks (s.run before)).length = i + 1 ∧
      (tracks (s.run events))[i]? = (tracks (s.run before))[i]?

section Runs

variable {α : Type} {tracks : Survey → List α} {opening : SurveyEvent}

theorem dropLast_run (hrow : ∀ s e, RowStep (tracks s) (e = opening) (tracks (s.step e)))
    (s : Survey) (events : List SurveyEvent) :
    (tracks s).dropLast <+: (tracks (s.run events)).dropLast := by
  induction events generalizing s with
  | nil => exact List.prefix_refl _
  | cons e rest ih => exact (hrow s e).keeps_closed.trans (ih (s.step e))

theorem prefix_since (hrow : ∀ s e, RowStep (tracks s) (e = opening) (tracks (s.step e)))
    (s : Survey) (before after : List SurveyEvent) :
    tracks (s.run before) <+: (tracks (s.run (before ++ opening :: after))).dropLast := by
  have hopened := (hrow (s.run before) opening).dropLast_of_opens rfl
  rw [run_append, ← hopened]
  exact dropLast_run hrow ((s.run before).step opening) after

/-- **A track is closed at one moment of a run**: when the next one began. -/
theorem closed_in_run (hrow : ∀ s e, RowStep (tracks s) (e = opening) (tracks (s.step e)))
    (s : Survey) (events : List SurveyEvent) {i : Nat} (hopen : (tracks s).length ≤ i + 1)
    (hclosed : i + 1 < (tracks (s.run events)).length) :
    ∃ before after, events = before ++ opening :: after ∧
      (tracks (s.run before)).length = i + 1 ∧
      (tracks (s.run events))[i]? = (tracks (s.run before))[i]? := by
  induction events generalizing s with
  | nil => exact absurd hclosed (Nat.not_lt.mpr hopen)
  | cons e rest ih =>
    by_cases hstill : (tracks (s.step e)).length ≤ i + 1
    · obtain ⟨before, after, rfl, hlength, hsame⟩ := ih (s.step e) hstill hclosed
      exact ⟨e :: before, after, rfl, hlength, hsame⟩
    · -- the row grew past the track with this event, which closes it
      by_cases hopens : e = opening
      · subst hopens
        have hlonger := (hrow s e).length_of_opens rfl
        have hlength : (tracks s).length = i + 1 := by omega
        have hprefix : tracks s <+: tracks (s.run (e :: rest)) :=
          (prefix_since hrow s [] rest).trans (List.dropLast_prefix _)
        have hi : i < (tracks s).length := by omega
        refine ⟨[], rest, rfl, hlength, ?_⟩
        exact (List.prefix_iff_getElem?.mp hprefix i hi).trans (List.getElem?_eq_getElem hi).symm
      · have hsame := (hrow s e).length_of_not_opens hopens
        exact absurd (hsame ▸ hopen) hstill

theorem keepsClosed_of_rowStep
    (hrow : ∀ s e, RowStep (tracks s) (e = opening) (tracks (s.step e))) :
    KeepsClosed tracks opening where
  step s e := (hrow s e).keeps_closed.trans (List.dropLast_prefix _)
  since := prefix_since hrow
  closed s events _ hopen hclosed := closed_in_run hrow s events hopen hclosed

end Runs

/-! ## What an event does to the streams -/

variable {s t : Survey} {kind : StreamKind} {name : FieldName} {value : String}

/-- Whether at most the last track of a kind is changed. -/
def TouchesLast (kind : StreamKind) (v w : Streams) : Prop :=
  ∃ f g, (kind ≠ .audio → f = id) ∧ (kind ≠ .text → g = id) ∧ w = v.touch f g

namespace TouchesLast

variable {v w : Streams}

theorem of_same (h : w = v) : TouchesLast kind v w :=
  ⟨id, id, fun _ => rfl, fun _ => rfl, h.trans v.touch_id.symm⟩

theorem of_audio (f : AudioTrack → AudioTrack) : TouchesLast .audio v (v.touch f id) :=
  ⟨f, id, fun hkind => absurd rfl hkind, fun _ => rfl, rfl⟩

theorem of_subtitle (g : SubtitleTrack → SubtitleTrack) : TouchesLast .text v (v.touch id g) :=
  ⟨id, g, fun _ => rfl, fun hkind => absurd rfl hkind, rfl⟩

theorem audio_eq (h : TouchesLast kind v w) (hkind : kind ≠ .audio) : w.audio = v.audio := by
  obtain ⟨f, g, hf, -, rfl⟩ := h
  rw [hf hkind]
  exact modifyLast_id v.audio

theorem subtitles_eq (h : TouchesLast kind v w) (hkind : kind ≠ .text) :
    w.subtitles = v.subtitles := by
  obtain ⟨f, g, -, hg, rfl⟩ := h
  rw [hg hkind]
  exact modifyLast_id v.subtitles

end TouchesLast

theorem streams_describeAudio (s : Survey) (f : AudioTrack → AudioTrack) :
    (s.describeAudio f).found.streams = s.found.streams.touch f id := by
  simp only [describeAudio, describe, Descriptor.streams, Streams.touch, modifyLast_id]

theorem streams_describeSubtitle (s : Survey) (g : SubtitleTrack → SubtitleTrack) :
    (s.describeSubtitle g).found.streams = s.found.streams.touch id g := by
  simp only [describeSubtitle, describe, Descriptor.streams, Streams.touch, modifyLast_id]

theorem streams_settleToken (s : Survey) (kind : StreamKind) (r : Recognition) :
    (s.settleToken kind r).found.streams = s.found.streams := by
  unfold settleToken
  split <;> rfl

theorem touchesLast_describeFormat (s : Survey) (kind : StreamKind) (f : Format) :
    TouchesLast kind s.found.streams (s.describeFormat kind f).found.streams := by
  cases kind with
  | general | image | text => exact .of_same rfl
  | video => exact .of_same (view_describeVideo (·.found.streams) rfl)
  | audio =>
    rw [describeFormat, streams_describeAudio]
    exact .of_audio _

/-- A token is told of the last track of its kind, whatever it means. -/
theorem touchesLast_classify (s : Survey) (kind : StreamKind) (value : String) :
    TouchesLast kind s.found.streams (s.classify kind value).found.streams := by
  generalize hr : recognise kind value s.known = r
  have hsettled := streams_settleToken s kind r
  rw [classify_eq s kind value hr]
  split
  · exact .of_same rfl
  · split
    · rename_i m hm
      rw [← hsettled]
      cases m with
      | format f => exact touchesLast_describeFormat _ kind f
      | subtitle f =>
        obtain rfl : kind = .text :=
          Decidable.byContradiction fun hkind => recognise_ne_subtitle hkind (hr ▸ hm)
        rw [describeMeaning, streams_describeSubtitle]
        exact .of_subtitle _
      | profileLevel p => exact .of_same (view_describeVideo (·.found.streams) rfl)
    · exact .of_same hsettled

theorem Written.touchesLast (h : Written s kind name t) :
    TouchesLast kind s.found.streams t.found.streams := by
  cases h with
  | nothing | tag => exact .of_same rfl
  | token value => exact touchesLast_classify s kind value
  | file f hstreams => exact .of_same (hstreams s.found)
  | audio f hkind =>
    subst hkind
    rw [streams_describeAudio]
    exact .of_audio f
  | subtitle g hkind =>
    subst hkind
    rw [streams_describeSubtitle]
    exact .of_subtitle g

/-- **A field changes the last track of its own kind**, and no other. -/
theorem touchesLast_field (s : Survey) (kind : StreamKind) (name : FieldName) (value : String) :
    TouchesLast kind s.found.streams (s.field kind name value).found.streams := by
  unfold field
  cases Text.nonBlank? value with
  | none => exact .of_same rfl
  | some value => exact (written_setField s kind name value).touchesLast

theorem audioTracks_of_other (s : Survey) (hkind : kind ≠ .audio) (name : FieldName)
    (value : String) :
    (s.step (.field kind name value)).found.audioTracks = s.found.audioTracks := by
  rw [step]
  exact (touchesLast_field s kind name value).audio_eq hkind

theorem subtitleTracks_of_other (s : Survey) (hkind : kind ≠ .text) (name : FieldName)
    (value : String) :
    (s.step (.field kind name value)).found.subtitleTracks = s.found.subtitleTracks := by
  rw [step]
  exact (touchesLast_field s kind name value).subtitles_eq hkind

theorem rowStep_audioTracks (s : Survey) (e : SurveyEvent) :
    RowStep s.found.audioTracks (e = .begin .audio) (s.step e).found.audioTracks := by
  cases e with
  | begin kind =>
    cases kind with
    | audio => exact .opened _ rfl
    | general | video | image | text => exact .of_same (by simp)
  | field kind name value =>
    obtain ⟨f, g, -, -, hstreams⟩ := touchesLast_field s kind name value
    have htouched : (s.field kind name value).found.audioTracks = _ :=
      congrArg Streams.audio hstreams
    rw [step, htouched]
    exact .touched f (by simp)
  | thumbnail t => exact .of_same (by simp)
  | size n => exact .of_same (by simp)

theorem rowStep_subtitleTracks (s : Survey) (e : SurveyEvent) :
    RowStep s.found.subtitleTracks (e = .begin .text) (s.step e).found.subtitleTracks := by
  cases e with
  | begin kind =>
    cases kind with
    | text => exact .opened _ rfl
    | general | video | image | audio => exact .of_same (by simp)
  | field kind name value =>
    obtain ⟨f, g, -, -, hstreams⟩ := touchesLast_field s kind name value
    have htouched : (s.field kind name value).found.subtitleTracks = _ :=
      congrArg Streams.subtitles hstreams
    rw [step, htouched]
    exact .touched g (by simp)
  | thumbnail t => exact .of_same (by simp)
  | size n => exact .of_same (by simp)

/-! ## Remarks -/

/-- The survey after a remark: only the remarks have changed. -/
theorem step_remark (s : Survey) (kind : StreamKind) (key value : String) :
    s.step (.field kind (.ofText (FieldName.extraMark ++ key)) value) =
      { s with found := { s.found with
          extras := (Text.nonBlank? value).elim s.found.extras (s.found.extras.insert key) } } := by
  rw [FieldName.ofText_remark, step, field]
  cases Text.nonBlank? value <;> rfl

/-! ## The law -/

/-- **Closed tracks are frozen**, in every state and under every event. A stream of sound or of
subtitles that begins adds one blank track at the end; a field of another kind changes no track; and
a remark changes nothing but the remarks. -/
theorem closed_tracks_frozen :
    KeepsClosed (·.found.audioTracks) (.begin .audio) ∧
      KeepsClosed (·.found.subtitleTracks) (.begin .text) ∧
      ∀ s : Survey,
        s.step (.begin .audio) = { s with
          found := { s.found with audioTracks := s.found.audioTracks ++
            [{ number := UInt32.ofNat s.found.audioTracks.length }] }
          known := { s.known with audioCodec := none } } ∧
        s.step (.begin .text) = { s with
          found := { s.found with subtitleTracks := s.found.subtitleTracks ++
            [{ number := UInt32.ofNat s.found.subtitleTracks.length }] } } ∧
        (∀ kind name value, kind ≠ .audio →
          (s.step (.field kind name value)).found.audioTracks = s.found.audioTracks) ∧
        (∀ kind name value, kind ≠ .text →
          (s.step (.field kind name value)).found.subtitleTracks = s.found.subtitleTracks) ∧
        ∀ kind key value, s.step (.field kind (.ofText (FieldName.extraMark ++ key)) value) =
          { s with found := { s.found with
              extras :=
                (Text.nonBlank? value).elim s.found.extras (s.found.extras.insert key) } } := by
  refine ⟨keepsClosed_of_rowStep rowStep_audioTracks,
    keepsClosed_of_rowStep rowStep_subtitleTracks, fun s => ⟨rfl, rfl, ?_, ?_, step_remark s⟩⟩
  · exact fun kind name value hkind => audioTracks_of_other s hkind name value
  · exact fun kind name value hkind => subtitleTracks_of_other s hkind name value

/-- Two sound tracks, a remark and a late word on the file between them. -/
def twoSounds : List SurveyEvent :=
  [.begin .audio, .field .audio .format "AC-3", .field .audio .language "eng", .begin .audio,
    .field .general (.ofText "extra:encoder") "lavf", .field .audio .language "fre",
    .field .general .format "Matroska"]

theorem closed_tracks_frozen_twoSounds :
    (∃ before after, twoSounds = before ++ .begin .audio :: after ∧
      (start.run before).found.audioTracks.length = 1 ∧
      (start.run twoSounds).found.audioTracks[0]? = (start.run before).found.audioTracks[0]?) ∧
    (start.run twoSounds).found.audioTracks[0]? =
      some { codec := some .ac3, language := some "eng" } ∧
    ((start.run twoSounds).step (.field .video .width "640")).found.audioTracks =
      (start.run twoSounds).found.audioTracks := by
  obtain ⟨haudio, -, hfields⟩ := closed_tracks_frozen
  obtain ⟨-, -, hother, -, -⟩ := hfields (start.run twoSounds)
  exact ⟨haudio.closed start twoSounds 0 (by decide) (by decide +kernel), by decide +kernel,
    hother .video .width "640" (by decide)⟩

end Survey

end MediaIndex
