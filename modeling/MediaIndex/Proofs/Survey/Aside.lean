import MediaIndex.Proofs.Survey

/-!
# Song tags and remarks decide nothing

The song tags of a file and the free remarks are written down and not looked at again before the
survey is closed: no later field is read by them. So a report with some of them left out tells the
same about everything else.

> **`plain_run_aside`**: fields that are kept aside (`SurveyEvent.isAside`) can be left out of a
> report anywhere, and the survey is the same but for its tags and remarks. Once it is closed, the
> descriptors are the same but for the remarks and the song tags of the first track, and but for the
> remarks alone if the file is no song (`finish_of_plain`).

The survey without its tags and remarks is `Survey.plain`. Every change that a field can make goes
through it (`Apart`): what it does to the plain part depends on the plain part.
-/

set_option autoImplicit false

namespace MediaIndex

/-- A descriptor without its remarks. -/
def Descriptor.plain (d : Descriptor) : Descriptor := { d with extras := .empty }

/-- A descriptor without its remarks and the song tags of its first track. -/
def Descriptor.untagged (d : Descriptor) : Descriptor :=
  d.plain.modifyFirstAudio AudioTrack.untagged

/-- Whether a field of the file is a tag of its song. -/
def FieldName.isSongTag : FieldName → Bool
  | .title | .track | .album | .performer | .genre | .trackPosition | .recordedDate => true
  | _ => false

/-- Whether an event is a remark or a song tag of the file. -/
def SurveyEvent.isAside : SurveyEvent → Bool
  | .field _ (.extra _) _ => true
  | .field .general name _ => name.isSongTag
  | _ => false

namespace Survey

variable {s t : Survey} {kind : StreamKind} {name : FieldName} {value : String}

/-- A survey without its tags and remarks. -/
def plain (s : Survey) : Survey := { s with found := s.found.plain, tags := {} }

/-! ## Changes that go through the plain part -/

/-- Whether what a change does to the plain part depends on the plain part alone. -/
def Apart (change : Survey → Survey) : Prop :=
  ∀ s : Survey, (change s).plain = (change s.plain).plain

namespace Apart

variable {f g : Survey → Survey}

theorem same : Apart fun s => s := fun _ => rfl

theorem describe {f : Descriptor → Descriptor} (h : ∀ d, (f d).plain = (f d.plain).plain) :
    Apart (·.describe f) := fun s => by
  simp only [Survey.plain, Survey.describe, h s.found]

theorem ite {p : Survey → Prop} [DecidablePred p] (hp : ∀ s, p s.plain ↔ p s) (hf : Apart f)
    (hg : Apart g) : Apart fun s => if p s then f s else g s := by
  intro s
  by_cases h : p s
  · simp only [if_pos h, if_pos ((hp s).mpr h), hf s]
  · simp only [if_neg h, if_neg fun hplain => h ((hp s).mp hplain), hg s]

theorem comp (hf : Apart f) (hg : Apart g) : Apart fun s => g (f s) := fun s => by
  rw [hg (f s), hf s, ← hg]

theorem describeVideo {f : Descriptor → Descriptor} (h : ∀ d, (f d).plain = (f d.plain).plain) :
    Apart (·.describeVideo f) := ite (fun _ => Iff.rfl) (describe h) same

theorem describeAudio (f : AudioTrack → AudioTrack) : Apart (·.describeAudio f) := fun _ => rfl

theorem describeSubtitle (f : SubtitleTrack → SubtitleTrack) : Apart (·.describeSubtitle f) :=
  fun _ => rfl

theorem keepTag (f : SongTags → SongTags) : Apart (·.keepTag f) := fun _ => rfl

end Apart

/-! ## Fields -/

theorem apart_describeFormat (kind : StreamKind) (f : Format) :
    Apart (·.describeFormat kind f) := by
  cases kind with
  | general | image => exact .describe fun _ => rfl
  | video => exact .describeVideo fun _ => rfl
  | audio => exact .describeAudio _
  | text => exact .same

theorem apart_describeMeaning (kind : StreamKind) (m : Meaning) :
    Apart (·.describeMeaning kind m) := by
  cases m with
  | format f => exact apart_describeFormat kind f
  | subtitle f => exact .describeSubtitle _
  | profileLevel p => exact .describeVideo fun _ => rfl

theorem apart_settleToken (kind : StreamKind) (r : Recognition) : Apart (·.settleToken kind r) := by
  intro s
  unfold settleToken
  cases r.container <;> rfl

/-- A token is read by what is settled, and that is all in the plain part. -/
theorem apart_classify (kind : StreamKind) (value : String) : Apart (·.classify kind value) := by
  intro s
  cases hr : recognise kind value s.known with
  | mk meaning container =>
  dsimp only
  rw [classify_eq s kind value hr, classify_eq s.plain kind value hr]
  split
  · rfl
  · cases meaning with
    | none => exact apart_settleToken kind _ s
    | some m => exact (apart_settleToken kind _).comp (apart_describeMeaning kind m) s

theorem apart_setVideoField (name : FieldName) (value : String) :
    Apart (·.setVideoField name value) := by
  refine .describe fun d => ?_
  cases name <;> rfl

theorem apart_setGeneralField (name : FieldName) (value : String) :
    Apart (·.setGeneralField name value) := by
  unfold setGeneralField
  cases name with
  | overallBitrate | overallBitrateMode | bitrateMode | fileSize => exact .describe fun _ => rfl
  | title | track | album | performer | genre | trackPosition | recordedDate => exact .keepTag _
  | _ => exact .same

theorem apart_setField (kind : StreamKind) (name : FieldName) (value : String) :
    Apart (·.setField kind name value) := by
  unfold setField
  cases name with
  | extra key => exact .describe fun _ => rfl
  | format | formatVersion | formatFeatures => exact apart_classify kind value
  | formatProfile =>
    intro s
    dsimp only
    split
    · exact Apart.describeVideo (f := setProfile (.ofText s.known.videoCodec value))
        (fun _ => rfl) s
    · exact apart_classify kind value s
  | codecId =>
    refine .ite (fun s => ?_) .same (apart_classify kind value)
    cases kind <;> exact Iff.rfl
  | duration => exact .ite (fun _ => Iff.rfl) (.describe fun _ => rfl) .same
  | bitrate =>
    cases kind with
    | video => exact .ite (fun _ => Iff.rfl) (.describe fun _ => rfl) .same
    | audio => exact .describeAudio _
    | text => exact .describeSubtitle _
    | general => exact apart_setGeneralField _ value
    | image => exact .same
  | width | height =>
    cases kind with
    | video | image => exact .describeVideo fun _ => rfl
    | audio => exact .describeAudio _
    | text => exact .describeSubtitle _
    | general => exact .same
  | _ =>
    cases kind with
    | video => exact .ite (fun _ => Iff.rfl) (apart_setVideoField _ value) .same
    | audio => exact .describeAudio _
    | text => exact .describeSubtitle _
    | general => exact apart_setGeneralField _ value
    | image => exact .same

/-- **Every event goes through the plain part.** -/
theorem plain_step (s : Survey) (e : SurveyEvent) : (s.step e).plain = (s.plain.step e).plain := by
  cases e with
  | begin kind => cases kind <;> rfl
  | field kind name value =>
    rw [step, step, field, field]
    cases Text.nonBlank? value with
    | none => rfl
    | some value => exact apart_setField kind name value s
  | thumbnail t => rfl
  | size n => rfl

theorem plain_run (h : s.plain = t.plain) (events : List SurveyEvent) :
    (s.run events).plain = (t.run events).plain := by
  induction events generalizing s t with
  | nil => exact h
  | cons e rest ih => exact ih (by rw [plain_step, h, ← plain_step])

/-! ## Tags and remarks -/

theorem plain_keepTag (s : Survey) (f : SongTags → SongTags) : (s.keepTag f).plain = s.plain := rfl

theorem plain_setGeneralField (s : Survey) (value : String) (h : name.isSongTag = true) :
    (s.setGeneralField name value).plain = s.plain := by
  unfold setGeneralField
  cases name with
  | title | track | album | performer | genre | trackPosition | recordedDate =>
    exact plain_keepTag s _
  | _ => exact absurd h (by simp [FieldName.isSongTag])

theorem setField_songTag (s : Survey) (value : String) (h : name.isSongTag = true) :
    s.setField .general name value = s.setGeneralField name value := by
  cases name with
  | title | track | album | performer | genre | trackPosition | recordedDate =>
    simp only [setField]
  | _ => exact absurd h (by simp [FieldName.isSongTag])

theorem plain_step_aside (s : Survey) {e : SurveyEvent} (h : e.isAside = true) :
    (s.step e).plain = s.plain := by
  cases e with
  | field kind name value =>
    rw [step, field]
    cases Text.nonBlank? value with
    | none => rfl
    | some value =>
      by_cases hextra : ∃ key, name = .extra key
      · obtain ⟨key, rfl⟩ := hextra
        rfl
      · have htag : kind = .general ∧ name.isSongTag = true := by
          cases name with
          | extra key => exact absurd ⟨key, rfl⟩ hextra
          | _ => cases kind <;> simp_all [SurveyEvent.isAside]
        obtain ⟨rfl, htag⟩ := htag
        show (s.setField .general name value).plain = s.plain
        rw [setField_songTag s value htag, plain_setGeneralField s value htag]
  | _ => exact absurd h (by simp [SurveyEvent.isAside])

/-- **Tags and remarks can be left out** anywhere in a report. -/
theorem plain_run_aside (s : Survey) {aside : List SurveyEvent}
    (h : ∀ e ∈ aside, e.isAside = true) (before after : List SurveyEvent) :
    (s.run (before ++ (aside ++ after))).plain = (s.run (before ++ after)).plain := by
  have haside : ∀ t : Survey, (t.run aside).plain = t.plain := by
    intro t
    induction aside generalizing t with
    | nil => rfl
    | cons e rest ih =>
      obtain ⟨he, hrest⟩ := List.forall_mem_cons.mp h
      exact (ih hrest _).trans (plain_step_aside t he)
  rw [run_append, run_append, run_append]
  exact plain_run (haside _) after

/-! ## Closing -/

/-- A descriptor with what follows from its streams, but for the tags. -/
def closed (d : Descriptor) : Descriptor :=
  { d with
    mediaType := d.streamsType
    container := if d.streamsType = .audio then d.container.map Format.asAudio else d.container
    parsed := true }

theorem plain_closed (d : Descriptor) : (closed d).plain = closed d.plain := rfl

/-- The tags are the last thing that closing a survey adds, and to a song alone. -/
theorem finish_eq_closed (s : Survey) :
    s.finish =
      if s.found.streamsType = .audio then
        (closed s.found).modifyFirstAudio (SongTags.fillIn s.tags)
      else closed s.found := by
  rw [finish_eq]
  by_cases haudio : s.found.streamsType = .audio
  · simp only [if_pos haudio, closed, Descriptor.modifyFirstAudio]
  · simp only [if_neg haudio, closed]

theorem mediaType_finish (s : Survey) : s.finish.mediaType = s.found.streamsType := by
  rw [finish_eq]

theorem untagged_fillIn (tags : SongTags) (d : Descriptor) :
    (d.modifyFirstAudio (SongTags.fillIn tags)).untagged = d.untagged := by
  cases htracks : d.audioTracks <;>
    simp [Descriptor.untagged, Descriptor.plain, Descriptor.modifyFirstAudio, htracks,
      SongTags.fillIn, AudioTrack.untagged]

theorem untagged_finish (s : Survey) : s.finish.untagged = (closed s.found).untagged := by
  rw [finish_eq_closed]
  split
  · exact untagged_fillIn s.tags _
  · rfl

/-- **What the tags and remarks come to** when a survey is closed: the remarks and the song tags of
the first track, and in a file that is no song the remarks alone. -/
theorem finish_of_plain (h : s.plain = t.plain) :
    s.finish.untagged = t.finish.untagged ∧
      (s.finish.mediaType ≠ .audio → s.finish.plain = t.finish.plain) := by
  have hfound : s.found.plain = t.found.plain := congrArg found h
  have hclosed : (closed s.found).plain = (closed t.found).plain := by
    rw [plain_closed, hfound, ← plain_closed]
  have hmedia : s.found.streamsType = t.found.streamsType :=
    congrArg Descriptor.mediaType hclosed
  refine ⟨?_, fun hother => ?_⟩
  · rw [untagged_finish, untagged_finish, Descriptor.untagged, hclosed, ← Descriptor.untagged]
  · rw [mediaType_finish] at hother
    rw [finish_eq_closed, finish_eq_closed, if_neg hother, if_neg (hmedia ▸ hother), hclosed]

end Survey

end MediaIndex
