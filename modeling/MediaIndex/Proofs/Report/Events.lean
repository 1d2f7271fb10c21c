import MediaIndex.Proofs.Survey
import MediaIndex.Report.TrackList
import MediaIndex.Report.StreamSummary

/-!
# The order in which reports tell things

Both readers of reports turn a text into survey events, and the order of these is theirs to choose.
A stream summary tells a video stream by its codec, then its profile, then what cannot name a codec.
A track list tells first the format, then its version, its profile and its features, and the
identifier of the codec last; and its streams may be images.

So a summary always leaves a level of its codec (`StreamSummary.quiet_lines`), but of track lists
this is known only if no image and no feature names a codec after the level was read
(`TrackList.quiet_tracks`), or if there is no video at all (`TrackList.level_of_noVideo`).
-/

set_option autoImplicit false

namespace MediaIndex

open Survey

/-! ## Track lists -/

namespace FieldName

/-- The names that a field of a video stream may name a codec under, apart from its identifier, are
those of leading keys. -/
theorem leading_of_ofText {key : String}
    (h : [.format, .formatVersion, .formatFeatures].contains (ofText key) = true) :
    key ∈ TrackList.leadingKeys := by
  have hspelled : ∀ entry ∈ spellings,
      [.format, .formatVersion, .formatFeatures].contains entry.2 = true →
        entry.1 ∈ TrackList.leadingKeys := by decide
  unfold ofText at h
  split at h
  · exact absurd h (by simp)
  · cases hfound : spellings.find? fun entry => entry.1 == key with
    | none =>
      rw [hfound] at h
      exact absurd h (by simp)
    | some entry =>
      rw [hfound] at h
      have hkey : entry.1 = key := by simpa using List.find?_some hfound
      rw [← hkey]
      exact hspelled entry (List.mem_of_find?_eq_some hfound) h

end FieldName

namespace TrackList

variable {kind : StreamKind} {track : Track} {e : SurveyEvent}

theorem mem_fieldEvent {name : String} {value : Option String}
    (h : e ∈ fieldEvent kind name value) :
    ∃ v, value = some v ∧ e = .field kind (.ofText name) v := by
  unfold fieldEvent at h
  cases value with
  | none => exact absurd h (by simp)
  | some v => exact ⟨v, rfl, by simpa using h⟩

theorem mem_kindEvents (h : e ∈ kindEvents kind track) :
    e = .begin kind ∨ ∃ name v, e = .field kind name v := by
  unfold kindEvents at h
  simp only [List.mem_append, List.mem_cons, List.mem_flatMap] at h
  rcases h with ((((h | ⟨key, -, h⟩) | ⟨m, -, h⟩) | h) | ⟨m, -, h⟩) | h
  · exact Or.inl h
  all_goals
    obtain ⟨v, -, rfl⟩ := mem_fieldEvent h
    exact Or.inr ⟨_, v, rfl⟩

/-- Of the fields that come after the version none names a codec, if the features are not told. -/
theorem keepsCodec_of_mem {name : FieldName} {value : String}
    (h : [.format, .formatVersion, .formatFeatures].contains name = false) :
    (SurveyEvent.field .video name value).keepsCodec = true := by
  simp only [SurveyEvent.keepsCodec, h, Bool.not_false]

theorem remark_not_leading (key : String) : FieldName.extraMark ++ key ∉ leadingKeys := by
  intro h
  have hlead : ∀ lead ∈ leadingKeys, lead.toList.head? = some 'F' := by decide
  have hmark : (FieldName.extraMark ++ key).toList.head? = some 'e' := by
    rw [String.toList_append]
    rfl
  exact absurd ((hlead _ h).symm.trans hmark) (by decide)

/-- What comes after the format and the version of a track. -/
def laterEvents (kind : StreamKind) (track : Track) : List SurveyEvent :=
  fieldEvent kind "Format_Profile" (profile? track) ++
    (fieldEvent kind "Format_AdditionalFeatures" (fieldText? track "Format_AdditionalFeatures") ++
    (((track.filter fun m => isPlainKey m.1).flatMap fun m => fieldEvent kind m.1 m.2.text?) ++
    (fieldEvent kind "Delay" (delayText? track) ++
    (((remarks track).flatMap fun m =>
      fieldEvent kind (FieldName.extraMark ++ m.1) m.2.text?) ++
    fieldEvent kind "CodecID" (fieldText? track "CodecID")))))

theorem kindEvents_eq (kind : StreamKind) (track : Track) :
    kindEvents kind track = .begin kind ::
      (fieldIfAny kind .format (fieldText? track "Format") ++
        fieldIfAny kind .formatVersion (fieldText? track "Format_Version") ++
        laterEvents kind track) := by
  simp only [kindEvents, laterEvents, leadingKeys, List.flatMap_cons, List.flatMap_nil,
    List.append_assoc, List.cons_append, List.append_nil]
  rfl

/-- **The later fields of a video track name no codec**, unless the features are told. -/
theorem keepsCodec_laterEvents (hfeatures : fieldText? track "Format_AdditionalFeatures" = none)
    (h : e ∈ laterEvents .video track) : e.keepsCodec = true := by
  have hplain : ∀ {name : String} {value : Option String}, name ∉ leadingKeys →
      e ∈ fieldEvent .video name value → e.keepsCodec = true := by
    intro name value hname he
    obtain ⟨v, -, rfl⟩ := mem_fieldEvent he
    refine keepsCodec_of_mem (Bool.eq_false_iff.mpr fun hformat => ?_)
    exact hname (FieldName.leading_of_ofText hformat)
  unfold laterEvents at h
  simp only [List.mem_append, List.mem_flatMap, List.mem_filter] at h
  rcases h with h | h | ⟨m, ⟨-, hm⟩, h⟩ | h | ⟨m, -, h⟩ | h
  · obtain ⟨v, -, rfl⟩ := mem_fieldEvent h
    rfl
  · obtain ⟨v, hv, -⟩ := mem_fieldEvent h
    exact absurd (hfeatures.symm.trans hv) (by simp)
  · refine hplain ?_ h
    simp only [isPlainKey, Bool.and_eq_true, Bool.not_eq_true', List.contains_eq_mem,
      decide_eq_false_iff_not] at hm
    exact hm.1.2
  · exact hplain (by decide) h
  · exact hplain (remark_not_leading m.1) h
  · exact hplain (by decide) h

/-- Whether a track cannot replace the codec after a level was read: it describes no image, and if
it describes a video it tells no features. -/
def IsPlain (track : Track) : Prop :=
  kind? track ≠ some .image ∧
    (kind? track = some .video → fieldText? track "Format_AdditionalFeatures" = none)

/-- One plain track keeps what holds between two streams, and begins one video stream at most. -/
theorem quiet_track {s : Survey} (h : s.core.Quiet) (hroom : s.core.streams.toNat + 1 < UInt32.size)
    (hplain : IsPlain track) :
    (s.run (trackEvents track)).core.Quiet ∧
      (s.run (trackEvents track)).core.streams.toNat ≤ s.core.streams.toNat + 1 := by
  unfold trackEvents
  cases hkind : kind? track with
  | none => exact ⟨h, Nat.le_succ _⟩
  | some kind =>
    by_cases hvideo : kind = .video
    · subst hvideo
      have hfeatures := hplain.2 hkind
      obtain ⟨hquiet, hstreams⟩ := quiet_videoStream h hroom (fieldText? track "Format")
        (fieldText? track "Format_Version") fun e he => keepsCodec_laterEvents hfeatures he
      dsimp only
      rw [kindEvents_eq]
      refine ⟨hquiet, ?_⟩
      rw [hstreams, UInt32.toNat_add]
      exact Nat.mod_le _ _
    · have himage : kind ≠ .image := fun heq => hplain.1 (by rw [hkind, heq])
      have hothers : ∀ e ∈ kindEvents kind track, isOther e = true := by
        intro e he
        rcases mem_kindEvents he with rfl | ⟨name, v, rfl⟩
        · simpa [isOther] using hvideo
        · simp [isOther, hvideo, himage]
      obtain ⟨hquiet, hstreams⟩ := quiet_others h hothers
      refine ⟨hquiet, ?_⟩
      dsimp only
      rw [hstreams]
      exact Nat.le_succ _

/-- **A list of plain tracks leaves a level of its codec.** -/
theorem quiet_tracks {s : Survey} (h : s.core.Quiet) {tracks : List Track}
    (hroom : s.core.streams.toNat + tracks.length < UInt32.size)
    (hplain : ∀ track ∈ tracks, IsPlain track) : (s.run (events tracks)).core.Quiet := by
  induction tracks generalizing s with
  | nil => exact h
  | cons track rest ih =>
    rw [List.length_cons] at hroom
    obtain ⟨hquiet, hstreams⟩ :=
      quiet_track h (by omega) (hplain track List.mem_cons_self)
    have hevents : events (track :: rest) = trackEvents track ++ events rest := rfl
    rw [hevents, run_append]
    exact ih hquiet (by omega) fun t ht => hplain t (List.mem_cons_of_mem _ ht)

/-- **A list without videos leaves no level at all.** -/
theorem level_of_noVideo {tracks : List Track} (hno : ∀ track ∈ tracks, kind? track ≠ some .video)
    {s : Survey} (h : s.core.level = none) : (s.run (events tracks)).core.level = none := by
  refine Survey.level_of_noVideo h fun e he => ?_
  obtain ⟨track, htrack, he⟩ := List.mem_flatMap.mp he
  unfold trackEvents at he
  cases hkind : kind? track with
  | none =>
    rw [hkind] at he
    exact absurd he (by simp)
  | some kind =>
    rw [hkind] at he
    have hvideo : kind ≠ .video := fun heq => hno track htrack (by rw [hkind, heq])
    rcases mem_kindEvents he with rfl | ⟨name, v, rfl⟩
    · simpa [isNoVideo] using hvideo
    · simpa [isNoVideo] using hvideo

end TrackList

/-! ## Stream summaries -/

theorem mem_videoPartEvents {part : String} {e : SurveyEvent} (h : e ∈ videoPartEvents part) :
    ∃ name v, e = .field .video name v ∧ name.isFormatField = false := by
  have hfield : ∀ {name : FieldName} {v : String}, name.isFormatField = false →
      e = reported .video name v →
      ∃ name v, e = .field .video name v ∧ name.isFormatField = false := by
    intro name v hname he
    exact ⟨name, v, he, hname⟩
  unfold videoPartEvents at h
  dsimp only at h
  rcases List.mem_append.mp h with h | h
  · split at h
    · rcases List.mem_append.mp h with h | h
      · rcases List.mem_cons.mp h with h | h
        · exact hfield rfl h
        · exact hfield rfl (List.mem_singleton.mp h)
      · obtain ⟨a, -, rfl⟩ := Option.map_eq_some_iff.mp (Option.mem_toList.mp h)
        exact hfield rfl rfl
    · split at h
      · exact hfield rfl (List.mem_singleton.mp h)
      · split at h
        · exact hfield rfl (List.mem_singleton.mp h)
        · split at h
          · rcases List.mem_cons.mp h with h | h
            · exact hfield rfl h
            · exact hfield rfl (List.mem_singleton.mp h)
          · split at h
            · rcases List.mem_cons.mp h with h | h
              · exact hfield rfl h
              · exact hfield rfl (List.mem_singleton.mp h)
            · exact absurd h (by simp)
  · obtain ⟨a, -, rfl⟩ := Option.map_eq_some_iff.mp (Option.mem_toList.mp h)
    exact hfield rfl rfl

theorem mem_audioPartEvents {afterRate : Bool} {parts : List String} {e : SurveyEvent}
    (h : e ∈ audioPartEvents afterRate parts) : ∃ name v, e = .field .audio name v := by
  induction parts generalizing afterRate with
  | nil => exact absurd h (by simp [audioPartEvents])
  | cons part rest ih =>
    unfold audioPartEvents at h
    split at h
    · rcases List.mem_cons.mp h with rfl | h
      · exact ⟨_, _, rfl⟩
      · exact ih h
    · split at h
      · rcases List.mem_cons.mp h with rfl | h
        · exact ⟨_, _, rfl⟩
        · exact ih h
      · split at h
        · rcases List.mem_cons.mp h with rfl | h
          · exact ⟨_, _, rfl⟩
          · exact ih h
        · rcases List.mem_append.mp h with h | h
          · obtain ⟨a, -, rfl⟩ := Option.map_eq_some_iff.mp (Option.mem_toList.mp h)
            exact ⟨_, _, rfl⟩
          · exact ih h

theorem isOther_audioEvents {parts : List String} {e : SurveyEvent} (h : e ∈ audioEvents parts) :
    isOther e = true := by
  unfold audioEvents codecEvents at h
  simp only [List.mem_append, List.mem_cons, Option.mem_toList, Option.map_eq_some_iff] at h
  rcases h with ((rfl | rfl | ⟨a, -, rfl⟩) | ⟨a, -, rfl⟩) | h
  · rfl
  · rfl
  · rfl
  · rfl
  · obtain ⟨name, v, rfl⟩ := mem_audioPartEvents h
    simp [isOther]

theorem isOther_subtitleEvents {parts : List String} {rest : List Char} {e : SurveyEvent}
    (h : e ∈ subtitleEvents parts rest) : isOther e = true := by
  unfold subtitleEvents at h
  simp only [List.mem_append, List.mem_cons, List.not_mem_nil, or_false] at h
  rcases h with ((rfl | rfl) | h) | h
  · rfl
  · rfl
  · split at h
    · rw [List.mem_singleton.mp h]
      rfl
    · exact absurd h (by simp)
  · split at h
    · rw [List.mem_singleton.mp h]
      rfl
    · exact absurd h (by simp)

/-- What a line tells of a video stream after its codec: its profile, the further parts, and the
language. -/
def laterVideoEvents (parts : List String) (language : Option String) : List SurveyEvent :=
  fieldIfAny .video .formatProfile (codecProfile? (parts.headD "")) ++
    (parts.tail.flatMap videoPartEvents ++ fieldIfAny .video .language language)

theorem videoEvents_eq (parts : List String) (language : Option String) :
    videoEvents parts ++ (language.map (reported .video .language)).toList =
      .begin .video :: (fieldIfAny .video .format (some (codecWord (parts.headD ""))) ++
        fieldIfAny .video .formatVersion none ++ laterVideoEvents parts language) := by
  simp only [videoEvents, codecEvents, laterVideoEvents, fieldIfAny, Option.map_some,
    Option.toList_some, Option.map_none, Option.toList_none, List.append_assoc, List.cons_append,
    List.nil_append]
  rfl

theorem keepsCodec_laterVideoEvents {parts : List String} {language : Option String}
    {e : SurveyEvent} (h : e ∈ laterVideoEvents parts language) : e.keepsCodec = true := by
  unfold laterVideoEvents fieldIfAny at h
  rcases List.mem_append.mp h with h | h
  · obtain ⟨v, -, rfl⟩ := Option.map_eq_some_iff.mp (Option.mem_toList.mp h)
    rfl
  · rcases List.mem_append.mp h with h | h
    · obtain ⟨part, -, h⟩ := List.mem_flatMap.mp h
      obtain ⟨name, v, rfl, hname⟩ := mem_videoPartEvents h
      cases name <;> first | rfl | exact absurd hname (by simp [FieldName.isFormatField])
    · obtain ⟨v, -, rfl⟩ := Option.map_eq_some_iff.mp (Option.mem_toList.mp h)
      rfl

namespace SummaryState

theorem isOther_language {kind : StreamKind} {language : Option String} {e : SurveyEvent}
    (h : e ∈ (language.map (reported kind .language)).toList) : isOther e = true := by
  obtain ⟨v, -, rfl⟩ := Option.map_eq_some_iff.mp (Option.mem_toList.mp h)
  exact isOther_field rfl

theorem isOther_entryEvents {st : SummaryState} {key value : String} {e : SurveyEvent}
    (h : e ∈ st.entryEvents key value) : isOther e = true := by
  unfold entryEvents at h
  split at h
  · rw [List.mem_singleton.mp h]
    rfl
  · split at h
    · rw [List.mem_singleton.mp h]
      exact isOther_field rfl
    · exact absurd h (by simp)
  · exact absurd h (by simp)

/-- **What a line tells** is the beginning of a video stream, or of no account for its codec. -/
theorem step_events (st : SummaryState) (line : SummaryLine) :
    (∃ (parts : List String) (language : Option String), (st.step line).2 =
      videoEvents parts ++ (language.map (reported .video .language)).toList) ∨
    ∀ e ∈ (st.step line).2, isOther e = true := by
  by_cases hinput : ∃ format, line = .input format
  · obtain ⟨format, rfl⟩ := hinput
    refine Or.inr fun e he => ?_
    rcases List.mem_cons.mp he with rfl | he
    · rfl
    · rw [List.mem_singleton.mp he]
      rfl
  by_cases hseen : st.seenInput = true
  · cases line with
    | input format => exact absurd ⟨format, rfl⟩ hinput
    | duration length bitrate =>
      refine Or.inr fun e he => ?_
      simp only [step, hseen, Bool.not_true, Bool.false_eq_true, if_false, List.mem_cons,
        Option.mem_toList, Option.map_eq_some_iff] at he
      rcases he with rfl | ⟨rate, -, rfl⟩
      · rfl
      · rfl
    | stream index language type rest =>
      simp only [step, hseen, Bool.not_true, Bool.false_eq_true, if_false, streamStep]
      cases type with
      | video =>
        dsimp only
        split
        · exact Or.inr fun e he => absurd he (by simp)
        · exact Or.inl ⟨topLevelParts rest, language, rfl⟩
      | audio =>
        refine Or.inr fun e he => ?_
        rcases List.mem_append.mp he with he | he
        · exact isOther_audioEvents he
        · exact isOther_language he
      | subtitle =>
        refine Or.inr fun e he => ?_
        rcases List.mem_append.mp he with he | he
        · exact isOther_subtitleEvents he
        · exact isOther_language he
      | data | attachment => exact Or.inr fun e he => absurd he (by simp)
    | entry key value =>
      refine Or.inr fun e he => ?_
      simp only [step, hseen, Bool.not_true, Bool.false_eq_true, if_false] at he
      split at he
      · exact isOther_entryEvents he
      · exact absurd he (by simp)
    | metadataHeading | other =>
      refine Or.inr fun e he => absurd he ?_
      simp [step, hseen]
  · have hnothing : (st.step line).2 = [] := by
      cases line with
      | input format => exact absurd ⟨format, rfl⟩ hinput
      | _ => simp [step, hseen]
    rw [hnothing]
    exact Or.inr fun e he => absurd he (by simp)

/-- One line keeps what holds between two streams, and begins one video stream at most. -/
theorem quiet_line {s : Survey} (h : s.core.Quiet) (hroom : s.core.streams.toNat + 1 < UInt32.size)
    (st : SummaryState) (line : SummaryLine) :
    (s.run (st.step line).2).core.Quiet ∧
      (s.run (st.step line).2).core.streams.toNat ≤ s.core.streams.toNat + 1 := by
  rcases step_events st line with ⟨parts, language, hevents⟩ | hothers
  · rw [hevents, videoEvents_eq]
    obtain ⟨hquiet, hstreams⟩ := quiet_videoStream h hroom (some (codecWord (parts.headD ""))) none
      fun e he => keepsCodec_laterVideoEvents he
    refine ⟨hquiet, ?_⟩
    rw [hstreams, UInt32.toNat_add]
    exact Nat.mod_le _ _
  · obtain ⟨hquiet, hstreams⟩ := quiet_others h hothers
    refine ⟨hquiet, ?_⟩
    rw [hstreams]
    exact Nat.le_succ _

/-- **A summary leaves a level of its codec**, whatever its lines are. -/
theorem quiet_lines {s : Survey} (h : s.core.Quiet) (st : SummaryState) {lines : List SummaryLine}
    (hroom : s.core.streams.toNat + lines.length < UInt32.size) :
    (s.run (st.run lines).2).core.Quiet := by
  induction lines generalizing s st with
  | nil => exact h
  | cons line rest ih =>
    rw [List.length_cons] at hroom
    obtain ⟨hquiet, hstreams⟩ := quiet_line h (by omega) st line
    have hevents : (st.run (line :: rest)).2 = (st.step line).2 ++ ((st.step line).1.run rest).2 :=
      rfl
    rw [hevents, run_append]
    exact ih hquiet _ (by omega)

end SummaryState

end MediaIndex
