import MediaIndex.Recognition

/-!
# What a token can mean

Recognition goes through several hands: a rule or a name gives an answer, the answer is worked out
for what is settled, and the container is looked at again. The last of these do not touch the
meaning, so what is said of meanings is said of `recogniseToken`.

The one meaning that is not a name is a profile with its level. It is only ever read for a video
stream, and for the codec that is settled at that moment (`profile_of_recognise`).
-/

set_option autoImplicit false

namespace MediaIndex

variable {kind : StreamKind} {known : Settled} {token : String}

/-! ## Rules and their tests -/

/-- Whether a test asks for some of the given words and for nothing else. -/
def TokenTest.isAmong (words : List String) : TokenTest → Bool
  | .isOneOf asked => asked.all words.contains
  | _ => false

theorem TokenTest.mem_of_isAmong {words : List String} {test : TokenTest}
    (htest : test.isAmong words = true) (h : test.passes token = true) : token ∈ words := by
  cases test with
  | isOneOf asked =>
    have hasked : token ∈ asked := List.contains_iff_mem.mp h
    exact List.contains_iff_mem.mp (List.all_eq_true.mp htest token hasked)
  | _ => exact absurd htest (by simp [isAmong])

/-- An answer that no name comes to is that of a rule. -/
theorem exists_rule_of_answerFor? {a : Answer} (h : answerFor? kind token = some a)
    (hname : ∀ f, a ≠ .format f) :
    ∃ rule ∈ tokenRules, rule.answer = a ∧ rule.applies kind token = true := by
  unfold answerFor? at h
  split at h
  · rename_i rule hfind
    exact ⟨rule, List.mem_of_find?_eq_some hfind, Option.some.inj h, List.find?_some hfind⟩
  · obtain ⟨f, -, hf⟩ := Option.map_eq_some_iff.mp h
    exact absurd hf.symm (hname f)

/-- The codes of DV that are whole words. -/
def dvWords : List String :=
  ["dv", "dc25", "dcap", "dvrs", "dv25", "dv50", "dvan", "dvis", "dvnm", "mdvf", "pdvc", "r411",
    "r420", "sdcc", "sl25", "sl50", "sldv", "dvvideo"]

/-- The codes of DV that end in any one character or in none, without it. -/
def dvStems : List String := ["cdv", "dvc", "dvs", "dvh", "dvl", "dvp"]

theorem of_isDvCode (h : isDvCode token = true) :
    token ∈ dvWords ∨ ∃ stem ∈ dvStems, ∃ rest, Text.afterLead? stem token = some rest ∧
      rest.toList.length ≤ 1 := by
  rw [isDvCode, Bool.or_eq_true] at h
  rcases h with hword | hstem
  · exact .inl (List.contains_iff_mem.mp hword)
  · obtain ⟨stem, hmem, hrest⟩ := List.any_eq_true.mp hstem
    refine .inr ⟨stem, hmem, ?_⟩
    cases hafter : Text.afterLead? stem token with
    | none => simp [hafter] at hrest
    | some rest =>
      refine ⟨rest, rfl, ?_⟩
      rw [hafter, Option.map_some] at hrest
      split at hrest
      · rename_i hnil
        simp [Option.some.inj hnil]
      · rename_i hone
        simp [Option.some.inj hone]
      · exact absurd hrest (by simp)

/-! ## Meanings -/

theorem meaning_asfContainer (r : Recognition) :
    (asfContainer kind known r).meaning = r.meaning := by
  unfold asfContainer
  split
  · split <;> rfl
  · rfl

theorem meaning_dropSameContainer (r : Recognition) :
    (dropSameContainer known r).meaning = r.meaning := by
  unfold dropSameContainer
  split <;> rfl

theorem meaning_recognise_text (raw : String) :
    ∃ f : Option SubtitleFormat, (recognise .text raw known).meaning = f.map .subtitle := by
  simp only [recognise]
  split
  · exact ⟨none, rfl⟩
  · generalize recogniseSubtitle (Text.lower (Text.trim raw)) = f
    exact ⟨f, rfl⟩

/-- What a token of any other stream means is what it means before the container is looked at. -/
theorem meaning_recognise (hkind : kind ≠ .text) (raw : String) :
    (recognise kind raw known).meaning = none ∨
      (recognise kind raw known).meaning =
        (recogniseToken kind (Text.lower (Text.trim raw)) known).meaning := by
  simp only [recognise]
  split
  · exact Or.inl rfl
  · refine Or.inr ?_
    cases kind with
    | text => exact absurd rfl hkind
    | _ => rw [meaning_dropSameContainer, meaning_asfContainer]

/-- An answer is a format, if it is anything. -/
theorem Answer.format_of_given {answer : Answer} {m : Meaning}
    (h : (answer.given known).meaning = some m) : ∃ f, m = .format f := by
  cases answer with
  | format f => exact ⟨f, (Option.some.inj h).symm⟩
  | layerThree =>
    have hnamed :
        (if known.audioCodec = some .mpa then some (.format .mp3) else none) = some m := by
      simp only [given] at h
      split at h <;> exact h
    split at hnamed
    · exact ⟨_, (Option.some.inj hnamed).symm⟩
    · exact absurd hnamed (by simp)
  | firstVersion | layerTwo | losslessDts | plainPcm =>
    simp only [given] at h
    split at h <;> simp only [Option.some.injEq, reduceCtorEq] at h
    exact ⟨_, h.symm⟩

/-- **A token of a stream that is not text means a format**, unless it is a profile with its level,
which is read for the settled codec and for video streams alone. -/
theorem meaning_of_recognise {raw : String} {m : Meaning} (hkind : kind ≠ .text)
    (h : (recognise kind raw known).meaning = some m) :
    (∃ f, m = .format f) ∨
      (kind = .video ∧ ∃ token, m = .profileLevel (.ofText known.videoCodec token)) := by
  rcases @meaning_recognise _ known hkind raw with hnone | htoken
  · exact absurd (hnone.symm.trans h) (by simp)
  · rw [htoken] at h
    unfold recogniseToken at h
    split at h
    · exact Or.inl ⟨_, (Option.some.inj h).symm⟩
    · split at h
      · exact Or.inl (Answer.format_of_given h)
      · split at h
        · rename_i hvideo
          exact Or.inr ⟨hvideo.1, _, (Option.some.inj h).symm⟩
        · exact absurd h (by simp)

/-- **A profile is read for the settled codec**, and for video streams alone. -/
theorem profile_of_recognise {raw : String} {p : ProfileLevel}
    (h : (recognise kind raw known).meaning = some (.profileLevel p)) :
    kind = .video ∧ ∃ token, p = .ofText known.videoCodec token := by
  by_cases hkind : kind = .text
  · subst hkind
    obtain ⟨f, hf⟩ := @meaning_recognise_text known raw
    rw [hf] at h
    cases f <;> exact absurd h (by simp)
  · rcases meaning_of_recognise hkind h with ⟨f, hf⟩ | ⟨hvideo, token, htoken⟩
    · exact absurd hf (by simp)
    · exact ⟨hvideo, token, Meaning.profileLevel.inj htoken⟩

/-- Only a token of a subtitle stream means a format of subtitles. -/
theorem recognise_ne_subtitle {raw : String} {f : SubtitleFormat} (hkind : kind ≠ .text) :
    (recognise kind raw known).meaning ≠ some (.subtitle f) := by
  intro h
  rcases meaning_of_recognise hkind h with ⟨g, hg⟩ | ⟨-, token, htoken⟩
  · exact absurd hg (by simp)
  · exact absurd htoken (by simp)

/-! ## Taking an outcome into account -/

namespace Settled

variable {r : Recognition} {f : Format}

theorem formatFor_settle (hkind : kind ≠ .text) :
    (known.settle kind f).formatFor kind = some f := by
  cases kind with
  | text => exact absurd rfl hkind
  | general | video | audio | image => rfl

theorem container_settle (hkind : kind ≠ .general) :
    (known.settle kind f).container = known.container := by
  cases kind with
  | general => exact absurd rfl hkind
  | video | audio | image | text => rfl

theorem settle_eq_self (h : known.formatFor kind = some f) : known.settle kind f = known := by
  obtain ⟨container, videoCodec, audioCodec⟩ := known
  cases kind with
  | text => rfl
  | general | video | audio | image =>
    simp only [formatFor] at h
    simp only [settle, h]

/-- The settled formats with the container renamed, where it is. -/
def renamed (known : Settled) (r : Recognition) : Settled :=
  { known with container := r.container.or known.container }

theorem renamed_eq_self (h : r.container = none ∨ r.container = known.container) :
    known.renamed r = known := by
  unfold renamed
  rcases h with h | h
  · rw [h, Option.none_or]
  · rw [h, Option.or_self]

theorem apply_eq : known.apply kind r =
    match r.meaning with
    | some (.format f) => (known.renamed r).settle kind f
    | _ => known.renamed r := by
  unfold apply renamed
  cases r.container <;> rfl

theorem apply_of_named (h : r.meaning = some (.format f)) :
    known.apply kind r = (known.renamed r).settle kind f := by
  rw [apply_eq, h]

theorem apply_of_unnamed (h : ∀ f, r.meaning ≠ some (.format f)) :
    known.apply kind r = known.renamed r := by
  rw [apply_eq]
  split
  · rename_i f hf
    exact absurd hf (h f)
  · rfl

theorem formatFor_apply (hkind : kind ≠ .text) (h : r.meaning = some (.format f)) :
    (known.apply kind r).formatFor kind = some f := by
  rw [apply_of_named h]
  exact formatFor_settle hkind

theorem container_apply (hkind : kind ≠ .general) :
    (known.apply kind r).container = r.container.or known.container := by
  by_cases h : ∃ f, r.meaning = some (.format f)
  · obtain ⟨f, h⟩ := h
    rw [apply_of_named h, container_settle hkind, renamed]
  · rw [apply_of_unnamed (fun f hf => h ⟨f, hf⟩), renamed]

/-- What is settled already is not settled once more. -/
theorem apply_eq_self (hcontainer : r.container = none ∨ r.container = known.container)
    (hmeaning : ∀ f, r.meaning = some (.format f) → known.formatFor kind = some f) :
    known.apply kind r = known := by
  by_cases h : ∃ f, r.meaning = some (.format f)
  · obtain ⟨f, h⟩ := h
    rw [apply_of_named h, renamed_eq_self hcontainer, settle_eq_self (hmeaning f h)]
  · rw [apply_of_unnamed (fun f hf => h ⟨f, hf⟩), renamed_eq_self hcontainer]

theorem apply_dropSameContainer :
    known.apply kind (dropSameContainer known r) = known.apply kind r := by
  unfold dropSameContainer
  split
  · rename_i hsame
    have hrenamed : known.renamed { r with container := none } = known.renamed r := by
      rw [renamed_eq_self (.inl rfl), renamed_eq_self (.inr hsame)]
    rw [apply_eq, apply_eq, hrenamed]
  · rfl

end Settled

end MediaIndex
