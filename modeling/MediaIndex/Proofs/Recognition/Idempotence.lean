import MediaIndex.Proofs.Recognition
import MediaIndex.Proofs.Vocabulary

/-!
# A token read twice

Reports repeat themselves, and a file is read again after it was settled. So a token is read for
what it has settled itself, and by then the gates of its rule may stand differently: `Layer 3` makes
an MPEG audio stream an MP3, and there is no MPEG audio left for the next `Layer 3`.

> **`recognise_idempotent`**: a token that is read again changes nothing, whatever it was and
> whatever was settled. If it named a format, then the name of that format is read as just that.

A rule that asks for what is settled names the same format whenever it names one (`Answer.named`).
Hence the second reading, if it says anything, says what is settled by then (`Answer.given_again`).
The container is the other thing to be looked after: it may be renamed, but then by a name that is
not renamed again.
-/

set_option autoImplicit false

namespace MediaIndex

variable {kind : StreamKind} {known : Settled} {r : Recognition} {f : Format} {token : String}

/-! ## Codecs in their container -/

namespace Settled

/-- Whether a codec may stay in the container that is settled. -/
def Fits (known : Settled) (kind : StreamKind) (codec : Format) : Prop :=
  kind = .video → known.container = some .wmv → codec = .wmv ∨ codec = .vc1

theorem asfContainer_of_fits (h : ∀ f, r.meaning = some (.format f) → known.Fits kind f) :
    asfContainer kind known r = r := by
  unfold asfContainer
  split
  · rename_i codec hcodec
    refine if_neg ?_
    rintro ⟨hcontainer, hwmv, hvc1⟩
    rcases h codec hcodec rfl hcontainer with rfl | rfl
    · exact hwmv rfl
    · exact hvc1 rfl
  · rfl

theorem container_asfContainer (kind : StreamKind) (known : Settled) (r : Recognition) :
    (asfContainer kind known r).container = r.container ∨
      (asfContainer kind known r).container = some .asf := by
  unfold asfContainer
  split
  · split
    · exact .inr rfl
    · exact .inl rfl
  · exact .inl rfl

end Settled

/-! ## Answers -/

namespace Answer

/-- The format that an answer names, where what is settled lets it name one. -/
def named : Answer → Format
  | format f => f
  | firstVersion => .mpeg1
  | layerThree => .mp3
  | layerTwo => .mp2
  | losslessDts => .dtsHd
  | plainPcm => .lpcm

theorem meaning_given (a : Answer) (known : Settled) :
    (a.given known).meaning = none ∨ (a.given known).meaning = some (.format a.named) := by
  cases a with
  | format f => exact .inr rfl
  | layerThree =>
    by_cases haudio : known.audioCodec = some .mpa
    · right
      simp only [given, if_pos haudio, named]
      split <;> rfl
    · left
      simp only [given, if_neg haudio]
      split <;> rfl
  | firstVersion | layerTwo | losslessDts | plainPcm =>
    simp only [given, named]
    split <;> simp

/-- A container is renamed by the layers of MPEG audio alone, and only a bare one. -/
theorem container_given (a : Answer) (known : Settled) :
    (a.given known).container = none ∨
      (known.container = some .mpa ∧ (a.given known).container = some a.named ∧
        (a = .layerThree ∨ a = .layerTwo)) := by
  cases a with
  | format f => exact .inl rfl
  | layerThree =>
    by_cases hbare : known.container = some .mpa
    · exact .inr ⟨hbare, by simp only [given, if_pos hbare, named], .inl rfl⟩
    · exact .inl (by simp only [given, if_neg hbare])
  | layerTwo =>
    by_cases hbare : known.audioCodec = some .mpa ∧ known.container = some .mpa
    · exact .inr ⟨hbare.2, by simp only [given, if_pos hbare, named], .inr rfl⟩
    · exact .inl (by simp only [given, if_neg hbare])
  | firstVersion | losslessDts | plainPcm =>
    simp only [given]
    split <;> exact .inl rfl

/-- The second layer names and renames in one go. -/
theorem given_layerTwo (known : Settled) :
    layerTwo.given known = {} ∨ layerTwo.given known = ⟨some (.format .mp2), some .mp2⟩ := by
  by_cases hbare : known.audioCodec = some .mpa ∧ known.container = some .mpa
  · exact .inr (if_pos hbare)
  · exact .inl (if_neg hbare)

/-- A layer that names a format has renamed the bare container. -/
theorem container_ne_of_layer {a : Answer} (ha : a = .layerThree ∨ a = .layerTwo)
    (hnamed : (a.given known).meaning = some (.format a.named))
    (hkept : (a.given known).container = none) : known.container ≠ some .mpa := by
  rcases ha with rfl | rfl
  · intro hbare
    simp only [given, if_pos hbare] at hkept
    exact absurd hkept (by simp)
  · rcases given_layerTwo known with hsilent | hboth
    · rw [hsilent] at hnamed
      exact absurd hnamed (by simp)
    · rw [hboth] at hkept
      exact absurd hkept (by simp)

/-- After a layer that names a format there is no bare container to rename. -/
theorem container_ne_after {a : Answer} (hkind : kind ≠ .text)
    (ha : a = .layerThree ∨ a = .layerTwo)
    (hnamed : (a.given known).meaning = some (.format a.named)) :
    (known.apply kind (asfContainer kind known (a.given known))).container ≠ some .mpa := by
  have hother : a.named ≠ .mpa := by
    rcases ha with rfl | rfl <;> decide
  by_cases hgeneral : kind = .general
  · -- what is named is the container
    subst hgeneral
    have hcontainer : (known.apply .general
        (asfContainer .general known (a.given known))).container = some a.named :=
      Settled.formatFor_apply hkind ((meaning_asfContainer _).trans hnamed)
    rw [hcontainer]
    exact fun h => hother (Option.some.inj h)
  · rw [Settled.container_apply hgeneral]
    rcases Settled.container_asfContainer kind known (a.given known) with hsame | hasf
    · rw [hsame]
      rcases a.container_given known with hkept | ⟨-, hrenamed, -⟩
      · rw [hkept, Option.none_or]
        exact container_ne_of_layer ha hnamed hkept
      · rw [hrenamed, Option.some_or]
        exact fun h => hother (Option.some.inj h)
    · rw [hasf, Option.some_or]
      decide

/-- **The same answer once more.** Its first outcome has been taken into account, and now it renames
nothing and names nothing but what is settled. -/
theorem given_again (hkind : kind ≠ .text) (a : Answer) {after : Settled}
    (hafter : after = known.apply kind (asfContainer kind known (a.given known))) :
    (a.given after).container = none ∧
      ∀ f, (a.given after).meaning = some (.format f) → after.formatFor kind = some f := by
  rcases a.meaning_given known with hsilent | hnamed
  · have hunnamed : ∀ f, (a.given known).meaning ≠ some (.format f) := by simp [hsilent]
    have hsame : asfContainer kind known (a.given known) = a.given known :=
      Settled.asfContainer_of_fits fun f hf => absurd hf (hunnamed f)
    rw [hsame, Settled.apply_of_unnamed hunnamed] at hafter
    rcases a.container_given known with hkept | ⟨hbare, hrenamed, rfl | rfl⟩
    · -- nothing was said at all
      rw [Settled.renamed_eq_self (.inl hkept)] at hafter
      subst hafter
      exact ⟨hkept, fun f hf => absurd hf (hunnamed f)⟩
    · -- only the container was renamed, since there is no stream of MPEG audio
      have haudio : known.audioCodec ≠ some .mpa := by
        intro haudio
        simp only [given, if_pos haudio, if_pos hbare] at hsilent
        exact absurd hsilent (by simp)
      have hcontainer : after.container = some .mp3 := by
        rw [hafter, Settled.renamed, hrenamed]
        rfl
      have haudio' : after.audioCodec ≠ some .mpa := by
        rw [hafter]
        exact haudio
      simp [given, hcontainer, haudio']
    · rcases given_layerTwo known with hneither | hboth
      · rw [hneither] at hrenamed
        exact absurd hrenamed (by simp)
      · rw [hboth] at hsilent
        exact absurd hsilent (by simp)
  · have hsettled : after.formatFor kind = some a.named := by
      rw [hafter]
      refine Settled.formatFor_apply hkind ?_
      rw [meaning_asfContainer, hnamed]
    refine ⟨?_, fun f hf => ?_⟩
    · rcases a.container_given after with hkept | ⟨hbare, -, ha⟩
      · exact hkept
      · rw [hafter] at hbare
        exact absurd hbare (container_ne_after hkind ha hnamed)
    · rcases a.meaning_given after with hsilent | hagain
      · exact absurd (hsilent.symm.trans hf) (by simp)
      · have hsame : a.named = f := by simpa [hagain] using hf
        rw [hsettled, hsame]

end Answer

/-! ## Tokens -/

theorem recogniseToken_of_settled (hsettled : known.formatFor kind = some f)
    (hname : f.name = token) :
    recogniseToken kind token known = { meaning := some (.format f) } := by
  unfold recogniseToken
  rw [hsettled, Option.filter_some, if_pos (by simp [hname])]

/-- The ways in which a token can be read. -/
inductive TokenRead (kind : StreamKind) (token : String) (known : Settled) : Recognition → Prop
  /-- It is the name of the settled format. -/
  | settled {f : Format} (hsettled : known.formatFor kind = some f) (hname : f.name = token) :
      TokenRead kind token known { meaning := some (.format f) }
  | answered {a : Answer} (hother : ∀ f, known.formatFor kind = some f → f.name ≠ token)
      (hanswer : answerFor? kind token = some a) : TokenRead kind token known (a.given known)
  | unknown {r : Recognition} (hanswer : answerFor? kind token = none)
      (hcontainer : r.container = none) (hmeaning : ∀ f, r.meaning ≠ some (.format f)) :
      TokenRead kind token known r

theorem tokenRead (kind : StreamKind) (token : String) (known : Settled) :
    TokenRead kind token known (recogniseToken kind token known) := by
  by_cases hname : ∃ f, known.formatFor kind = some f ∧ f.name = token
  · obtain ⟨f, hsettled, hname⟩ := hname
    rw [recogniseToken_of_settled hsettled hname]
    exact .settled hsettled hname
  · have hother : ∀ f, known.formatFor kind = some f → f.name ≠ token :=
      fun f hsettled hf => hname ⟨f, hsettled, hf⟩
    have hfilter : ((known.formatFor kind).filter fun f => f.name == token) = none := by
      rw [Option.filter_eq_none_iff]
      simpa using hother
    cases hanswer : answerFor? kind token with
    | some a =>
      simp only [recogniseToken, hfilter, hanswer]
      exact .answered hother hanswer
    | none =>
      simp only [recogniseToken, hfilter, hanswer]
      split
      · exact .unknown hanswer rfl (by simp)
      · exact .unknown hanswer rfl (by simp)

/-- A new container is one of the layers. -/
theorem container_recogniseToken {container : Format}
    (h : (recogniseToken kind token known).container = some container) :
    container = .mp3 ∨ container = .mp2 := by
  have hread := tokenRead kind token known
  generalize recogniseToken kind token known = r at h hread
  cases hread with
  | settled hsettled hname => exact absurd h (by simp)
  | unknown hanswer hcontainer hmeaning => exact absurd (h.symm.trans hcontainer) (by simp)
  | @answered a hother hanswer =>
    rcases a.container_given known with hkept | ⟨-, hrenamed, rfl | rfl⟩
    · exact absurd (h.symm.trans hkept) (by simp)
    · exact .inl (Option.some.inj (h.symm.trans hrenamed))
    · exact .inr (Option.some.inj (h.symm.trans hrenamed))

section Again

/-! A token has been read, its outcome is taken into account, and it is read again. -/

variable {after : Settled}
  (hafter : after = known.apply kind (asfContainer kind known (recogniseToken kind token known)))

include hafter

/-- **A token once more.** -/
theorem recogniseToken_again (hkind : kind ≠ .text) :
    (recogniseToken kind token after).container = none ∧
      ∀ f, (recogniseToken kind token after).meaning = some (.format f) →
        after.formatFor kind = some f := by
  have hsecond := tokenRead kind token after
  generalize recogniseToken kind token after = again at hsecond ⊢
  cases hsecond with
  | settled hsettled hname => exact ⟨rfl, by rintro f ⟨rfl⟩; exact hsettled⟩
  | unknown _ hcontainer hmeaning => exact ⟨hcontainer, fun f hf => absurd hf (hmeaning f)⟩
  | @answered a hother hanswer =>
    have hfirst := tokenRead kind token known
    generalize recogniseToken kind token known = r at hafter hfirst
    cases hfirst with
    | @settled f hsettled hname =>
      -- its name would have been found again
      have hstill : after.formatFor kind = some f := by
        rw [hafter]
        exact Settled.formatFor_apply hkind (meaning_asfContainer _)
      exact absurd hname (hother f hstill)
    | unknown hnone _ _ => exact absurd (hnone.symm.trans hanswer) (by simp)
    | @answered b _ hfirst =>
      obtain rfl : b = a := Option.some.inj (hfirst.symm.trans hanswer)
      exact Answer.given_again hkind b hafter

/-- A codec fits once it is settled: a container of Windows Media that holds another one is plain
ASF by then. -/
theorem fits_of_named
    (hnamed : (recogniseToken kind token known).meaning = some (.format f)) :
    after.Fits kind f := by
  rintro rfl hcontainer
  rw [hafter, Settled.container_apply (by simp)] at hcontainer
  generalize hr : recogniseToken .video token known = r at hnamed hcontainer
  have hasf : asfContainer .video known r =
      if known.container = some .wmv ∧ f ≠ .wmv ∧ f ≠ .vc1 then { r with container := some .asf }
      else r := by
    simp only [asfContainer, hnamed]
  by_cases hgate : known.container = some .wmv ∧ f ≠ .wmv ∧ f ≠ .vc1
  · rw [hasf, if_pos hgate] at hcontainer
    exact absurd hcontainer (by simp)
  · rw [hasf, if_neg hgate] at hcontainer
    have hknown : known.container = some .wmv := by
      rcases Option.or_eq_some_iff.mp hcontainer with hrenamed | ⟨-, hknown⟩
      · rcases container_recogniseToken (hr ▸ hrenamed) with h | h <;> exact absurd h (by decide)
      · exact hknown
    exact Decidable.or_iff_not_not_and_not.mpr fun hf => hgate ⟨hknown, hf.1, hf.2⟩

/-- What a token names when it is read once more fits. -/
theorem fits_again (hkind : kind ≠ .text)
    (hf : (recogniseToken kind token after).meaning = some (.format f)) : after.Fits kind f := by
  have hagain := (recogniseToken_again hafter hkind).2 f hf
  by_cases hnamed : ∃ g, (recogniseToken kind token known).meaning = some (.format g)
  · obtain ⟨g, hg⟩ := hnamed
    have hsettled : after.formatFor kind = some g := by
      rw [hafter]
      exact Settled.formatFor_apply hkind ((meaning_asfContainer _).trans hg)
    obtain rfl : g = f := Option.some.inj (hsettled.symm.trans hagain)
    exact fits_of_named hafter hg
  · have hunnamed : ∀ g, (recogniseToken kind token known).meaning ≠ some (.format g) :=
      fun g hg => hnamed ⟨g, hg⟩
    have hsame : asfContainer kind known (recogniseToken kind token known) =
        recogniseToken kind token known :=
      Settled.asfContainer_of_fits fun g hg => absurd hg (hunnamed g)
    rw [hsame, Settled.apply_of_unnamed hunnamed] at hafter
    cases hcontainer : (recogniseToken kind token known).container with
    | none =>
      -- nothing was said, so nothing is said again
      rw [Settled.renamed_eq_self (.inl hcontainer)] at hafter
      exact absurd (hafter ▸ hf) (hunnamed f)
    | some container =>
      intro _ hwmv
      rw [hafter, Settled.renamed, hcontainer, Option.some_or] at hwmv
      rcases container_recogniseToken hcontainer with rfl | rfl <;> exact absurd hwmv (by simp)

end Again

/-! ## Raw tokens -/

theorem recognise_eq {raw : String} (known : Settled) (hkind : kind ≠ .text)
    (htoken : token.isEmpty = false) (hraw : Text.lower (Text.trim raw) = token) :
    recognise kind raw known =
      dropSameContainer known (asfContainer kind known (recogniseToken kind token known)) := by
  simp only [recognise, hraw, htoken, Bool.false_eq_true, if_false]

theorem Format.token_name (f : Format) :
    Text.lower (Text.trim f.name) = f.name ∧ f.name.isEmpty = false := by
  have h : ∀ f ∈ Format.all,
      Text.lower (Text.trim f.name) = f.name ∧ f.name.isEmpty = false := by decide +kernel
  exact h f f.mem_all

/-- The name of the settled format means that format. -/
theorem recognise_name (hkind : kind ≠ .text) (hsettled : known.formatFor kind = some f)
    (hfits : known.Fits kind f) :
    recognise kind f.name known = { meaning := some (.format f) } := by
  rw [recognise_eq known hkind f.token_name.2 f.token_name.1,
    recogniseToken_of_settled hsettled rfl,
    Settled.asfContainer_of_fits (by rintro g ⟨rfl⟩; exact hfits)]
  unfold dropSameContainer
  split <;> rfl

/-- A token of a text stream, or one of which nothing is left, names no format and no container. -/
theorem recognise_silent {raw : String}
    (h : kind = .text ∨ (Text.lower (Text.trim raw)).isEmpty = true) (known : Settled) :
    (recognise kind raw known).container = none ∧
      ∀ f, (recognise kind raw known).meaning ≠ some (.format f) := by
  rcases h with rfl | hblank
  · refine ⟨?_, fun f hf => ?_⟩
    · simp only [recognise]
      split <;> rfl
    · obtain ⟨s, hs⟩ := @meaning_recognise_text known raw
      rw [hs] at hf
      cases s <;> exact absurd hf (by simp)
  · have hnothing : recognise kind raw known = {} := by simp only [recognise, hblank, if_true]
    rw [hnothing]
    exact ⟨rfl, by simp⟩

/-- **Reading a token twice.** For every kind of stream, every token and everything that may be
settled: the token read again changes nothing of what it has settled, and the name of a format that
it has named is read as that format, with no word on the container. -/
theorem recognise_idempotent (kind : StreamKind) (raw : String) (known : Settled) :
    let first := recognise kind raw known
    let after := known.apply kind first
    after.apply kind (recognise kind raw after) = after ∧
      ∀ f, first.meaning = some (.format f) →
        recognise kind f.name after = { meaning := some (.format f) } := by
  intro first after
  by_cases hsilent : kind = .text ∨ (Text.lower (Text.trim raw)).isEmpty = true
  · have hnothing := recognise_silent hsilent
    refine ⟨Settled.apply_eq_self (.inl (hnothing after).1) fun f hf => ?_, fun f hf => ?_⟩
    · exact absurd hf ((hnothing after).2 f)
    · exact absurd hf ((hnothing known).2 f)
  · obtain ⟨hkind, hblank⟩ := not_or.mp hsilent
    generalize htoken : Text.lower (Text.trim raw) = token at hblank
    have hraw (known : Settled) := recognise_eq known hkind (by simpa using hblank) htoken
    have hafter : after = known.apply kind
        (asfContainer kind known (recogniseToken kind token known)) := by
      rw [← Settled.apply_dropSameContainer, ← hraw known]
    obtain ⟨hcontainer, hmeaning⟩ := recogniseToken_again hafter hkind
    refine ⟨?_, fun f hf => ?_⟩
    · rw [hraw after, Settled.apply_dropSameContainer,
        Settled.asfContainer_of_fits fun f hf => fits_again hafter hkind hf]
      exact Settled.apply_eq_self (.inl hcontainer) hmeaning
    · have hnamed : (recogniseToken kind token known).meaning = some (.format f) := by
        rw [← hf, show first = _ from hraw known, meaning_dropSameContainer, meaning_asfContainer]
      exact recognise_name hkind (Settled.formatFor_apply hkind hf) (fits_of_named hafter hnamed)

/-- Video of another family in a container of Windows Media. -/
theorem recognise_idempotent_asf :
    let known : Settled := { container := some .wmv, audioCodec := some .mpa }
    recognise .video "AVC" known = ⟨some (.format .h264), some .asf⟩ ∧
      (let after : Settled := ⟨some .asf, some .h264, some .mpa⟩
       after.apply .video (recognise .video "AVC" after) = after ∧
        recognise .video "h264" after = { meaning := some (.format .h264) }) := by
  have hfirst : recognise .video "AVC" { container := some .wmv, audioCodec := some .mpa } =
      ⟨some (.format .h264), some .asf⟩ := by decide +kernel
  obtain ⟨hagain, hname⟩ :=
    recognise_idempotent .video "AVC" { container := some .wmv, audioCodec := some .mpa }
  rw [hfirst] at hagain hname
  exact ⟨hfirst, hagain, hname .h264 rfl⟩

end MediaIndex
