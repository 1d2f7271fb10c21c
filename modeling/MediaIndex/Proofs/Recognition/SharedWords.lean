import MediaIndex.Proofs.Recognition.Idempotence

/-!
# Codecs of the other kind

A token is told of a stream of some kind, but most rules speak of streams of every kind, and so do
the names of the formats. A video stream of which `FLAC` is told is FLAC then (`flac_as_video`), and
nothing but the scope of a rule keeps the kinds apart.

> **`kind_law`**: a video stream is given an audio codec for a shared word only, and an audio stream
> is given the same codec for that word. The other way round there is one thing more: what an audio
> stream takes for a video codec may be motion JPEG or TGA to a video stream. An audio stream is
> given an image format for a shared word only, and it is that format to an image stream as well.

So a token never means more away from home than at home. Where a rule speaks of both kinds, the
streams at home get its answer too, unless a rule for these alone comes first (`Overtakes`); and of
most rules it can be seen that they have no token in common, since they ask for whole words
(`TokenRule.excludes`). What is left are the rules for motion JPEG and TGA, which look at a part of
a token, and the one for DV, whose codes are too short for the words that could be in its way
(`not_overtakes_dv`).
-/

set_option autoImplicit false

namespace MediaIndex

variable {asked home : StreamKind} {known : Settled} {token raw : String} {f : Format} {a : Answer}

/-! ## Rules without a token in common -/

/-- Whether one of two tests asks for words and the other lets none of them pass. -/
def TokenTest.excludes : TokenTest → TokenTest → Bool
  | .isOneOf words, test | test, .isOneOf words => words.all fun word => !test.passes word
  | _, _ => false

theorem TokenTest.not_passes_of_excludes {s t : TokenTest} (h : s.excludes t = true)
    (hs : s.passes token = true) : t.passes token = false := by
  unfold excludes at h
  split at h
  · have htoken := List.all_eq_true.mp h token (List.contains_iff_mem.mp hs)
    simpa using htoken
  · refine Bool.eq_false_iff.mpr fun ht => ?_
    have htoken := List.all_eq_true.mp h token (List.contains_iff_mem.mp ht)
    exact absurd hs (by simpa using htoken)
  · exact absurd h (by simp)

/-- Whether it can be seen from the tests of two rules that no token passes both: each test of the one
excludes each of the other. -/
def TokenRule.excludes (r s : TokenRule) : Bool :=
  r.tests.all fun test => s.tests.all test.excludes

theorem TokenRule.not_passes_of_excludes {r s : TokenRule} (h : r.excludes s = true)
    (hr : r.tests.any (·.passes token) = true) : s.tests.any (·.passes token) = false := by
  obtain ⟨test, htest, hpasses⟩ := List.any_eq_true.mp hr
  have hexcludes := List.all_eq_true.mp h test htest
  rw [List.any_eq_false]
  intro other hother
  have hnot := TokenTest.not_passes_of_excludes (List.all_eq_true.mp hexcludes other hother) hpasses
  simp [hnot]

/-! ## Names -/

/-- A rule that speaks of streams lets no name of a format pass but that of its own. -/
theorem answer_of_name :
    ∀ rule ∈ tokenRules, rule.scope ≠ .only .general → ∀ f ∈ Format.all,
      rule.tests.any (·.passes f.name) = true → rule.answer = .format f := by
  decide +kernel

/-- **A name is understood as a name**, whatever the kind of the stream. -/
theorem answerFor?_name {kind : StreamKind} (hkind : kind ≠ .general) (f : Format) :
    answerFor? kind f.name = some (.format f) := by
  unfold answerFor?
  split
  · rename_i rule hfind
    have happlies : rule.applies kind f.name = true := List.find?_some hfind
    obtain ⟨hcovers, hpasses⟩ := Bool.and_eq_true_iff.mp happlies
    have hscope : rule.scope ≠ .only .general := by
      intro hgeneral
      rw [hgeneral] at hcovers
      exact hkind (beq_iff_eq.mp hcovers).symm
    rw [answer_of_name rule (List.mem_of_find?_eq_some hfind) hscope f f.mem_all hpasses]
  · rw [f.ofName?_name, Option.map_some]

theorem meaning_of_answer {kind : StreamKind} (known : Settled)
    (ha : answerFor? kind token = some a) :
    (∃ g, g.name = token ∧ (recogniseToken kind token known).meaning = some (.format g)) ∨
      (recogniseToken kind token known).meaning = (a.given known).meaning := by
  have hread := tokenRead kind token known
  generalize recogniseToken kind token known = r at hread
  cases hread with
  | settled hsettled hname => exact .inl ⟨_, hname, rfl⟩
  | unknown hnone _ _ => exact absurd (hnone.symm.trans ha) (by simp)
  | answered _ hanswer =>
    obtain rfl := Option.some.inj (hanswer.symm.trans ha)
    exact .inr rfl

/-! ## Words of both kinds -/

/-- A word for a format with streams of both kinds: its name, or a word of a rule that speaks of
both. -/
def IsSharedWord (asked home : StreamKind) (token : String) (f : Format) : Prop :=
  f.name = token ∨
    ∃ rule ∈ tokenRules, rule.scope.covers asked = true ∧ rule.scope.covers home = true ∧
      rule.answer.named = f ∧ rule.tests.any (·.passes token) = true

/-- A rule for the streams at home alone gets hold of a token before a rule that speaks of the
others. -/
structure Overtakes (asked home : StreamKind) (token : String) (r s : TokenRule) : Prop where
  order : [r, s].Sublist tokenRules
  at_home : r.scope.covers home = true
  not_asked : r.scope.covers asked = false
  asked : s.scope.covers asked = true
  passes : r.tests.any (·.passes token) = true
  passes_too : s.tests.any (·.passes token) = true

theorem Overtakes.not_excludes {r s : TokenRule} (h : Overtakes asked home token r s) :
    r.excludes s = false := by
  refine Bool.eq_false_iff.mpr fun hexcludes => ?_
  exact absurd h.passes_too (by simp [TokenRule.not_passes_of_excludes hexcludes h.passes])

/-- A group of formats is at home with the streams of a kind, seen from those of another: a rule for
one of them speaks of the streams at home as well, and no rule for the streams at home alone comes
first but those for the formats listed. -/
structure IsHome (asked home : StreamKind) (group : FormatGroup) (first : List Format) : Prop where
  kinds : ∀ kind ∈ [asked, home], kind ≠ .general ∧ kind ≠ .text
  covers : ∀ rule ∈ tokenRules, rule.scope.covers asked = true →
    rule.answer.named.group = group → rule.scope.covers home = true
  order : tokenRules.Pairwise fun r s => r.scope.covers home = true →
    r.scope.covers asked = false → s.answer.named.group = group →
      r.excludes s = true ∨ r.answer ∈ first.map Answer.format

theorem audio_home : IsHome .video .audio .audio [] := by
  constructor <;> decide +kernel

theorem video_home : IsHome .audio .video .video [.mjpeg, .tga, .dv] := by
  constructor <;> decide +kernel

theorem image_home : IsHome .audio .image .image [] := by
  constructor <;> decide +kernel

namespace IsHome

variable {group : FormatGroup} {first : List Format}

theorem answer_at_home (h : IsHome asked home group first) (ha : answerFor? asked token = some a)
    (hgroup : a.named.group = group) :
    IsSharedWord asked home token a.named ∧
      (answerFor? home token = some a ∨
        ∃ r s, Overtakes asked home token r s ∧ s.answer = a ∧
          answerFor? home token = some r.answer) := by
  unfold answerFor? at ha
  split at ha
  · rename_i rule hfind
    obtain rfl : rule.answer = a := Option.some.inj ha
    obtain ⟨happlies, before, after, hrules, hbefore⟩ := List.find?_eq_some_iff_append.mp hfind
    obtain ⟨hasked, hpasses⟩ := Bool.and_eq_true_iff.mp happlies
    have hmem : rule ∈ tokenRules := List.mem_of_find?_eq_some hfind
    have hhome := h.covers rule hmem hasked hgroup
    refine ⟨.inr ⟨rule, hmem, hasked, hhome, rfl, hpasses⟩, ?_⟩
    have hthis : rule.applies home token = true := Bool.and_eq_true_iff.mpr ⟨hhome, hpasses⟩
    unfold answerFor?
    rw [hrules, List.find?_append, List.find?_cons_of_pos hthis]
    cases hearlier : before.find? (·.applies home token) with
    | none => exact .inl rfl
    | some r =>
      -- it passes the token and was skipped for the others, so it does not speak of them
      have hr := List.mem_of_find?_eq_some hearlier
      have hrapplies : r.applies home token = true := List.find?_some hearlier
      obtain ⟨hrhome, hrpasses⟩ := Bool.and_eq_true_iff.mp hrapplies
      have hnot : r.scope.covers asked = false := by
        have hskipped := hbefore r hr
        rw [TokenRule.applies, hrpasses, Bool.and_true] at hskipped
        simpa using hskipped
      have horder : [r, rule].Sublist tokenRules := by
        rw [hrules]
        exact (List.singleton_sublist.mpr hr).append
          (List.singleton_sublist.mpr List.mem_cons_self)
      exact .inr ⟨r, rule, ⟨horder, hrhome, hnot, hasked, hrpasses, hpasses⟩, rfl, rfl⟩
  · obtain ⟨f, hf, rfl⟩ := Option.map_eq_some_iff.mp ha
    obtain rfl : f.name = token := by simpa using List.find?_some hf
    exact ⟨.inl rfl, .inl (answerFor?_name (h.kinds home (by simp)).1 f)⟩

theorem first_of_overtakes (h : IsHome asked home group first) {r s : TokenRule}
    (ho : Overtakes asked home token r s) (hgroup : s.answer.named.group = group) :
    ∃ g ∈ first, r.answer = .format g := by
  have horder := List.pairwise_iff_forall_sublist.mp h.order ho.order ho.at_home ho.not_asked hgroup
  rcases horder with hexcludes | hfirst
  · exact absurd hexcludes (by simp [ho.not_excludes])
  · obtain ⟨g, hg, hanswer⟩ := List.mem_map.mp hfirst
    exact ⟨g, hg, hanswer.symm⟩

/-- **A format away from home**: the token is a word of both kinds, and it means the same format
with the streams at home unless an earlier rule answers for them. -/
theorem means_at_home (h : IsHome asked home group first)
    (hf : (recogniseToken asked token known).meaning = some (.format f))
    (hgroup : f.group = group) :
    IsSharedWord asked home token f ∧
      ((recogniseToken home token known).meaning = some (.format f) ∨
        ∃ g ∈ first, (recogniseToken home token known).meaning = some (.format g) ∧
          ∃ r s, Overtakes asked home token r s ∧ r.answer = .format g ∧
            s.answer.named.group = group) := by
  have hread := tokenRead asked token known
  generalize recogniseToken asked token known = r at hread hf
  cases hread with
  | unknown _ _ hmeaning => exact absurd hf (hmeaning f)
  | @settled g _ hname =>
    obtain rfl : g = f := by simpa using hf
    subst hname
    refine ⟨.inl rfl, .inl ?_⟩
    have hname := answerFor?_name (h.kinds home (by simp)).1 g
    rcases meaning_of_answer known hname with ⟨g', hname, hg'⟩ | hg
    · obtain rfl : g' = g := Format.name_injective hname
      exact hg'
    · exact hg
  | @answered a _ ha =>
    have hnamed : a.named = f := by
      rcases a.meaning_given known with hsilent | hnamed
      · exact absurd (hsilent.symm.trans hf) (by simp)
      · simpa using hnamed.symm.trans hf
    subst hnamed
    obtain ⟨hshared, hanswer⟩ := h.answer_at_home ha hgroup
    refine ⟨hshared, ?_⟩
    have hsettled : ∀ g : Format, g.name = token → a.named = g := by
      rintro g rfl
      rw [answerFor?_name (h.kinds asked (by simp)).1 g] at ha
      rw [← Option.some.inj ha, Answer.named]
    rcases hanswer with hsame | ⟨r, s, hovertakes, rfl, hearlier⟩
    · left
      rcases meaning_of_answer known hsame with ⟨g, hname, hg⟩ | hg
      · rw [hg, hsettled g hname]
      · rw [hg, hf]
    · rcases meaning_of_answer known hearlier with ⟨g, hname, hg⟩ | hg
      · exact .inl (by rw [hg, hsettled g hname])
      · obtain ⟨g, hfirst, hanswer⟩ := h.first_of_overtakes hovertakes hgroup
        rw [hanswer] at hg
        exact .inr ⟨g, hfirst, hg, r, s, hovertakes, hanswer, hgroup⟩

end IsHome

/-! ## Codes of DV -/

theorem Text.length_le_of_occursIn {part cs : List Char} (h : Text.occursIn part cs = true) :
    part.length ≤ cs.length := by
  induction cs with
  | nil =>
    obtain rfl : part = [] := by simpa [Text.occursIn] using h
    exact Nat.le_refl _
  | cons c cs ih =>
    rw [Text.occursIn, Bool.or_eq_true] at h
    rcases h with hhere | hlater
    · exact (List.isPrefixOf_iff_prefix.mp hhere).length_le
    · exact Nat.le_succ_of_le (ih hlater)

theorem Text.length_of_afterLead? {lead s rest : String} (h : Text.afterLead? lead s = some rest) :
    s.toList.length = lead.toList.length + rest.toList.length := by
  unfold Text.afterLead? at h
  split at h
  · rename_i hstarts
    obtain ⟨after, hafter⟩ : lead.toList <+: s.toList := List.isPrefixOf_iff_prefix.mp hstarts
    obtain rfl := Option.some.inj h
    rw [← hafter, String.toList_ofList, List.drop_left, List.length_append]
  · exact absurd h (by simp)

theorem length_of_isDvCode (h : isDvCode token = true) : token.toList.length < 10 := by
  rcases of_isDvCode h with hword | ⟨stem, hstem, rest, hafter, hrest⟩
  · have hwords : ∀ word ∈ dvWords, word.toList.length < 10 := by decide
    exact hwords token hword
  · have hstems : ∀ stem ∈ dvStems, stem.toList.length = 3 := by decide
    rw [Text.length_of_afterLead? hafter, hstems stem hstem]
    omega

theorem eq_of_mem_filter_singleton {α : Type} {p : α → Bool} {l : List α} {x y : α}
    (hl : l.filter p = [y]) (hx : x ∈ l) (hp : p x = true) : x = y :=
  List.mem_singleton.mp (hl ▸ List.mem_filter.mpr ⟨hx, hp⟩)

/-- The words for MPEG video are too long to be codes of DV. -/
theorem not_overtakes_dv {r s : TokenRule} (hr : r.answer = .format .dv)
    (hs : s.answer.named.group = .video) : ¬Overtakes .audio .video token r s := by
  have hrules : tokenRules.Pairwise fun r s => r.answer = .format .dv →
      s.answer.named.group = .video → s.scope.covers .audio = true →
        r.excludes s = true ∨ s.answer = .format .mpeg2 := by
    decide +kernel
  have hdv : tokenRules.filter (·.answer == .format .dv) =
      [.naming (.allBut .audio) .dv [.satisfies isDvCode]] := rfl
  have hmpeg : tokenRules.filter (·.answer == .format .mpeg2) =
      [.naming .every .mpeg2 [.holds "mpeg video", .isOneOf ["mpeg2video"]]] := rfl
  intro h
  rcases List.pairwise_iff_forall_sublist.mp hrules h.order hr hs h.asked with hexcludes | hmpeg2
  · exact absurd hexcludes (by simp [h.not_excludes])
  · have hrmem : r ∈ tokenRules := h.order.subset (by simp)
    have hsmem : s ∈ tokenRules := h.order.subset (by simp)
    obtain rfl := eq_of_mem_filter_singleton hdv hrmem (by simp [hr])
    obtain rfl := eq_of_mem_filter_singleton hmpeg hsmem (by simp [hmpeg2])
    have hcode : isDvCode token = true := by
      simpa [TokenRule.naming, TokenTest.passes] using h.passes
    have hshort := length_of_isDvCode hcode
    have hwords : Text.contains "mpeg video" token = true ∨ token = "mpeg2video" := by
      simpa [TokenRule.naming, TokenTest.passes] using h.passes_too
    rcases hwords with hholds | rfl
    · exact absurd (Text.length_le_of_occursIn hholds) (by simp; omega)
    · exact absurd hshort (by decide)

/-! ## Raw tokens -/

theorem meaning_recognise_of_named (h : (recognise asked raw known).meaning = some (.format f))
    {kind : StreamKind} (hkind : kind ≠ .text) :
    (recognise kind raw known).meaning =
      (recogniseToken kind (Text.lower (Text.trim raw)) known).meaning := by
  have htold : (Text.lower (Text.trim raw)).isEmpty = false := by
    refine Bool.eq_false_iff.mpr fun hblank => ?_
    exact (recognise_silent (.inr hblank) known).2 f h
  rw [recognise_eq known hkind htold rfl, meaning_dropSameContainer, meaning_asfContainer]

theorem IsHome.recognise_at_home {group : FormatGroup} {first : List Format}
    (h : IsHome asked home group first)
    (hf : (recognise asked raw known).meaning = some (.format f)) (hgroup : f.group = group) :
    IsSharedWord asked home (Text.lower (Text.trim raw)) f ∧
      ((recognise home raw known).meaning = some (.format f) ∨
        ∃ g ∈ first, (recognise home raw known).meaning = some (.format g) ∧
          ∃ r s, Overtakes asked home (Text.lower (Text.trim raw)) r s ∧
            r.answer = .format g ∧ s.answer.named.group = group) := by
  rw [meaning_recognise_of_named hf (h.kinds home (by simp)).2]
  rw [meaning_recognise_of_named hf (h.kinds asked (by simp)).2] at hf
  exact h.means_at_home hf hgroup

/-- **Codecs and the kinds of streams.** Whatever is settled: a video stream is given an audio codec
for a shared word only, and an audio stream is given that codec for it too. An audio stream is given
a video codec for a shared word only, and a video stream is given the same one for it, or motion
JPEG, or TGA. An audio stream is given an image format for a shared word only, and an image stream
is given the same one. -/
theorem kind_law (raw : String) (known : Settled) (f : Format) :
    ((recognise .video raw known).meaning = some (.format f) → f.group = .audio →
      IsSharedWord .video .audio (Text.lower (Text.trim raw)) f ∧
        (recognise .audio raw known).meaning = some (.format f)) ∧
    ((recognise .audio raw known).meaning = some (.format f) → f.group = .video →
      IsSharedWord .audio .video (Text.lower (Text.trim raw)) f ∧
        ∃ g, (recognise .video raw known).meaning = some (.format g) ∧
          (g = f ∨ g = .mjpeg ∨ g = .tga)) ∧
    ((recognise .audio raw known).meaning = some (.format f) → f.group = .image →
      IsSharedWord .audio .image (Text.lower (Text.trim raw)) f ∧
        (recognise .image raw known).meaning = some (.format f)) := by
  refine ⟨fun hf hgroup => ?_, fun hf hgroup => ?_, fun hf hgroup => ?_⟩
  · obtain ⟨hshared, hhome | ⟨g, hfirst, -⟩⟩ := audio_home.recognise_at_home hf hgroup
    · exact ⟨hshared, hhome⟩
    · exact absurd hfirst List.not_mem_nil
  · obtain ⟨hshared, hhome | ⟨g, hfirst, hg, r, s, hovertakes, hr, hs⟩⟩ :=
      video_home.recognise_at_home hf hgroup
    · exact ⟨hshared, f, hhome, .inl rfl⟩
    · refine ⟨hshared, g, hg, .inr ?_⟩
      have hnot : g ≠ .dv := by
        rintro rfl
        exact not_overtakes_dv hr hs hovertakes
      simpa [hnot] using hfirst
  · obtain ⟨hshared, hhome | ⟨g, hfirst, -⟩⟩ := image_home.recognise_at_home hf hgroup
    · exact ⟨hshared, hhome⟩
    · exact absurd hfirst List.not_mem_nil

/-- A word of each kind with streams of another. -/
theorem kind_law_words :
    IsSharedWord .video .audio "flac" .flac ∧
      (∃ g, (recognise .video "AVC MJPEG" {}).meaning = some (.format g) ∧
        (g = .h264 ∨ g = .mjpeg ∨ g = .tga)) ∧
      (recognise .image "PNG" {}).meaning = some (.format .png) := by
  have hflac : Text.lower (Text.trim "FLAC") = "flac" := by decide +kernel
  obtain ⟨hword, -⟩ := (kind_law "FLAC" {} .flac).1 (by decide +kernel) (by decide)
  rw [hflac] at hword
  obtain ⟨-, hvideo⟩ := (kind_law "AVC MJPEG" {} .h264).2.1 (by decide +kernel) (by decide)
  obtain ⟨-, himage⟩ := (kind_law "PNG" {} .png).2.2 (by decide +kernel) (by decide)
  exact ⟨hword, hvideo, himage⟩

/-- **The kinds are not kept apart** by a name, or by the words of a rule without a scope. -/
theorem flac_as_video :
    ((recognise .video "FLAC" {}).meaning = some (.format .flac) ∧ Format.flac.group = .audio) ∧
      ((recognise .audio "AVC" {}).meaning = some (.format .h264) ∧
        Format.h264.group = .video) ∧
      (recognise .audio "PNG" {}).meaning = some (.format .png) ∧ Format.png.group = .image := by
  decide +kernel

end MediaIndex
