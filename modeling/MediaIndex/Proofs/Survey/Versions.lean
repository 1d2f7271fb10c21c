import MediaIndex.Proofs.Recognition.Idempotence
import MediaIndex.Proofs.Survey.Mirror
import MediaIndex.Proofs.Text.Cuts

/-!
# Versions of formats

A report gives the version of a format in a field of its own, right after the format. The field goes
through the same rules as every other token, and some of these speak of bare numbers: they are the
numbers that codecs have as identifiers. To a rule a version is such a number.

> **`version_law`**: where a format is settled for the streams of a kind, a version leaves it
> settled unless a rule answers for the version. For the texts that versions are (`isVersionText`)
> these are twelve rules (`versionRules`), so that any version but twelve numbers leaves the format
> as it is, but for MPEG video that turns out to be of the first version; and the third layer of
> MPEG audio is an MP3 after every such version.

Version `1` is one of the twelve numbers, and MPEG audio of version 1 is what most reports on MP3
files speak of (`version_one_read_as_pcm`).

What a version settles is what its token means (`formatFor_version`), so all but the last section is
about rules: a version text has no characters but those of `version 1.2`, and a test that asks for
another character cannot hold of it.
-/

set_option autoImplicit false

namespace MediaIndex

variable {kind : StreamKind} {known : Settled} {token : String}

/-! ## The texts of versions -/

/-- The characters of texts such as `version 1.2 / version 2`. -/
def isVersionChar (c : Char) : Bool := "0123456789. /-version".toList.contains c

/-- A text of these characters that begins with a digit or as the word does. -/
def isVersionText (s : String) : Bool :=
  s.toList.all isVersionChar &&
    s.toList.head?.all fun c => c == 'v' || Number.isAsciiDigit c

theorem isVersionText_of_startsWith {lead : String} (h : isVersionText token = true)
    (hlead : Text.startsWith lead token = true) : isVersionText lead = true := by
  obtain ⟨rest, hrest⟩ : lead.toList <+: token.toList := List.isPrefixOf_iff_prefix.mp hlead
  simp only [isVersionText, ← hrest, List.all_append, Bool.and_eq_true] at h ⊢
  refine ⟨h.1.1, ?_⟩
  cases hcs : lead.toList with
  | nil => rfl
  | cons c cs => simpa [hcs] using h.2

theorem isVersionText_of_afterLead? {lead rest : String} (h : isVersionText token = true)
    (hlead : Text.afterLead? lead token = some rest) : isVersionText lead = true := by
  unfold Text.afterLead? at hlead
  split at hlead
  · rename_i hstarts
    exact isVersionText_of_startsWith h hstarts
  · exact absurd hlead (by simp)

theorem versionChars_of_occursIn {part cs : List Char} (h : cs.all isVersionChar = true)
    (hpart : Text.occursIn part cs = true) : part.all isVersionChar = true := by
  induction cs with
  | nil =>
    obtain rfl : part = [] := by simpa [Text.occursIn] using hpart
    rfl
  | cons c cs ih =>
    rw [Text.occursIn, Bool.or_eq_true] at hpart
    rcases hpart with hhere | hlater
    · obtain ⟨rest, hrest⟩ := List.isPrefixOf_iff_prefix.mp hhere
      rw [← hrest, List.all_append, Bool.and_eq_true] at h
      exact h.1
    · rw [List.all_cons, Bool.and_eq_true] at h
      exact ih h.2 hlater

theorem versionChars_of_endsWith {tail : String} (h : isVersionText token = true)
    (htail : Text.endsWith tail token = true) : tail.toList.all isVersionChar = true := by
  obtain ⟨front, hfront⟩ : tail.toList <:+ token.toList := List.isSuffixOf_iff_suffix.mp htail
  simp only [isVersionText, ← hfront, List.all_append, Bool.and_eq_true] at h
  exact h.1.2

/-! ## The rules that speak of them -/

/-- What is left of a test where only the texts of versions are tested. -/
def TokenTest.onVersions : TokenTest → List TokenTest
  | .isOneOf words =>
    match words.filter isVersionText with
    | [] => []
    | fitting => [.isOneOf fitting]
  | .beginsWith lead => if isVersionText lead then [.beginsWith lead] else []
  | .endsWith tail => if tail.toList.all isVersionChar then [.endsWith tail] else []
  | .holds part => if part.toList.all isVersionChar then [.holds part] else []
  | .beginsWithout lead other =>
    if isVersionText lead then [.beginsWithout lead other] else []
  | .satisfies test => [.satisfies test]

theorem TokenTest.any_onVersions (h : isVersionText token = true) (test : TokenTest) :
    test.onVersions.any (·.passes token) = test.passes token := by
  cases test with
  | isOneOf words =>
    have hwords : (words.filter isVersionText).contains token = words.contains token := by
      simp [h]
    simp only [onVersions]
    split
    · rename_i hnone
      rw [hnone] at hwords
      exact hwords
    · simpa [passes] using hwords
  | beginsWith lead | beginsWithout lead other =>
    simp only [onVersions]
    split
    · simp
    · rename_i hlead
      have hother : Text.startsWith lead token = false :=
        Bool.eq_false_iff.mpr fun hstarts => hlead (isVersionText_of_startsWith h hstarts)
      simp [passes, hother]
  | endsWith tail =>
    simp only [onVersions]
    split
    · simp
    · rename_i htail
      exact (Bool.eq_false_iff.mpr fun hends => htail (versionChars_of_endsWith h hends)).symm
  | holds part =>
    simp only [onVersions]
    split
    · simp
    · rename_i hpart
      have hchars : token.toList.all isVersionChar = true := (Bool.and_eq_true _ _ ▸ h).1
      exact (Bool.eq_false_iff.mpr fun hholds =>
        hpart (versionChars_of_occursIn hchars hholds)).symm
  | satisfies test => simp [onVersions]

/-- What is left of a rule, likewise. -/
def TokenRule.onVersions (rule : TokenRule) : TokenRule :=
  { rule with tests := rule.tests.flatMap TokenTest.onVersions }

theorem TokenRule.applies_onVersions (h : isVersionText token = true) (rule : TokenRule) :
    rule.onVersions.applies kind token = rule.applies kind token := by
  simp only [applies, onVersions, List.any_flatMap, TokenTest.any_onVersions h]

/-- The rules that speak of versions, or of numbers that could be some. -/
def versionRules : List TokenRule :=
  let number (format : Format) (code : String) :=
    TokenRule.naming .every format [.isOneOf [code]]
  [.naming (.only .general) .mp4 [.isOneOf ["20"]],
   number .atmos "131",
   ⟨.only .video, [.beginsWith "version 1", .isOneOf ["155"]], .firstVersion⟩,
   ⟨.every, [.isOneOf ["134"]], .losslessDts⟩,
   number .ac3 "2000",
   number .mp3 "55",
   ⟨.every, [.isOneOf ["1"]], .plainPcm⟩,
   number .dts "8",
   number .wma "161",
   number .wmaPro "162",
   number .wmaLossless "163",
   number .wmaVoice "10"]

/-- The numbers that name a codec or its variant, and could be a version. -/
def codecNumbers : List String :=
  ["20", "131", "155", "134", "2000", "55", "1", "8", "161", "162", "163", "10"]

theorem not_isDvCode (h : isVersionText token = true) : isDvCode token = false := by
  refine Bool.eq_false_iff.mpr fun hcode => ?_
  rcases of_isDvCode hcode with hword | ⟨stem, hstem, rest, hafter, -⟩
  · have hwords : ∀ word ∈ dvWords, isVersionText word = false := by decide
    exact absurd h (by simp [hwords token hword])
  · have hstems : ∀ stem ∈ dvStems, isVersionText stem = false := by decide
    exact absurd (isVersionText_of_afterLead? h hafter) (by simp [hstems stem hstem])

/-- The rules with what is left of their tests, without those of which nothing is left. -/
theorem onVersions_tokenRules :
    (tokenRules.map TokenRule.onVersions).filter (!·.tests.isEmpty) =
      .naming (.only .general) .threeG2
          [.satisfies fun v => Text.startsWith "3g2" v && v != "3g2a"] ::
        (versionRules.take 2 ++
          .naming (.allBut .audio) .dv [.satisfies isDvCode] :: versionRules.drop 2) := by
  rfl

theorem find?_of_tests (rules : List TokenRule) :
    (rules.filter (!·.tests.isEmpty)).find? (·.applies kind token) =
      rules.find? (·.applies kind token) := by
  rw [List.find?_filter]
  congr 1
  funext rule
  obtain ⟨scope, tests, answer⟩ := rule
  cases tests with
  | nil => simp [TokenRule.applies]
  | cons test tests => simp

/-- **No other rule speaks of a version.** -/
theorem find?_tokenRules (h : isVersionText token = true) :
    (tokenRules.find? (·.applies kind token)).map (·.answer) =
      (versionRules.find? (·.applies kind token)).map (·.answer) := by
  -- on a version each rule does what is left of it does, so they can be told apart by their tests
  have hleft : (tokenRules.find? (·.applies kind token)).map (·.answer) =
      ((tokenRules.map TokenRule.onVersions).find? (·.applies kind token)).map (·.answer) := by
    simp only [List.find?_map, Function.comp_def, TokenRule.applies_onVersions h, Option.map_map]
    rfl
  have h3g2 : Text.startsWith "3g2" token = false := Bool.eq_false_iff.mpr fun hstarts =>
    absurd (isVersionText_of_startsWith h hstarts) (by decide)
  have hfirst : (TokenRule.naming (.only .general) .threeG2
      [.satisfies fun v => Text.startsWith "3g2" v && v != "3g2a"]).applies kind token = false := by
    simp [TokenRule.applies, TokenRule.naming, TokenTest.passes, h3g2]
  have hdv : (TokenRule.naming (.allBut .audio) .dv [.satisfies isDvCode]).applies kind token =
      false := by
    simp [TokenRule.applies, TokenRule.naming, TokenTest.passes, not_isDvCode h]
  rw [hleft, ← find?_of_tests, onVersions_tokenRules, List.find?_cons_of_neg (by simp [hfirst]),
    List.find?_append, List.find?_cons_of_neg (by simp [hdv]), ← List.find?_append,
    List.take_append_drop]

theorem Format.name_ne_version (h : isVersionText token = true) (f : Format) : f.name ≠ token := by
  have hnames : ∀ f ∈ Format.all, isVersionText f.name = false := by decide
  rintro rfl
  exact absurd h (by simp [hnames f f.mem_all])

theorem ofName?_version (h : isVersionText token = true) : Format.ofName? token = none := by
  rw [Format.ofName?, List.find?_eq_none]
  exact fun f _ => by simpa using f.name_ne_version h

/-- What the rules answer for a version. -/
def versionAnswer? (kind : StreamKind) (token : String) : Option Answer :=
  (versionRules.find? (·.applies kind token)).map (·.answer)

theorem answerFor?_version (h : isVersionText token = true) :
    answerFor? kind token = versionAnswer? kind token := by
  rw [versionAnswer?, ← find?_tokenRules h, answerFor?, ofName?_version h]
  cases tokenRules.find? (·.applies kind token) <;> rfl

/-- Whether a test asks for numbers of codecs. -/
def TokenTest.isForNumbers : TokenTest → Bool
  | .isOneOf words => words.all codecNumbers.contains
  | _ => false

theorem TokenTest.not_passes_of_isForNumbers {test : TokenTest} (h : token ∉ codecNumbers)
    (htest : test.isForNumbers = true) : test.passes token = false := by
  have hamong : test.isAmong codecNumbers = true := by
    cases test <;> exact htest
  exact Bool.eq_false_iff.mpr fun hpasses => h (mem_of_isAmong hamong hpasses)

/-- **But for the numbers, the rules only speak of the first version of a video.** -/
theorem versionAnswer?_of_not_number (h : token ∉ codecNumbers) {a : Answer}
    (ha : versionAnswer? kind token = some a) : kind = .video ∧ a = .firstVersion := by
  have hrules : ∀ rule ∈ versionRules,
      (rule.scope = .only .video ∧ rule.answer = .firstVersion) ∨
        rule.tests.all TokenTest.isForNumbers = true := by decide
  obtain ⟨rule, hfind, rfl⟩ := Option.map_eq_some_iff.mp ha
  have happlies : rule.applies kind token = true := List.find?_some hfind
  obtain ⟨hcovers, hpasses⟩ := Bool.and_eq_true_iff.mp happlies
  rcases hrules rule (List.mem_of_find?_eq_some hfind) with ⟨hscope, hanswer⟩ | hnumbers
  · rw [hscope] at hcovers
    exact ⟨(by simpa [Scope.covers] using hcovers : StreamKind.video = kind).symm, hanswer⟩
  · obtain ⟨test, htest, hpasses⟩ := List.any_eq_true.mp hpasses
    have hnot := test.not_passes_of_isForNumbers h (List.all_eq_true.mp hnumbers test htest)
    exact absurd hpasses (by simp [hnot])

/-! ## What a token settles -/

/-- Of nothing nothing is recognised. -/
theorem recogniseToken_blank (kind : StreamKind) (known : Settled) :
    recogniseToken kind "" known = {} := by
  have hfilter : ((known.formatFor kind).filter fun f => f.name == "") = none := by
    rw [Option.filter_eq_none_iff]
    intro f _
    have hname := f.token_name.2
    simpa using fun heq : f.name = "" => absurd hname (by simp [heq])
  have hanswer : answerFor? kind "" = none := by
    rw [answerFor?_version rfl]
    cases kind <;> rfl
  simp only [recogniseToken, hfilter, hanswer]
  exact if_neg fun h => absurd h.2 (by decide)

/-- The format that an outcome settles for the streams of a kind, if any. -/
def Recognition.formatFor (r : Recognition) (kind : StreamKind) : Option Format :=
  match r.meaning with
  | some (.format f) => some f
  | _ => if kind = .general then r.container else none

theorem Recognition.formatFor_asfContainer (r : Recognition) :
    (asfContainer kind known r).formatFor kind = r.formatFor kind := by
  unfold asfContainer
  split
  · split <;> simp [formatFor]
  · rfl

theorem Recognition.formatFor_of_unnamed {r : Recognition}
    (h : ∀ f, r.meaning ≠ some (.format f)) :
    r.formatFor kind = if kind = .general then r.container else none := by
  unfold formatFor
  split
  · rename_i f hf
    exact absurd hf (h f)
  · rfl

theorem Answer.formatFor_given (a : Answer) (known : Settled) :
    (a.given known).formatFor kind = none ∨ (a.given known).formatFor kind = some a.named := by
  rcases a.meaning_given known with hsilent | hnamed
  · rw [Recognition.formatFor_of_unnamed (by simp [hsilent])]
    split
    · rcases a.container_given known with hkept | ⟨-, hrenamed, -⟩
      · exact .inl hkept
      · exact .inr hrenamed
    · exact .inl rfl
  · exact .inr (by rw [Recognition.formatFor, hnamed])

/-- A token settles nothing, or what is settled already, or what is answered for it. -/
theorem formatFor_recogniseToken (kind : StreamKind) (token : String) (known : Settled) :
    (recogniseToken kind token known).formatFor kind = none ∨
      (recogniseToken kind token known).formatFor kind = known.formatFor kind ∨
      ∃ a, answerFor? kind token = some a ∧
        (recogniseToken kind token known).formatFor kind = some a.named := by
  have hread := tokenRead kind token known
  generalize recogniseToken kind token known = r at hread
  cases hread with
  | settled hsettled hname => exact .inr (.inl hsettled.symm)
  | unknown hanswer hcontainer hmeaning =>
    exact .inl (by rw [Recognition.formatFor_of_unnamed hmeaning, hcontainer, ite_self])
  | @answered a hother hanswer =>
    rcases a.formatFor_given known with hsilent | hnamed
    · exact .inl hsilent
    · exact .inr (.inr ⟨a, hanswer, hnamed⟩)

/-- A version settles what the rules for versions answer. -/
theorem formatFor_recogniseToken_version (h : isVersionText token = true) (kind : StreamKind)
    (known : Settled) :
    (recogniseToken kind token known).formatFor kind =
      (versionAnswer? kind token).bind fun a => (a.given known).formatFor kind := by
  rw [← answerFor?_version h]
  have hread := tokenRead kind token known
  generalize recogniseToken kind token known = r at hread
  cases hread with
  | @settled f hsettled hname => exact absurd hname (f.name_ne_version h)
  | unknown hanswer hcontainer hmeaning =>
    rw [Recognition.formatFor_of_unnamed hmeaning, hcontainer, ite_self, hanswer, Option.bind_none]
  | answered hother hanswer => rw [hanswer, Option.bind_some]

namespace Settled

theorem formatFor_apply_eq (hkind : kind ≠ .text) (r : Recognition) :
    (known.apply kind r).formatFor kind = (r.formatFor kind).or (known.formatFor kind) := by
  by_cases hnamed : ∃ f, r.meaning = some (.format f)
  · obtain ⟨f, hf⟩ := hnamed
    rw [formatFor_apply hkind hf, Recognition.formatFor, hf, Option.some_or]
  · have hunnamed : ∀ f, r.meaning ≠ some (.format f) := fun f hf => hnamed ⟨f, hf⟩
    rw [apply_of_unnamed hunnamed, Recognition.formatFor_of_unnamed hunnamed]
    cases kind <;> rfl

/-- A raw token settles what its trimmed, lower-case form means. -/
theorem formatFor_recognise (hkind : kind ≠ .text) (raw : String) :
    (known.apply kind (recognise kind raw known)).formatFor kind =
      ((recogniseToken kind (Text.lower (Text.trim raw)) known).formatFor kind).or
        (known.formatFor kind) := by
  generalize htoken : Text.lower (Text.trim raw) = token
  by_cases hblank : token.isEmpty = true
  · obtain rfl : token = "" := by simpa using hblank
    have hnothing : recognise kind raw known = {} := by simp only [recognise, htoken]; rfl
    rw [hnothing, recogniseToken_blank, formatFor_apply_eq hkind]
  · rw [recognise_eq known hkind (by simpa using hblank) htoken, apply_dropSameContainer,
      formatFor_apply_eq hkind, Recognition.formatFor_asfContainer]

end Settled

namespace Survey

theorem known_classify (s : Survey) (kind : StreamKind) (value : String) :
    (s.classify kind value).known = s.known.apply kind (recognise kind value s.known) := by
  have hknown : ∀ t : Survey, t.known = t.sides.known := fun _ => rfl
  rw [hknown (s.classify kind value), sides_classify, Settled.apply_eq, Sides.heard]
  generalize recognise kind value s.known = r
  cases hr : r.meaning with
  | none => rfl
  | some m => cases m <;> rfl

/-- **What a version settles** is what its trimmed, lower-case form means. -/
theorem formatFor_version (s : Survey) (hkind : kind ≠ .text) (value : String) :
    (s.step (.field kind .formatVersion value)).known.formatFor kind =
      ((recogniseToken kind (Text.lower (Text.trim value)) s.known).formatFor kind).or
        (s.known.formatFor kind) := by
  rw [step, field]
  cases hvalue : Text.nonBlank? value with
  | none => rw [Text.trim_of_nonBlank?_none hvalue, show Text.lower "" = "" from rfl,
      recogniseToken_blank, Recognition.formatFor, ite_self, Option.none_or]
  | some trimmed =>
    obtain rfl := Text.trim_of_nonBlank? hvalue
    show (s.classify kind (Text.trim value)).known.formatFor kind = _
    rw [known_classify, Settled.formatFor_recognise hkind, Text.trim_trim]

theorem formatFor_version_of_settled {s : Survey} {c : Format}
    (hsettled : s.known.formatFor kind = some c) (value : String) :
    (s.step (.field kind .formatVersion value)).known.formatFor kind =
      ((recogniseToken kind (Text.lower (Text.trim value)) s.known).formatFor kind).or (some c) := by
  have hkind : kind ≠ .text := by
    rintro rfl
    exact absurd hsettled (by simp [Settled.formatFor])
  rw [formatFor_version s hkind, hsettled]

/-- **But for the numbers, a version leaves the format that is settled**, and only the first version
of MPEG video replaces it. -/
theorem formatFor_version_lasting {s : Survey} {value : String} {c : Format}
    (hsettled : s.known.formatFor kind = some c)
    (h : isVersionText (Text.lower (Text.trim value)) = true)
    (hnumber : Text.lower (Text.trim value) ∉ codecNumbers) :
    let after := s.step (.field kind .formatVersion value)
    after.known.formatFor kind = some c ∨
      kind = .video ∧ c = .mpeg2 ∧ after.known.formatFor kind = some .mpeg1 := by
  intro after
  rw [formatFor_version_of_settled hsettled, formatFor_recogniseToken_version h]
  cases hanswer : versionAnswer? kind (Text.lower (Text.trim value)) with
  | none => exact .inl rfl
  | some a =>
    obtain ⟨rfl, rfl⟩ := versionAnswer?_of_not_number hnumber hanswer
    by_cases hgate : s.known.videoCodec = some .mpeg2 ∧ s.known.audioCodec = none
    · have hmpeg2 : c = .mpeg2 := Option.some.inj (hsettled.symm.trans hgate.1)
      exact .inr ⟨rfl, hmpeg2, by simp [Answer.given, hgate, Recognition.formatFor]⟩
    · exact .inl (by simp [Answer.given, hgate, Recognition.formatFor])

/-- The third layer of a track of MPEG audio is an MP3. -/
theorem step_layerThree (s : Survey) (haudio : s.known.audioCodec = some .mpa) :
    let layered := s.step (.field .audio .formatProfile "Layer 3")
    layered.known.audioCodec = some .mp3 ∧
      ∀ t ∈ layered.found.audioTracks.getLast?, t.codec = some .mp3 := by
  intro layered
  have hsides : layered.sides = s.sides.heard .audio (recognise .audio "Layer 3" s.known) := by
    have hvalue : Text.nonBlank? "Layer 3" = some "Layer 3" := by decide
    have hlayered : layered = s.classify .audio "Layer 3" := by
      simp only [layered, step, field, hvalue, setField, reduceCtorEq, if_false]
    rw [hlayered, sides_classify]
  have hmeaning : (recognise .audio "Layer 3" s.known).meaning = some (.format .mp3) := by
    have hanswer : answerFor? .audio "layer 3" = some .layerThree := by decide
    have hfilter : ((s.known.formatFor .audio).filter fun f => f.name == "layer 3") = none := by
      rw [Settled.formatFor, haudio]
      rfl
    have htoken : Text.lower (Text.trim "Layer 3") = "layer 3" := by decide
    rw [recognise_eq s.known (by simp) (by decide) htoken, meaning_dropSameContainer,
      meaning_asfContainer, recogniseToken, hfilter, hanswer]
    simp only [Answer.given, haudio, if_true]
    split <;> rfl
  rw [Sides.heard, hmeaning] at hsides
  refine ⟨congrArg (·.known.audioCodec) hsides, fun t ht => ?_⟩
  have hlast : layered.found.audioTracks.getLast?.map (·.codec) = _ :=
    congrArg Sides.lastAudio hsides
  rw [Option.mem_def.mp ht] at hlast
  obtain ⟨_, -, hcodec⟩ := Option.map_eq_some_iff.mp hlast.symm
  exact hcodec.symm

/-- **A version and the format that is settled.** Whatever is reported as the version, the format
stays or the version is taken for a token of its own. Of the texts that versions are, only the
twelve numbers can replace it, and that MPEG video is of the first version. -/
theorem version_law (s : Survey) (kind : StreamKind) (value : String) {c : Format}
    (hsettled : s.known.formatFor kind = some c) :
    let token := Text.lower (Text.trim value)
    let after := s.step (.field kind .formatVersion value)
    (after.known.formatFor kind = some c ∨
      ∃ a, answerFor? kind token = some a ∧ after.known.formatFor kind = some a.named) ∧
    (isVersionText token = true →
      after.known.formatFor kind =
        ((versionAnswer? kind token).bind fun a => (a.given s.known).formatFor kind).or (some c)) ∧
    (isVersionText token = true → token ∉ codecNumbers →
      (after.known.formatFor kind = some c ∨
        kind = .video ∧ c = .mpeg2 ∧ after.known.formatFor kind = some .mpeg1) ∧
      (kind = .audio → c = .mpa →
        let layered := after.step (.field .audio .formatProfile "Layer 3")
        layered.known.audioCodec = some .mp3 ∧
          ∀ t ∈ layered.found.audioTracks.getLast?, t.codec = some .mp3)) := by
  intro token after
  have hkept : after.known.formatFor kind =
      ((recogniseToken kind token s.known).formatFor kind).or (some c) :=
    formatFor_version_of_settled hsettled value
  refine ⟨?_, fun h => ?_, fun h hnumber => ⟨formatFor_version_lasting hsettled h hnumber, ?_⟩⟩
  · rw [hkept]
    rcases formatFor_recogniseToken kind token s.known with hnone | hsame | ⟨a, ha, hnamed⟩
    · exact .inl (by rw [hnone, Option.none_or])
    · exact .inl (by rw [hsame, hsettled, Option.some_or])
    · exact .inr ⟨a, ha, by rw [hnamed, Option.some_or]⟩
  · rw [hkept, formatFor_recogniseToken_version h]
  · rintro rfl rfl
    refine step_layerThree after ?_
    rcases formatFor_version_lasting hsettled h hnumber with hsame | ⟨hvideo, -⟩
    · exact hsame
    · exact absurd hvideo (by simp)

/-- A track of MPEG audio of which nothing has been said but its format. -/
def mpegAudio : Survey := start.run [.begin .audio, .field .audio .format "MPEG Audio"]

/-- Version 2 of MPEG audio, of which the third layer is an MP3. -/
theorem version_law_two :
    mpegAudio.known.formatFor .audio = some .mpa ∧
      (mpegAudio.step (.field .audio .formatVersion "Version 2")).known.formatFor .audio =
        some .mpa ∧
      ∀ t ∈ ((mpegAudio.step (.field .audio .formatVersion "Version 2")).step
        (.field .audio .formatProfile "Layer 3")).found.audioTracks.getLast?,
        t.codec = some .mp3 := by
  have hsettled : mpegAudio.known.formatFor .audio = some .mpa := by decide +kernel
  obtain ⟨-, -, hlasting⟩ := version_law mpegAudio .audio "Version 2" hsettled
  obtain ⟨hformat, hlayered⟩ := hlasting (by decide +kernel) (by decide +kernel)
  refine ⟨hsettled, ?_, (hlayered rfl rfl).2⟩
  exact hformat.resolve_right fun h => absurd h.1 (by decide)

/-- **Version 1 of MPEG audio is taken for the number of plain PCM**, and then its third layer says
nothing any more. -/
theorem version_one_read_as_pcm :
    mpegAudio.known.formatFor .audio = some .mpa ∧
      (mpegAudio.step (.field .audio .formatVersion "1")).known.formatFor .audio = some .lpcm ∧
      (((mpegAudio.step (.field .audio .formatVersion "1")).step
        (.field .audio .formatProfile "Layer 3")).finish.audioTracks.map (·.codec)) =
          [some .lpcm] := by
  decide +kernel

end Survey

end MediaIndex
