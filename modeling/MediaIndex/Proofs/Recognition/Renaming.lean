import MediaIndex.Proofs.Recognition.Idempotence

/-!
# A container is renamed once

What a report calls a file is sometimes a family of containers only: a file of Windows Media may be
plain ASF, and MPEG audio may be an MP3 or an MP2. Which one it is shows later, in a token of a
stream, and that token renames the container.

> **`container_renamed_once`**: however many tokens of streams are read, the container stays what it
> is, or it is renamed once, in one of three ways.

The three ways are the constructors of `Renames`, and a token renames the container exactly in these
(`container_recognise_iff`). None of them starts at a name where another one ends, so the order on
containers has two steps and there is nothing to be renamed after a renaming (`Renames.last`).
-/

set_option autoImplicit false

namespace MediaIndex

variable {kind : StreamKind} {known : Settled} {token raw : String} {old new : Format}

/-! ## The layers of MPEG audio, by their tokens -/

theorem token_of_layer {a : Answer} {word : String} (h : answerFor? kind token = some a)
    (hname : ∀ f, a ≠ .format f)
    (hrules : ∀ rule ∈ tokenRules, rule.answer = a →
      rule.tests.all (TokenTest.isAmong [word]) = true) : token = word := by
  obtain ⟨rule, hrule, hanswer, happlies⟩ := exists_rule_of_answerFor? h hname
  obtain ⟨test, htest, hpasses⟩ := List.any_eq_true.mp (Bool.and_eq_true_iff.mp happlies).2
  have hamong := List.all_eq_true.mp (hrules rule hrule hanswer) test htest
  exact List.mem_singleton.mp (TokenTest.mem_of_isAmong hamong hpasses)

theorem answerFor?_layerThree_iff :
    answerFor? kind token = some .layerThree ↔ token = "layer 3" := by
  constructor
  · intro h
    exact token_of_layer h (by simp) (by decide +kernel)
  · rintro rfl
    cases kind <;> decide +kernel

theorem answerFor?_layerTwo_iff :
    answerFor? kind token = some .layerTwo ↔ token = "layer 2" := by
  constructor
  · intro h
    exact token_of_layer h (by simp) (by decide +kernel)
  · rintro rfl
    cases kind <;> decide +kernel

/-! ## The tokens that rename -/

/-- The container that a token names, before the container is looked at again: a layer of MPEG audio
names one for a bare file of it. -/
theorem container_recogniseToken_iff :
    (recogniseToken kind token known).container = some new ↔
      known.container = some .mpa ∧
        (token = "layer 3" ∧ new = .mp3 ∨
          token = "layer 2" ∧ known.audioCodec = some .mpa ∧ new = .mp2) := by
  have hread := tokenRead kind token known
  generalize recogniseToken kind token known = r at hread
  cases hread with
  | @settled f hsettled hname =>
    have hnames : ∀ f ∈ Format.all, f.name ≠ "layer 3" ∧ f.name ≠ "layer 2" := by decide +kernel
    obtain ⟨hthree, htwo⟩ := hnames f f.mem_all
    rw [hname] at hthree htwo
    simp [hthree, htwo]
  | unknown hanswer hcontainer hmeaning =>
    have hthree : token ≠ "layer 3" := fun h =>
      absurd (hanswer.symm.trans (answerFor?_layerThree_iff.mpr h)) (by simp)
    have htwo : token ≠ "layer 2" := fun h =>
      absurd (hanswer.symm.trans (answerFor?_layerTwo_iff.mpr h)) (by simp)
    simp [hcontainer, hthree, htwo]
  | @answered a hother hanswer =>
    have hthree : token = "layer 3" ↔ a = .layerThree := by
      rw [← @answerFor?_layerThree_iff kind, hanswer, Option.some.injEq]
    have htwo : token = "layer 2" ↔ a = .layerTwo := by
      rw [← @answerFor?_layerTwo_iff kind, hanswer, Option.some.injEq]
    rw [hthree, htwo]
    cases a with
    | layerThree =>
      by_cases hbare : known.container = some .mpa
      · simp [Answer.given, hbare, eq_comm]
      · simp [Answer.given, hbare]
    | layerTwo =>
      by_cases hbare : known.audioCodec = some .mpa ∧ known.container = some .mpa
      · simp [Answer.given, hbare, eq_comm]
      · simp only [Answer.given, if_neg hbare]
        simp only [reduceCtorEq, false_and, true_and, false_or, false_iff]
        rintro ⟨hcontainer, haudio, -⟩
        exact hbare ⟨haudio, hcontainer⟩
    | format f => simp [Answer.given]
    | firstVersion | losslessDts | plainPcm =>
      simp only [Answer.given]
      split <;> simp

theorem container_dropSameContainer_iff {r : Recognition} :
    (dropSameContainer known r).container = some new ↔
      r.container = some new ∧ known.container ≠ some new := by
  unfold dropSameContainer
  split
  · rename_i hsame
    rw [hsame]
    simp
  · rename_i hother
    refine ⟨fun h => ⟨h, fun hknown => hother (h.trans hknown.symm)⟩, And.left⟩

/-- The ways in which a token renames a container, by the old name and the new one. -/
inductive Renames (known : Settled) (kind : StreamKind) (raw : String) : Format → Format → Prop
  /-- Windows Media with a video that is not of that family. -/
  | asf {codec : Format} (hkind : kind = .video)
      (hcodec : (recognise kind raw known).meaning = some (.format codec))
      (hwmv : codec ≠ .wmv) (hvc1 : codec ≠ .vc1) : Renames known kind raw .wmv .asf
  | layerThree (hkind : kind ≠ .text) (htoken : Text.lower (Text.trim raw) = "layer 3") :
      Renames known kind raw .mpa .mp3
  | layerTwo (hkind : kind ≠ .text) (htoken : Text.lower (Text.trim raw) = "layer 2")
      (haudio : known.audioCodec = some .mpa) : Renames known kind raw .mpa .mp2

/-- A container that was renamed is not renamed again, whatever is settled by then. -/
theorem Renames.last {after : Settled} {kind' : StreamKind} {raw' : String} {newer : Format}
    (h : Renames known kind raw old new) : ¬Renames after kind' raw' new newer := by
  intro hagain
  cases h <;> cases hagain

theorem container_asfContainer_iff {r : Recognition} (hwmv : known.container = some .wmv)
    (hkept : r.container = none) :
    (asfContainer kind known r).container = some new ↔
      new = .asf ∧ kind = .video ∧
        ∃ codec, r.meaning = some (.format codec) ∧ codec ≠ .wmv ∧ codec ≠ .vc1 := by
  unfold asfContainer
  split
  · rename_i codec hcodec
    by_cases hgate : codec ≠ .wmv ∧ codec ≠ .vc1
    · rw [if_pos ⟨hwmv, hgate⟩]
      simp [hcodec, hgate, eq_comm]
    · rw [if_neg fun h => hgate h.2]
      simp only [hkept, hcodec, Option.some.injEq, Meaning.format.injEq, reduceCtorEq, false_iff]
      rintro ⟨-, -, _, rfl, hother⟩
      exact hgate hother
  · rename_i hother
    refine iff_of_false (by simp [hkept]) ?_
    rintro ⟨-, rfl, codec, hcodec, -⟩
    exact hother codec rfl hcodec

theorem asfContainer_of_other {r : Recognition} (h : known.container ≠ some .wmv) :
    asfContainer kind known r = r :=
  Settled.asfContainer_of_fits fun _ _ _ hwmv => absurd hwmv h

/-- **A token renames the container exactly in these ways.** -/
theorem container_recognise_iff :
    (recognise kind raw known).container = some new ↔
      ∃ old, known.container = some old ∧ Renames known kind raw old new := by
  by_cases hsilent : kind = .text ∨ (Text.lower (Text.trim raw)).isEmpty = true
  · obtain ⟨hcontainer, hmeaning⟩ := recognise_silent hsilent known
    refine iff_of_false (by simp [hcontainer]) ?_
    rintro ⟨old, -, hrenames⟩
    cases hrenames with
    | asf hkind hcodec hwmv hvc1 => exact hmeaning _ hcodec
    | layerThree hkind htoken | layerTwo hkind htoken _ =>
      rcases hsilent with htext | hblank
      · exact hkind htext
      · rw [htoken] at hblank
        exact absurd hblank (by decide)
  · obtain ⟨hkind, hblank⟩ := not_or.mp hsilent
    have hraw : recognise kind raw known = dropSameContainer known
        (asfContainer kind known (recogniseToken kind (Text.lower (Text.trim raw)) known)) :=
      recognise_eq known hkind (by simpa using hblank) rfl
    have hmeaning : (recognise kind raw known).meaning =
        (recogniseToken kind (Text.lower (Text.trim raw)) known).meaning := by
      rw [hraw, meaning_dropSameContainer, meaning_asfContainer]
    by_cases hwmv : known.container = some .wmv
    · -- no layer names a container here, so the video decides
      have hkept : (recogniseToken kind (Text.lower (Text.trim raw)) known).container = none := by
        rw [Option.eq_none_iff_forall_ne_some]
        intro container h
        exact absurd (hwmv.symm.trans (container_recogniseToken_iff.mp h).1) (by simp)
      rw [hraw, container_dropSameContainer_iff, container_asfContainer_iff hwmv hkept, ← hmeaning,
        hwmv]
      constructor
      · rintro ⟨⟨rfl, rfl, codec, hcodec, hother, hvc1⟩, -⟩
        exact ⟨_, rfl, .asf rfl hcodec hother hvc1⟩
      · rintro ⟨_, ⟨rfl⟩, hrenames⟩
        cases hrenames with
        | asf hvideo hcodec hother hvc1 => exact ⟨⟨rfl, hvideo, _, hcodec, hother, hvc1⟩, by simp⟩
    · rw [hraw, asfContainer_of_other hwmv, container_dropSameContainer_iff,
        container_recogniseToken_iff]
      constructor
      · rintro ⟨⟨hbare, ⟨htoken, rfl⟩ | ⟨htoken, haudio, rfl⟩⟩, -⟩
        · exact ⟨_, hbare, .layerThree hkind htoken⟩
        · exact ⟨_, hbare, .layerTwo hkind htoken haudio⟩
      · rintro ⟨old, hold, hrenames⟩
        cases hrenames with
        | asf _ _ _ _ => exact absurd hold hwmv
        | layerThree _ htoken => exact ⟨⟨hold, .inl ⟨htoken, rfl⟩⟩, by simp [hold]⟩
        | layerTwo _ htoken haudio => exact ⟨⟨hold, .inr ⟨htoken, haudio, rfl⟩⟩, by simp [hold]⟩

/-! ## Rows of tokens -/

namespace Settled

/-- Reads a token and takes its outcome into account. -/
def read (known : Settled) (kind : StreamKind) (raw : String) : Settled :=
  known.apply kind (recognise kind raw known)

/-- Reads a row of tokens, one after the other. -/
def readAll (known : Settled) (tokens : List (StreamKind × String)) : Settled :=
  tokens.foldl (fun known token => known.read token.1 token.2) known

variable {tokens : List (StreamKind × String)}

theorem readAll_nil (known : Settled) : known.readAll [] = known := rfl

theorem readAll_cons (known : Settled) (t : StreamKind × String)
    (tokens : List (StreamKind × String)) :
    known.readAll (t :: tokens) = (known.read t.1 t.2).readAll tokens := by
  simp only [readAll, List.foldl_cons]

theorem container_read (hkind : kind ≠ .general) (known : Settled) (raw : String) :
    (known.read kind raw).container = known.container ∨
      ∃ old new, known.container = some old ∧ Renames known kind raw old new ∧
        (known.read kind raw).container = some new := by
  rw [read, container_apply hkind]
  cases hrenamed : (recognise kind raw known).container with
  | none => exact .inl (Option.none_or)
  | some new =>
    obtain ⟨old, hold, hrenames⟩ := container_recognise_iff.mp hrenamed
    exact .inr ⟨old, new, hold, hrenames, Option.some_or⟩

/-- A container that no token renames, if there is one at all, is kept by a row of tokens. -/
theorem container_lasts (htokens : ∀ t ∈ tokens, t.1 ≠ .general)
    (hlast : ∀ old, known.container = some old →
      ∀ (after : Settled) kind raw new, ¬Renames after kind raw old new) (n : Nat) :
    (known.readAll (tokens.take n)).container = known.container := by
  induction tokens generalizing known n with
  | nil => rw [List.take_nil]; rfl
  | cons t tokens ih =>
    cases n with
    | zero => rfl
    | succ n =>
      obtain ⟨hkind, htokens⟩ := List.forall_mem_cons.mp htokens
      rw [List.take_succ_cons, readAll_cons]
      rcases container_read hkind known t.2 with hkept | ⟨old, new, hold, hrenames, -⟩
      · rw [← hkept] at hlast
        exact (ih htokens hlast n).trans hkept
      · exact absurd hrenames (hlast old hold known t.1 t.2 new)

/-- Where a row of tokens renames the container: at one of its tokens, and there alone. -/
structure RenamedAt (known : Settled) (before : List (StreamKind × String)) (kind : StreamKind)
    (raw : String) (after : List (StreamKind × String)) (old new : Format) : Prop where
  renames : Renames (known.readAll before) kind raw old new
  until_then : ∀ n ≤ before.length,
    (known.readAll ((before ++ (kind, raw) :: after).take n)).container = some old
  from_then : ∀ n > before.length,
    (known.readAll ((before ++ (kind, raw) :: after).take n)).container = some new

theorem RenamedAt.cons {before after : List (StreamKind × String)} {t : StreamKind × String}
    (hkept : (known.read t.1 t.2).container = known.container)
    (h : RenamedAt (known.read t.1 t.2) before kind raw after old new) :
    RenamedAt known (t :: before) kind raw after old new where
  renames := by
    rw [readAll_cons]
    exact h.renames
  until_then := by
    intro n hn
    cases n with
    | zero =>
      have hold := h.until_then 0 (Nat.zero_le _)
      rw [List.take_zero, readAll_nil] at hold ⊢
      exact hkept.symm.trans hold
    | succ n =>
      rw [List.cons_append, List.take_succ_cons, readAll_cons]
      exact h.until_then n (Nat.le_of_succ_le_succ hn)
  from_then := by
    intro n hn
    cases n with
    | zero => exact absurd hn (Nat.not_lt_zero _)
    | succ n =>
      rw [List.cons_append, List.take_succ_cons, readAll_cons]
      exact h.from_then n (Nat.lt_of_succ_lt_succ hn)

theorem renamedAt_head {after : List (StreamKind × String)}
    (hafter : ∀ t ∈ after, t.1 ≠ .general) (hold : known.container = some old)
    (hrenames : Renames known kind raw old new)
    (hnew : (known.read kind raw).container = some new) :
    RenamedAt known [] kind raw after old new where
  renames := hrenames
  until_then := by
    intro n hn
    obtain rfl : n = 0 := Nat.le_zero.mp hn
    exact hold
  from_then := by
    intro n hn
    obtain ⟨m, rfl⟩ := Nat.exists_eq_add_one_of_ne_zero (Nat.ne_of_gt hn)
    rw [List.nil_append, List.take_succ_cons, readAll_cons, ← hnew]
    refine container_lasts hafter (fun name hname later kind' raw' newer hagain => ?_) m
    obtain rfl : new = name := Option.some.inj (hnew.symm.trans hname)
    exact hrenames.last hagain

theorem lasts_or_renamedAt (known : Settled) (htokens : ∀ t ∈ tokens, t.1 ≠ StreamKind.general) :
    (∀ n, (known.readAll (tokens.take n)).container = known.container) ∨
      ∃ before kind raw after old new, tokens = before ++ (kind, raw) :: after ∧
        RenamedAt known before kind raw after old new := by
  induction tokens generalizing known with
  | nil => exact .inl fun n => by rw [List.take_nil]; rfl
  | cons t tokens ih =>
    obtain ⟨hkind, htokens⟩ := List.forall_mem_cons.mp htokens
    rcases container_read hkind known t.2 with hkept | ⟨old, new, hold, hrenames, hnew⟩
    · rcases ih (known.read t.1 t.2) htokens with
        hlasts | ⟨before, kind, raw, after, old, new, rfl, hat⟩
      · left
        intro n
        cases n with
        | zero => rfl
        | succ n =>
          rw [List.take_succ_cons, readAll_cons]
          exact (hlasts n).trans hkept
      · exact .inr ⟨t :: before, kind, raw, after, old, new, rfl, hat.cons hkept⟩
    · exact .inr ⟨[], t.1, t.2, tokens, old, new, rfl, renamedAt_head htokens hold hrenames hnew⟩

/-- **A container is renamed once at most.** However many tokens of streams are read one after the
other, the container is the same after each of them, or there is one token that renames it: up to
that token it has the old name and from then on the new one. A file without a container stays
without one, and no token renames a container to the name that it has. -/
theorem container_renamed_once (known : Settled) (tokens : List (StreamKind × String))
    (htokens : ∀ t ∈ tokens, t.1 ≠ StreamKind.general) :
    ((∀ n, (known.readAll (tokens.take n)).container = known.container) ∨
      ∃ before kind raw after old new, tokens = before ++ (kind, raw) :: after ∧
        RenamedAt known before kind raw after old new) ∧
      (known.container = none → ∀ n, (known.readAll (tokens.take n)).container = none) ∧
      ∀ before kind raw after, tokens = before ++ (kind, raw) :: after →
        ∀ new, (recognise kind raw (known.readAll before)).container = some new →
          (known.readAll before).container ≠ some new := by
  refine ⟨lasts_or_renamedAt known htokens, fun hnone n => ?_, ?_⟩
  · rw [container_lasts htokens (fun old hold => absurd (hnone.symm.trans hold) (by simp)), hnone]
  · intro before kind raw after _ new hnew hsame
    obtain ⟨old, hold, hrenames⟩ := container_recognise_iff.mp hnew
    obtain rfl : old = new := Option.some.inj (hold.symm.trans hsame)
    exact hrenames.last hrenames

/-- What is told of a film in a file of Windows Media. -/
def filmTokens : List (StreamKind × String) :=
  [(.video, "WMV3"), (.audio, "Layer 3"), (.video, "AVC"), (.video, "VC-1"), (.image, "PNG")]

/-- The codec of the second video renames the container, and the third one does not give it its old
name back. -/
theorem container_renamed_once_film :
    (∀ t ∈ filmTokens, t.1 ≠ StreamKind.general) ∧
      ∃ before kind raw after, filmTokens = before ++ (kind, raw) :: after ∧
        RenamedAt { container := some .wmv } before kind raw after .wmv .asf := by
  have hstreams : ∀ t ∈ filmTokens, t.1 ≠ StreamKind.general := by decide
  have hend : (readAll { container := some .wmv } (filmTokens.take 5)).container = some .asf := by
    decide +kernel
  obtain ⟨hlaw, -, -⟩ := container_renamed_once { container := some .wmv } filmTokens hstreams
  rcases hlaw with hlasts | ⟨before, kind, raw, after, old, new, htokens, hat⟩
  · exact absurd (hend.symm.trans (hlasts 5)) (by simp)
  · have hlength : 5 > before.length := by
      have := congrArg List.length htokens
      simp only [filmTokens, List.length_cons, List.length_nil, List.length_append] at this
      omega
    have hold := hat.until_then 0 (Nat.zero_le _)
    have hnew := hat.from_then 5 hlength
    rw [← htokens] at hold hnew
    obtain rfl : Format.wmv = old := Option.some.inj hold
    obtain rfl : Format.asf = new := Option.some.inj (hend.symm.trans hnew)
    exact ⟨hstreams, before, kind, raw, after, htokens, hat⟩

end Settled

end MediaIndex
