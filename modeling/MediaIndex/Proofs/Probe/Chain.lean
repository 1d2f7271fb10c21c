import MediaIndex.Probe.Chain

/-!
# The first success wins

A row of probers is asked one after the other, and those who do not take the path are not asked at
all. So what a chain answers, and who is asked for it, depends on the probers that take the path
alone, and on their order. `Ends` tells from these how asking them ends; there are three ways.

> **`chain_law`**: the probers asked are those that take the path, from the first one on up to the
> first that succeeds, each of them once. Its descriptor is the answer; if all fail, it is the last
> failure, and if nobody takes the path, that it is not supported.
-/

set_option autoImplicit false

namespace MediaIndex.Prober

variable {path : Path} {p : Prober} {takers asked : List Prober} {answer : ProbeAnswer}

/-- Whether a prober fails on a path. -/
def Fails (path : Path) (p : Prober) : Prop := ∃ e, p.probe path = .error e

/-- All fail, and the last of them with this failure. -/
def AllFail (path : Path) (takers : List Prober) (e : ProbeFailure) : Prop :=
  (∀ p ∈ takers, p.Fails path) ∧ ∃ last ∈ takers.getLast?, last.probe path = .error e

/-- How asking probers in turn ends, given those that take the path: who is asked, and what the
answer is. -/
inductive Ends (path : Path) : List Prober → List Prober → ProbeAnswer → Prop where
  | nobody : Ends path [] [] (.error (.unsupported path))
  /-- Those before the winner fail, and those behind it are spared. -/
  | won {failed spared : List Prober} {winner : Prober} {d : Descriptor}
      (hfailed : ∀ p ∈ failed, p.Fails path) (hwon : winner.probe path = .ok d) :
      Ends path (failed ++ winner :: spared) (failed ++ [winner]) (.ok d)
  | lost {failed : List Prober} {last : Prober} {e : ProbeFailure}
      (hfailed : ∀ p ∈ failed, p.Fails path) (hlast : last.probe path = .error e) :
      Ends path (failed ++ [last]) (failed ++ [last]) (.error e)

/-! ## Asking -/

theorem askInTurn_not_supports (h : p.supports path = false) (failure : ProbeFailure)
    (rest : List Prober) : askInTurn path failure (p :: rest) = askInTurn path failure rest := by
  simp [askInTurn, h]

theorem askInTurn_ok (h : p.supports path = true) {d : Descriptor} (hprobe : p.probe path = .ok d)
    (failure : ProbeFailure) (rest : List Prober) :
    askInTurn path failure (p :: rest) = (.ok d, [p]) := by
  simp [askInTurn, h, hprobe]

theorem askInTurn_error (h : p.supports path = true) {e : ProbeFailure}
    (hprobe : p.probe path = .error e) (failure : ProbeFailure) (rest : List Prober) :
    askInTurn path failure (p :: rest) =
      ((askInTurn path e rest).1, p :: (askInTurn path e rest).2) := by
  simp [askInTurn, h, hprobe]

/-- Who does not take the path might as well be missing. -/
theorem askInTurn_filter (failure : ProbeFailure) (probers : List Prober) :
    askInTurn path failure (probers.filter (·.supports path)) = askInTurn path failure probers := by
  induction probers generalizing failure with
  | nil => rfl
  | cons p rest ih =>
    cases hsupports : p.supports path with
    | false =>
      rw [List.filter_cons_of_neg (by simp [hsupports]), ih,
        askInTurn_not_supports hsupports]
    | true =>
      rw [List.filter_cons_of_pos (by simpa using hsupports)]
      cases hprobe : p.probe path with
      | ok d => rw [askInTurn_ok hsupports hprobe, askInTurn_ok hsupports hprobe]
      | error e => rw [askInTurn_error hsupports hprobe, askInTurn_error hsupports hprobe, ih]

/-- **One more prober that failed before** stands in front of those that are asked. -/
theorem Ends.cons_failed (h : Ends path takers asked answer) (hsome : takers ≠ [])
    (hfails : p.Fails path) : Ends path (p :: takers) (p :: asked) answer := by
  cases h with
  | nobody => exact absurd rfl hsome
  | won hfailed hwon => exact .won (List.forall_mem_cons.mpr ⟨hfails, hfailed⟩) hwon
  | lost hfailed hlast => exact .lost (List.forall_mem_cons.mpr ⟨hfails, hfailed⟩) hlast

/-- **Asking probers that all take the path** ends in one of the three ways. What is told if nobody
is there matters to an empty row alone. -/
theorem ends_askInTurn_takers (htake : ∀ p ∈ takers, p.supports path = true)
    (failure : ProbeFailure) (hsome : takers ≠ []) :
    Ends path takers (askInTurn path failure takers).2 (askInTurn path failure takers).1 := by
  induction takers generalizing failure with
  | nil => exact absurd rfl hsome
  | cons p rest ih =>
    obtain ⟨hsupports, hrest⟩ := List.forall_mem_cons.mp htake
    have hnone : ∀ p ∈ ([] : List Prober), p.Fails path := by simp
    cases hprobe : p.probe path with
    | ok d =>
      rw [askInTurn_ok hsupports hprobe]
      exact .won hnone hprobe
    | error e =>
      rw [askInTurn_error hsupports hprobe]
      by_cases hlast : rest = []
      · subst hlast
        exact .lost hnone hprobe
      · exact (ih hrest e hlast).cons_failed hlast ⟨e, hprobe⟩

theorem ends_askInTurn (path : Path) (probers : List Prober) :
    Ends path (probers.filter (·.supports path)) (askInTurn path (.unsupported path) probers).2
      (askInTurn path (.unsupported path) probers).1 := by
  rw [← askInTurn_filter]
  by_cases hnobody : probers.filter (·.supports path) = []
  · rw [hnobody]
    exact .nobody
  · exact ends_askInTurn_takers (fun p hp => (List.mem_filter.mp hp).2) _ hnobody

/-! ## What the answer tells -/

theorem Fails.ne_ok (h : p.Fails path) (d : Descriptor) : p.probe path ≠ .ok d := by
  obtain ⟨e, he⟩ := h
  rw [he]
  exact fun h => by cases h

/-- **A chain fails** if nobody takes the path, or with the last failure if all of them fail. -/
theorem Ends.error_iff (h : Ends path takers asked answer) (e : ProbeFailure) :
    answer = .error e ↔ (takers = [] ∧ e = .unsupported path) ∨ AllFail path takers e := by
  cases h with
  | nobody => simp [AllFail, eq_comm]
  | @won failed spared winner d hfailed hwon =>
    refine iff_of_false (fun h => by cases h) ?_
    rintro (⟨hnobody, -⟩ | ⟨hall, -⟩)
    · exact absurd hnobody (by simp)
    · exact (hall winner (by simp)).ne_ok d hwon
  | @lost failed last e' hfailed hlast =>
    have hall : ∀ p ∈ failed ++ [last], p.Fails path := by
      intro p hp
      rcases List.mem_append.mp hp with hp | hp
      · exact hfailed p hp
      · exact List.mem_singleton.mp hp ▸ ⟨e', hlast⟩
    simpa [AllFail, hlast] using fun _ => by simpa using hall

theorem supports_chain_eq_false_iff (probers : List Prober) :
    (chain probers).supports path = false ↔ probers.filter (·.supports path) = [] := by
  simp [chain]

/-- **The first success wins.** Those that are asked are the probers that take the path, in their
order and each of them once, up to the first that succeeds. What fails is told by the last of them.
That the path is not supported is told if nobody takes it, and else only if the last failure says
so. -/
theorem chain_law (probers : List Prober) (path : Path) :
    let takers := probers.filter (·.supports path)
    let asked := (askInTurn path (.unsupported path) probers).2
    let answer := (chain probers).probe path
    Ends path takers asked answer ∧
      ((chain probers).supports path = false ↔ takers = []) ∧
      (∀ e, answer = .error e ↔
        (takers = [] ∧ e = .unsupported path) ∨ AllFail path takers e) ∧
      (answer = .error (.unsupported path) ↔
        (chain probers).supports path = false ∨ AllFail path takers (.unsupported path)) ∧
      ((∃ p, answer = .error (.unsupported p)) ↔
        (chain probers).supports path = false ∨ ∃ p, AllFail path takers (.unsupported p)) := by
  intro takers asked answer
  have hends : Ends path takers asked answer := ends_askInTurn path probers
  have hnobody : (chain probers).supports path = false ↔ takers = [] :=
    supports_chain_eq_false_iff probers
  refine ⟨hends, hnobody, hends.error_iff, ?_, ?_⟩
  · rw [hends.error_iff, hnobody, and_iff_left rfl]
  · have honly : (∃ p, takers = [] ∧ ProbeFailure.unsupported p = .unsupported path) ↔
        takers = [] := by simp
    rw [hnobody]
    simp only [hends.error_iff, exists_or, honly]

end MediaIndex.Prober
