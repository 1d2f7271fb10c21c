import MediaIndex.SharedDescriptor

/-!
# A shared descriptor is probed once

Users of a shared descriptor call one after the other, each with a probe of its own, and a probe may
look at the descriptor and call again while it runs. Here is what comes of any row of such calls.

> **`probed_once`**: a probe runs only if the descriptor was not complete to begin with, and then it
> is that of the first call. While it runs, everybody who looks sees the descriptor as it was, and
> everybody who calls is turned away. After each call the flag is down and the descriptor complete,
> and after the first call it stays as it is.

A call is one of three: the flag is up, the descriptor is complete, or neither (`callWith_held`,
`callWith_complete`, `callWith_idle`). All calls of a running probe are of the first kind, however
deep they are nested, since the probes that they bring are never followed (`follow_held`).
-/

set_option autoImplicit false

namespace MediaIndex

/-- What may happen while a probe runs, on a descriptor that is held for it: it is seen as it is
held, and calls give up. -/
inductive ProbeEvent.Meanwhile (held : SharedDescriptor) : ProbeEvent → Prop where
  | sees : Meanwhile held (.sees held)
  | answered : Meanwhile held (.answered .gaveUp)

namespace SharedDescriptor

variable {s : SharedDescriptor}
  {probe : SharedDescriptor → Descriptor → SharedDescriptor × Descriptor × List ProbeEvent}

/-! ## One call -/

theorem acquire?_held (h : s.probing = true) (n : Nat) : s.acquire? n = none := by
  induction n with
  | zero => rfl
  | succ n ih => simp only [acquire?, raise?, h, if_true, ih]

theorem acquire?_free (h : s.probing = false) :
    s.acquire? tries = some { s with probing := true } := by
  simp only [tries, acquire?, raise?, h, Bool.false_eq_true, if_false]

/-- **A call gives up** while the flag is up, and leaves everything as it is. -/
theorem callWith_held (h : s.probing = true) : s.callWith probe = (s, .gaveUp, []) := by
  rw [callWith, acquire?_held h]

/-- A call for a descriptor that is complete only raises the flag and takes it down again. -/
theorem callWith_complete (h : s.probing = false) (hparsed : s.value.parsed = true) :
    s.callWith probe = (s, .alreadyParsed, []) := by
  obtain ⟨value, probing⟩ := s
  obtain rfl : probing = false := h
  rw [callWith, acquire?_free rfl]
  exact if_pos hparsed

/-- In any other case the probe runs, and what it has filled in is published. -/
theorem callWith_idle (h : s.probing = false) (hparsed : s.value.parsed = false) :
    s.callWith probe =
      (⟨(probe { s with probing := true } s.value).2.1.markParsed, false⟩, .probed,
        .runs :: (probe { s with probing := true } s.value).2.2) := by
  rw [callWith, acquire?_free h]
  exact if_neg (by simp [hparsed])

/-- **While a probe runs nothing changes**, whatever it does and however deep its calls are nested:
the descriptor stays as it is held, and no other probe begins. -/
theorem follow_held {held : SharedDescriptor} (h : held.probing = true) (script : ProbeScript)
    (working : Descriptor) :
    (follow script held working).1 = held ∧
      ∀ e ∈ (follow script held working).2.2, e.Meanwhile held := by
  induction script generalizing working with
  | fill change => exact ⟨rfl, fun e he => absurd he (by simp [follow])⟩
  | look next ih =>
    obtain ⟨hheld, hevents⟩ := ih held working
    refine ⟨hheld, fun e he => ?_⟩
    rcases List.mem_cons.mp he with rfl | he
    · exact .sees
    · exact hevents e he
  | again inner next _ ih =>
    -- the call is turned away, so of its own probe nothing needs to be known
    obtain ⟨hheld, hevents⟩ := ih .gaveUp working
    simp only [follow, callWith_held h, List.nil_append]
    refine ⟨hheld, fun e he => ?_⟩
    rcases List.mem_cons.mp he with rfl | he
    · exact .answered
    · exact hevents e he

/-! ## Calls one after the other -/

/-- How one of several calls went. -/
structure Turn where
  outcome : ProbeOutcome
  events : List ProbeEvent
  after : SharedDescriptor

/-- Calls, one after the other. -/
def turns (s : SharedDescriptor) : List ProbeScript → List Turn
  | [] => []
  | script :: rest =>
    let called := s.call script
    ⟨called.2.1, called.2.2, called.1⟩ :: turns called.1 rest

/-- Whether the probe of a call ran, and no other, on a descriptor that was as given before. -/
structure Turn.Probes (turn : Turn) (d : Descriptor) : Prop where
  outcome : turn.outcome = .probed
  events : ∃ later, turn.events = .runs :: later ∧ ∀ e ∈ later, e.Meanwhile ⟨d, true⟩

/-- Whether nothing happened in the course of a call, as the descriptor was complete. -/
structure Turn.Passes (turn : Turn) : Prop where
  outcome : turn.outcome = .alreadyParsed
  events : turn.events = []

/-- Once the descriptor is complete, no call does anything. -/
theorem turns_complete (h : s.probing = false) (hparsed : s.value.parsed = true)
    (scripts : List ProbeScript) :
    s.turns scripts = scripts.map fun _ => ⟨.alreadyParsed, [], s⟩ := by
  induction scripts with
  | nil => rfl
  | cons script rest ih =>
    have hcall : s.call script = (s, .alreadyParsed, []) := callWith_complete h hparsed
    simp only [turns, hcall, ih, List.map_cons]

/-- What a call leaves behind when nobody else is at work: the flag is down, and the descriptor
complete. -/
theorem call_completes (h : s.probing = false) (script : ProbeScript) :
    (s.call script).1.probing = false ∧ (s.call script).1.value.parsed = true := by
  cases hparsed : s.value.parsed with
  | true =>
    rw [call, callWith_complete h hparsed]
    exact ⟨h, hparsed⟩
  | false =>
    rw [call, callWith_idle h hparsed]
    exact ⟨rfl, rfl⟩

/-- The first call decides everything: the calls after it find what it left behind. -/
theorem turns_cons (h : s.probing = false) (script : ProbeScript) (rest : List ProbeScript) :
    s.turns (script :: rest) =
      ⟨(s.call script).2.1, (s.call script).2.2, (s.call script).1⟩ ::
        rest.map fun _ => ⟨.alreadyParsed, [], (s.call script).1⟩ := by
  obtain ⟨hfree, hparsed⟩ := call_completes h script
  rw [turns, turns_complete hfree hparsed]

/-- The first call runs its probe exactly if the descriptor is not complete. -/
theorem first_turn (d : Descriptor) (script : ProbeScript) :
    let called := call ⟨d, false⟩ script
    (d.parsed = false → Turn.Probes ⟨called.2.1, called.2.2, called.1⟩ d) ∧
      (d.parsed = true →
        Turn.Passes ⟨called.2.1, called.2.2, called.1⟩ ∧ called.1 = ⟨d, false⟩) := by
  intro called
  refine ⟨fun hparsed => ?_, fun hparsed => ?_⟩
  · have hcalled : called = _ := callWith_idle rfl hparsed
    rw [hcalled]
    exact ⟨rfl, _, rfl, (@follow_held ⟨d, true⟩ rfl script d).2⟩
  · have hcalled : called = _ := callWith_complete rfl hparsed
    rw [hcalled]
    exact ⟨⟨rfl, rfl⟩, rfl⟩

/-- **A shared descriptor is probed once.** Let several calls come one after the other, whose probes
look and call as they like. Every call is answered. The first runs its probe, and says so, if the
descriptor was not complete to begin with; while that probe runs no other begins, every call that it
makes gives up, and whoever looks sees the descriptor as it was before. Every other call finds the
descriptor complete, and nothing happens in its course. After each call the flag is down and the
descriptor complete, and it is what it was after the first call, which leaves a complete descriptor
as it was. -/
theorem probed_once (d : Descriptor) (scripts : List ProbeScript) :
    let turns := turns ⟨d, false⟩ scripts
    turns.length = scripts.length ∧
      ∀ i turn, turns[i]? = some turn →
        (i = 0 ∧ d.parsed = false → turn.Probes d) ∧
        (¬(i = 0 ∧ d.parsed = false) → turn.Passes) ∧
        turn.after.probing = false ∧ turn.after.value.parsed = true ∧
        (∀ first, turns[0]? = some first → turn.after = first.after) ∧
        (d.parsed = true → turn.after.value = d) := by
  cases scripts with
  | nil => exact ⟨rfl, fun i turn h => absurd h (by simp [turns])⟩
  | cons script rest =>
    obtain ⟨hfree, hcomplete⟩ := call_completes (s := ⟨d, false⟩) rfl script
    obtain ⟨hprobes, hpasses⟩ := first_turn d script
    rw [turns_cons rfl]
    generalize call ⟨d, false⟩ script = called at hfree hcomplete hprobes hpasses ⊢
    have hkept : d.parsed = true → called.1.value = d :=
      fun hparsed => by rw [(hpasses hparsed).2]
    refine ⟨by simp, fun i turn h => ?_⟩
    cases i with
    | zero =>
      obtain rfl := Option.some.inj h
      refine ⟨fun hidle => hprobes hidle.2, fun hbusy => ?_, hfree, hcomplete, ?_, hkept⟩
      · exact (hpasses (by simpa using hbusy)).1
      · exact fun first hfirst => congrArg Turn.after (Option.some.inj hfirst)
    | succ i =>
      rw [List.getElem?_cons_succ, List.getElem?_map] at h
      obtain ⟨other, -, rfl⟩ := Option.map_eq_some_iff.mp h
      refine ⟨fun hidle => absurd hidle.1 (by simp), fun _ => ⟨rfl, rfl⟩, hfree, hcomplete, ?_,
        hkept⟩
      intro first hfirst
      obtain rfl := Option.some.inj hfirst
      rfl

/-- A probe that looks, asks again with a probe that would ask once more, looks a second time, and
then fills in what it was refused. -/
def nosyProbe : ProbeScript :=
  .look fun _ => .again (.again (.fill id) fun _ => .fill fun d => { d with width := some 1 })
    fun outcome => .look fun _ => .fill fun d =>
      { d with container := if outcome = .gaveUp then some .matroska else none }

theorem probed_once_nosyProbe :
    let calls := turns ⟨.blank, false⟩ [nosyProbe, .fill fun d => { d with container := some .avi }]
    ∃ first second, calls[0]? = some first ∧ calls[1]? = some second ∧
      Descriptor.blank.parsed = false ∧ first.Probes .blank ∧ second.Passes ∧
      second.after = first.after ∧ second.after.value.container = some .matroska := by
  intro calls
  obtain ⟨-, hturns⟩ :=
    probed_once .blank [nosyProbe, .fill fun d => { d with container := some .avi }]
  obtain ⟨hprobes, -⟩ := hturns 0 _ rfl
  obtain ⟨-, hpasses, -, -, hsame, -⟩ := hturns 1 _ rfl
  exact ⟨_, _, rfl, rfl, rfl, hprobes ⟨rfl, rfl⟩, hpasses (by simp), hsame _ rfl, rfl⟩

end SharedDescriptor

end MediaIndex
