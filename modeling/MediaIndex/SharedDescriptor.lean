import MediaIndex.Descriptor

/-!
# Shared descriptors — one probe at a time

A descriptor that several users may ask to be probed is guarded by a flag: whoever raises it
probes, whoever finds it raised waits, tries a few times and then goes on with what there is. The
probe works on a copy and the copy is published when the probe has returned, so nobody sees a
descriptor that is half filled in.

A probe may itself look at the descriptor it is filling, and may ask for it to be probed. It then
finds its own flag raised, so it gives up after the same number of tries. `ProbeScript` is a probe
as far as this matters: what it does with the shared descriptor, going on by what it learns there,
and in the end what it fills in.
-/

set_option autoImplicit false

namespace MediaIndex

/-- How a call to probe a shared descriptor ended. -/
inductive ProbeOutcome where
  /-- This call ran its probe. -/
  | probed
  /-- Probing was complete already. -/
  | alreadyParsed
  /-- Another probe was running during every try. -/
  | gaveUp
  deriving Repr, DecidableEq

/-- A descriptor under its flag. -/
structure SharedDescriptor where
  value : Descriptor
  probing : Bool := false

/-- What a probe does: it may look at the shared descriptor, or ask for it with any other probe, as
often as it likes, and goes on by what it saw or was answered. In the end it fills in its copy. -/
inductive ProbeScript where
  | fill (change : Descriptor → Descriptor)
  | look (next : SharedDescriptor → ProbeScript)
  | again (inner : ProbeScript) (next : ProbeOutcome → ProbeScript)

/-- What happens in the course of a call. -/
inductive ProbeEvent where
  /-- A probe begins to run. -/
  | runs
  /-- A probe looks at the shared descriptor. -/
  | sees (shared : SharedDescriptor)
  /-- A call that a probe made is answered. -/
  | answered (outcome : ProbeOutcome)

namespace SharedDescriptor

/-- How often a call tries to raise the flag. -/
def tries : Nat := 5

/-- Raises the flag, unless it is raised. -/
def raise? (s : SharedDescriptor) : Option SharedDescriptor :=
  if s.probing then none else some { s with probing := true }

/-- Tries a number of times to raise the flag. -/
def acquire? : Nat → SharedDescriptor → Option SharedDescriptor
  | 0, _ => none
  | n + 1, s =>
    match s.raise? with
    | some held => some held
    | none => acquire? n s

/-- A call with a probe given as what it does to the held descriptor and its working copy. -/
def callWith (s : SharedDescriptor)
    (probe : SharedDescriptor → Descriptor → SharedDescriptor × Descriptor × List ProbeEvent) :
    SharedDescriptor × ProbeOutcome × List ProbeEvent :=
  match s.acquire? tries with
  | none => (s, .gaveUp, [])
  | some held =>
    if held.value.parsed then ({ held with probing := false }, .alreadyParsed, [])
    else
      let (_, working, events) := probe held held.value
      (⟨working.markParsed, false⟩, .probed, .runs :: events)

/-- Follows a script: every call it makes is a call like any other, on the descriptor as it is
held. -/
def follow : ProbeScript → SharedDescriptor → Descriptor →
    SharedDescriptor × Descriptor × List ProbeEvent
  | .fill change, held, working => (held, change working, [])
  | .look next, held, working =>
    let (after, working, events) := follow (next held) held working
    (after, working, .sees held :: events)
  | .again inner next, held, working =>
    let (held, outcome, events) := held.callWith (follow inner)
    let (after, working, later) := follow (next outcome) held working
    (after, working, events ++ .answered outcome :: later)

/-- A call to probe a shared descriptor: the descriptor afterwards, how the call ended, and what
happened in its course, in the order of time. -/
def call (s : SharedDescriptor) (script : ProbeScript) :
    SharedDescriptor × ProbeOutcome × List ProbeEvent :=
  s.callWith (follow script)

end SharedDescriptor

end MediaIndex
