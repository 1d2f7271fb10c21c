import MediaIndex.Disk.Basic
import MediaIndex.Probe.Failure
import MediaIndex.SharedDescriptor

/-!
# Resolving — the descriptor of a file, from the cache or by a probe

What is in the cache under the present time of the file is taken from there. Otherwise the file is
probed and the answer is stored. A probe is put into a table (`inFlight`) before it begins, so that
who comes second waits for the first and does not probe again; a probe that has ended is taken out
of it, however it ended.
-/

set_option autoImplicit false

namespace MediaIndex

/-- Why a file cannot be resolved. -/
inductive ResolveFailure where
  | file (fault : FileFault)
  | cache (failure : CacheFailure)
  | probe (failure : ProbeFailure)
  deriving Repr, DecidableEq

/-- The text of a failure. -/
def ResolveFailure.message : ResolveFailure → String
  | .file fault => "IO error: " ++ fault.message
  | .cache failure => "Database error: " ++ failure.text
  | .probe failure => "Probe error: " ++ failure.message

/-- What a descriptor is stored under. -/
abbrev CacheKey : Type := Path × Timestamp

/-- The cache with the probes that are under way, and a record of those that were made. -/
structure Resolver where
  cache : Cache
  inFlight : List (CacheKey × SharedDescriptor) := []
  probed : List Path := []

namespace Resolver

/-- What resolving answers. -/
abbrev Answer : Type := Except ResolveFailure Descriptor

/-- Looks into the cache. -/
def cached (r : Resolver) (key : CacheKey) : Except ResolveFailure (Option Descriptor) :=
  match r.cache.get key.1 key.2 with
  | .ok d => .ok d
  | .error e => .error (.cache e)

/-- Probes a file and stores the descriptor, unless it is in the cache by now. -/
def probeAndStore (probe : Path → ProbeAnswer) (r : Resolver) (key : CacheKey) :
    Answer × Resolver :=
  match r.cached key with
  | .error e => (.error e, r)
  | .ok (some d) => (.ok d, r)
  | .ok none =>
    let r := { r with probed := r.probed ++ [key.1] }
    match probe key.1 with
    | .error e => (.error (.probe e), r)
    | .ok d =>
      match r.cache.upsert key.1 key.2 d with
      | .error e => (.error (.cache e), r)
      | .ok (cache, _) => (.ok d, { r with cache })

/-- The probe of a file that is under way, or a new one. -/
def shared (r : Resolver) (key : CacheKey) : SharedDescriptor :=
  ((r.inFlight.find? fun e => e.1 == key).map (·.2)).getD { value := .blank }

/-- Notes how a probe stands. -/
def withShared (r : Resolver) (key : CacheKey) (s : SharedDescriptor) : Resolver :=
  { r with inFlight := (key, s) :: r.inFlight.filter fun e => e.1 != key }

/-- Takes a probe out of the table. -/
def dropShared (r : Resolver) (key : CacheKey) : Resolver :=
  { r with inFlight := r.inFlight.filter fun e => e.1 != key }

/-- What the answer of a probe makes of a descriptor: a failed one leaves it as it is. -/
def fill (answer : Answer) (d : Descriptor) : Descriptor :=
  match answer with
  | .ok found => found
  | .error _ => d

/-- The state while a file is probed: the probe stands in the table, with its flag up. -/
def underWay (r : Resolver) (key : CacheKey) : Resolver :=
  r.withShared key { r.shared key with probing := true }

/-- Resolves a file that is not in the cache. -/
def resolveMiss (probe : Path → ProbeAnswer) (r : Resolver) (key : CacheKey) : Answer × Resolver :=
  let (answer, after) := (r.underWay key).probeAndStore probe key
  let (s, outcome, _) := (r.shared key).call (.fill (fill answer))
  match outcome with
  -- the probe in the table is still that of this call, and is as complete as the call leaves it
  | .probed => (answer.map fun _ => s.value, (after.withShared key s).dropShared key)
  | .alreadyParsed =>
    let r := r.withShared key s
    match r.cached key with
    | .error e => (.error e, r)
    | .ok (some d) => (.ok d, r)
    | .ok none => r.probeAndStore probe key
  | .gaveUp => (.ok s.value, r.withShared key s)

/-- Resolves a file. -/
def resolve (disk : Disk) (probe : Path → ProbeAnswer) (r : Resolver) (path : Path) :
    Answer × Resolver :=
  match disk.modified path with
  | .error fault => (.error (.file fault), r)
  | .ok time =>
    match r.cached (path, time) with
    | .error e => (.error e, r)
    | .ok (some d) => (.ok d, r)
    | .ok none => r.resolveMiss probe (path, time)

end Resolver

end MediaIndex
