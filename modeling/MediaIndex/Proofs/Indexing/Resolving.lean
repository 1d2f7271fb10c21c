import MediaIndex.Indexing.Resolve
import MediaIndex.Proofs.Cache.Growth
import MediaIndex.Proofs.Sharing

/-!
# Resolving reads through the cache

Resolving is asked for one path after the other, with whatever the prober answers at the time, while
the files stay as they are. Nobody should be able to tell that there is a cache, but by the probes
that are not made.

> **`resolve_reads_through`**: a call under a cached key answers what the cache holds and probes
> nothing. Any other call probes once: a failure is handed out and nothing is kept of it, so the
> next call probes again; a descriptor is stored and handed out complete, and from then on every
> call for that path answers the same without a probe. While a file is probed its probe stands in
> the table, and who asks for the file is turned away; no call leaves a probe there.

That a probe is taken out of the table (`dropShared_underWay`) matters most where it has failed: one
that was left would stay for good, and what is found later would be handed out incomplete
(`resolveMiss_left`).

How one call can end is said once (`ResolveCall.Ends`), and everything else is read off that. What
whole runs do to the cache is a matter of `Cache.Grows`: a call stores under a key that is missing
(`Resolver.Rule`), so a row that is there stays the first of its key.
-/

set_option autoImplicit false

namespace MediaIndex

open Cache

/-- A call for a path, with the prober that is there at the time. -/
structure ResolveCall where
  path : Path
  probe : Path → ProbeAnswer

/-- How a call can end whose file has a time. -/
inductive ResolveCall.Ends (call : ResolveCall) (time : Timestamp) (r : Resolver) :
    Resolver.Answer → Resolver → Prop where
  /-- The cache has an answer, be it that the row cannot be read. -/
  | hit {answer : Resolver.Answer} (hthere : r.cache.contains call.path time = true)
      (hcached : r.cached (call.path, time) = answer.map some) : call.Ends time r answer r
  | failed {e : ProbeFailure} (hmissing : r.cache.contains call.path time = false)
      (hprobe : call.probe call.path = .error e) :
      call.Ends time r (.error (.probe e)) { r with probed := r.probed ++ [call.path] }
  | refused {d : Descriptor} {e : CacheFailure} (hmissing : r.cache.contains call.path time = false)
      (hprobe : call.probe call.path = .ok d)
      (hupsert : r.cache.upsert call.path time d = .error e) :
      call.Ends time r (.error (.cache e)) { r with probed := r.probed ++ [call.path] }
  | stored {d : Descriptor} {cache : Cache} {number : Nat}
      (hmissing : r.cache.contains call.path time = false)
      (hprobe : call.probe call.path = .ok d)
      (hupsert : r.cache.upsert call.path time d = .ok (cache, number)) :
      call.Ends time r (.ok d.markParsed) { r with cache, probed := r.probed ++ [call.path] }

namespace Resolver

/-- The state after some calls. -/
def after (disk : Disk) (r : Resolver) (calls : List ResolveCall) : Resolver :=
  calls.foldl (fun r call => (r.resolve disk call.probe call.path).2) r

section OneCall

variable {disk : Disk} {r : Resolver} {path : Path} {time : Timestamp} (probe : Path → ProbeAnswer)

/-! ## The cache -/

theorem resolve_of_error {fault : FileFault} (h : disk.modified path = .error fault) :
    r.resolve disk probe path = (.error (.file fault), r) := by
  simp only [resolve, h]

theorem cached_missing (h : r.cache.contains path time = false) :
    r.cached (path, time) = .ok none := by
  simp only [cached, get_of_row?_none (contains_eq_false_iff.mp h)]

/-- A key that is there is never read as missing. -/
theorem cached_there (h : r.cache.contains path time = true) :
    ∃ answer : Answer, r.cached (path, time) = answer.map some := by
  obtain ⟨row, hrow⟩ := Option.isSome_iff_exists.mp h
  unfold cached
  simp only [Cache.get, hrow]
  cases readRow row with
  | ok d => exact ⟨.ok d, rfl⟩
  | error fault => exact ⟨.error (.cache (.misfit fault)), rfl⟩

theorem resolve_of_cached {answer : Answer} (htime : disk.modified path = .ok time)
    (hcached : r.cached (path, time) = answer.map some) :
    r.resolve disk probe path = (answer, r) := by
  cases answer with
  | ok d =>
    have hd : r.cached (path, time) = .ok (some d) := hcached
    simp only [resolve, htime, hd]
  | error e =>
    have he : r.cached (path, time) = .error e := hcached
    simp only [resolve, htime, he]

/-! ## The table -/

theorem shared_idle (hidle : r.inFlight = []) (key : CacheKey) :
    r.shared key = { value := .blank } := by
  simp only [shared, hidle, List.find?_nil, Option.map_none, Option.getD_none]

theorem shared_withShared (key : CacheKey) (s : SharedDescriptor) :
    (r.withShared key s).shared key = s := by
  simp [shared, withShared]

theorem withShared_withShared (key : CacheKey) (s t : SharedDescriptor) :
    (r.withShared key s).withShared key t = r.withShared key t := by
  simp [withShared, List.filter_filter]

theorem dropShared_withShared (key : CacheKey) (s : SharedDescriptor) :
    (r.withShared key s).dropShared key = r.dropShared key := by
  simp [withShared, dropShared, List.filter_filter]

/-- Probing and storing does not look at the table and leaves it alone. -/
theorem probeAndStore_withTable (table : List (CacheKey × SharedDescriptor)) (key : CacheKey) :
    ({ r with inFlight := table } : Resolver).probeAndStore probe key =
      ((r.probeAndStore probe key).1,
        { (r.probeAndStore probe key).2 with inFlight := table }) := by
  have hcached : ({ r with inFlight := table } : Resolver).cached key = r.cached key := rfl
  unfold probeAndStore
  rw [hcached]
  cases r.cached key with
  | error e => rfl
  | ok found =>
    cases found with
    | some d => rfl
    | none =>
      dsimp only
      cases probe key.1 with
      | error e => rfl
      | ok d =>
        dsimp only
        cases r.cache.upsert key.1 key.2 d <;> rfl

theorem inFlight_probeAndStore (key : CacheKey) :
    (r.probeAndStore probe key).2.inFlight = r.inFlight :=
  congrArg (·.2.inFlight) (probeAndStore_withTable (r := r) probe r.inFlight key)

theorem probeAndStore_underWay (key : CacheKey) :
    (r.underWay key).probeAndStore probe key =
      ((r.probeAndStore probe key).1,
        { (r.probeAndStore probe key).2 with inFlight := (r.underWay key).inFlight }) :=
  probeAndStore_withTable probe (r.underWay key).inFlight key

/-- **A probe that has ended is not in the table**, and no other probe is touched. -/
theorem dropShared_underWay (key : CacheKey) (s : SharedDescriptor) :
    (((r.underWay key).probeAndStore probe key).2.withShared key s).dropShared key =
      (r.probeAndStore probe key).2.dropShared key := by
  have htable : (r.underWay key).inFlight.filter (fun e => e.1 != key) =
      r.inFlight.filter fun e => e.1 != key :=
    congrArg inFlight (dropShared_withShared key { r.shared key with probing := true })
  rw [dropShared_withShared, probeAndStore_underWay, dropShared, dropShared,
    inFlight_probeAndStore, htable]

/-- **A miss comes to probing and storing**, while no probe for the file is under way. The
descriptor that is handed out is the one in the table, which is complete. -/
theorem resolveMiss_new (key : CacheKey) (hnew : r.shared key = { value := .blank }) :
    r.resolveMiss probe key =
      ((r.probeAndStore probe key).1.map Descriptor.markParsed,
        (r.probeAndStore probe key).2.dropShared key) := by
  have hanswer : ((r.underWay key).probeAndStore probe key).1 = (r.probeAndStore probe key).1 :=
    congrArg (·.1) (probeAndStore_underWay probe key)
  have hcall (change : Descriptor → Descriptor) :
      ({ value := .blank } : SharedDescriptor).call (.fill change) =
        (⟨(change .blank).markParsed, false⟩, .probed, [.runs]) := rfl
  simp only [resolveMiss, hnew, hcall, dropShared_underWay, hanswer]
  cases (r.probeAndStore probe key).1 with
  | ok d => rfl
  | error e => rfl

/-- Where no probe is under way at all, none is left. -/
theorem resolveMiss_idle (hidle : r.inFlight = []) (key : CacheKey) :
    r.resolveMiss probe key =
      ((r.probeAndStore probe key).1.map Descriptor.markParsed, (r.probeAndStore probe key).2) := by
  have hdropped : (r.probeAndStore probe key).2.dropShared key = (r.probeAndStore probe key).2 := by
    have hstill := (inFlight_probeAndStore probe key).trans hidle
    unfold dropShared
    rw [hstill, List.filter_nil, ← hstill]
  rw [resolveMiss_new probe key (shared_idle hidle key), hdropped]

/-- **While a probe is under way** a call for the same file waits for it in vain: it is answered
with what there is, does not probe and changes nothing. -/
theorem resolveMiss_held (key : CacheKey) (hheld : (r.shared key).probing = true) :
    r.resolveMiss probe key = (.ok (r.shared key).value, r.withShared key (r.shared key)) := by
  have hcall (script : ProbeScript) :
      (r.shared key).call script = (r.shared key, .gaveUp, []) :=
    SharedDescriptor.callWith_held hheld
  simp only [resolveMiss, hcall]

/-- **A probe that is left in the table** is taken for one that has stored its answer. It stays
there, the file is probed without a new one, and what is found is handed out incomplete. -/
theorem resolveMiss_left (key : CacheKey) (hfree : (r.shared key).probing = false)
    (hparsed : (r.shared key).value.parsed = true) (hmissing : r.cached key = .ok none) :
    r.resolveMiss probe key =
      (r.withShared key (r.shared key)).probeAndStore probe key := by
  have hcall (script : ProbeScript) :
      (r.shared key).call script = (r.shared key, .alreadyParsed, []) :=
    SharedDescriptor.callWith_complete hfree hparsed
  have hstill : (r.withShared key (r.shared key)).cached key = .ok none := hmissing
  simp only [resolveMiss, hcall, hstill]

/-- In the state in which a file is probed, a call for it does not probe. -/
theorem resolve_underWay (htime : disk.modified path = .ok time)
    (hmissing : r.cache.contains path time = false) :
    (r.underWay (path, time)).resolve disk probe path =
      (.ok (r.shared (path, time)).value, r.underWay (path, time)) := by
  have hcached : (r.underWay (path, time)).cached (path, time) = .ok none := cached_missing hmissing
  have hshared : (r.underWay (path, time)).shared (path, time) =
      { r.shared (path, time) with probing := true } := shared_withShared _ _
  simp only [resolve, htime, hcached]
  rw [resolveMiss_held probe _ (by rw [hshared]), hshared]
  exact congrArg _ (withShared_withShared _ _ _)

/-! ## One call -/

/-- **One call** ends in one of four ways. -/
theorem ends_resolve (hidle : r.inFlight = []) (htime : disk.modified path = .ok time) :
    ResolveCall.Ends ⟨path, probe⟩ time r (r.resolve disk probe path).1
      (r.resolve disk probe path).2 := by
  cases hthere : r.cache.contains path time with
  | true =>
    obtain ⟨answer, hcached⟩ := cached_there hthere
    rw [resolve_of_cached probe htime hcached]
    exact .hit hthere hcached
  | false =>
    have hmissing := cached_missing hthere
    simp only [resolve, htime, hmissing, resolveMiss_idle probe hidle]
    cases hprobe : probe path with
    | error e =>
      simp only [probeAndStore, hmissing, hprobe]
      exact .failed hthere hprobe
    | ok d =>
      cases hupsert : r.cache.upsert path time d with
      | error e =>
        simp only [probeAndStore, hmissing, hprobe, hupsert]
        exact .refused hthere hprobe hupsert
      | ok stored =>
        simp only [probeAndStore, hmissing, hprobe, hupsert]
        exact .stored hthere hprobe hupsert

end OneCall

/-! ## Runs -/

/-- What calls may store: what the prober answers for a file, under its time, while that key is
missing. -/
def Rule (disk : Disk) (calls : List ResolveCall) : StoreRule := fun c path time d =>
  c.contains path time = false ∧ disk.modified path = .ok time ∧
    ∃ call ∈ calls, call.path = path ∧ call.probe path = .ok d

theorem Rule.mono {disk : Disk} {calls more : List ResolveCall} (h : calls ⊆ more) :
    ∀ c path time d, Rule disk calls c path time d → Rule disk more c path time d := by
  rintro c path time d ⟨hmissing, htime, call, hcall, hfound⟩
  exact ⟨hmissing, htime, call, h hcall, hfound⟩

section Runs

variable (disk : Disk) {r : Resolver} {path : Path} {time : Timestamp}

theorem grows_resolve (hidle : r.inFlight = []) (call : ResolveCall) :
    Grows (Rule disk [call]) r.cache (r.resolve disk call.probe call.path).2.cache ∧
      (r.resolve disk call.probe call.path).2.inFlight = [] := by
  cases htime : disk.modified call.path with
  | error fault =>
    rw [resolve_of_error _ htime]
    exact ⟨.refl _, hidle⟩
  | ok time =>
    generalize hdone : r.resolve disk call.probe call.path = done
    have hends : call.Ends time r done.1 done.2 := hdone ▸ ends_resolve _ hidle htime
    clear hdone
    obtain ⟨answer, next⟩ := done
    cases hends with
    | hit hthere hcached => exact ⟨.refl _, hidle⟩
    | failed hmissing hprobe => exact ⟨.refl _, hidle⟩
    | refused hmissing hprobe hupsert => exact ⟨.refl _, hidle⟩
    | stored hmissing hprobe hupsert =>
      have hallowed : Rule disk [call] r.cache call.path time _ :=
        ⟨hmissing, htime, call, List.mem_singleton_self call, rfl, hprobe⟩
      exact ⟨.of_upsert hallowed hupsert, hidle⟩

/-- **A run only stores what was found under keys that were missing**, and leaves no probe in the
table. -/
theorem grows_after (hidle : r.inFlight = []) (calls : List ResolveCall) :
    Grows (Rule disk calls) r.cache (r.after disk calls).cache ∧
      (r.after disk calls).inFlight = [] := by
  induction calls generalizing r with
  | nil => exact ⟨.refl _, hidle⟩
  | cons call rest ih =>
    obtain ⟨hfirst, hidle⟩ := grows_resolve disk hidle call
    obtain ⟨hrest, hidle⟩ := ih hidle
    refine ⟨.trans (hfirst.mono ?_) (hrest.mono ?_), hidle⟩
    · exact Rule.mono (by simp)
    · exact Rule.mono (by simp)

/-- While no call finds anything at a path, its keys stay missing. -/
theorem missing_after (hidle : r.inFlight = []) {calls : List ResolveCall}
    (hmissing : r.cache.contains path time = false)
    (hnone : ∀ call ∈ calls, call.path = path → ∀ d, call.probe path ≠ .ok d) :
    (r.after disk calls).cache.contains path time = false := by
  rw [contains_eq_false_iff] at hmissing ⊢
  rw [← hmissing]
  refine (grows_after disk hidle calls).1.row?_eq ?_
  rintro c d ⟨-, -, call, hcall, hpath, hprobe⟩
  exact hnone call hcall hpath d hprobe

/-- What is cached under a key stays what it is. -/
theorem cached_after (hidle : r.inFlight = []) (calls : List ResolveCall)
    (hthere : r.cache.contains path time = true) :
    (r.after disk calls).cached (path, time) = r.cached (path, time) := by
  have hrow : (r.after disk calls).cache.row? path time = r.cache.row? path time := by
    rcases (grows_after disk hidle calls).1.first (fun _ _ h => h.1) with h | ⟨hmissing, -⟩
    · exact h
    · exact absurd (hthere.symm.trans hmissing) (by simp)
  simp only [cached, Cache.get, hrow]

theorem contains_of_cached {d : Descriptor} (h : r.cached (path, time) = .ok (some d)) :
    r.cache.contains path time = true := by
  cases hthere : r.cache.contains path time with
  | true => rfl
  | false => exact absurd (h.symm.trans (cached_missing hthere)) (by simp)

variable {disk}

/-- **A cached descriptor is the answer to every later call.** -/
theorem resolve_after_cached (hidle : r.inFlight = []) (htime : disk.modified path = .ok time)
    {d : Descriptor} (hcached : r.cached (path, time) = .ok (some d)) (later : List ResolveCall)
    (probe : Path → ProbeAnswer) :
    (r.after disk later).resolve disk probe path = (.ok d, r.after disk later) := by
  have hstill : (r.after disk later).cached (path, time) = (Except.ok d : Answer).map some := by
    rw [cached_after disk hidle later (contains_of_cached hcached), hcached]
    rfl
  exact resolve_of_cached probe htime hstill

/-- What is cached is complete. -/
theorem parsed_of_cached {d : Descriptor} (h : r.cached (path, time) = .ok (some d)) :
    d.parsed = true := by
  obtain ⟨row, hrow⟩ := Option.isSome_iff_exists.mp (contains_of_cached h)
  cases hread : readRow row with
  | ok found =>
    have hd : found = d := by simpa [cached, Cache.get, hrow, hread] using h
    exact hd ▸ parsed_of_readRow hread
  | error fault => simp [cached, Cache.get, hrow, hread] at h

/-- What was stored under a missing key is cached as far as it can be stored. -/
theorem cached_of_upsert {r' : Resolver} {d : Descriptor} {number : Nat}
    (hmissing : r.cache.contains path time = false)
    (hupsert : r.cache.upsert path time d = .ok (r'.cache, number)) :
    r'.cached (path, time) = .ok (some d.stored) := by
  have hrow : r'.cache.row? path time = some (fillRow d (r.cache.target path time)) := by
    rw [eq_put_of_upsert hupsert]
    exact row?_put_self
  simp only [cached, get_of_holds hrow (holds_target hmissing)]

/-! ## After a call -/

/-- A path is probed at every call until something is found there. -/
def Retries (disk : Disk) (r : Resolver) (path : Path) : Prop :=
  ∀ later : List ResolveCall, (∀ call ∈ later, call.path = path → ∀ d, call.probe path ≠ .ok d) →
    ∀ probe, ((r.after disk later).resolve disk probe path).2.probed =
      (r.after disk later).probed ++ [path]

/-- A complete descriptor is what every call for a path answers from now on. The prober is not asked
again, whatever it would say. -/
def Lasts (disk : Disk) (r : Resolver) (path : Path) (d : Descriptor) : Prop :=
  d.parsed = true ∧ ∀ later probe,
    (r.after disk later).resolve disk probe path = (.ok d, r.after disk later)

theorem retries_of_missing (hidle : r.inFlight = []) (htime : disk.modified path = .ok time)
    (hmissing : r.cache.contains path time = false) : r.Retries disk path := by
  intro later hnone probe
  have hmissing := missing_after disk hidle hmissing hnone
  have hends := ends_resolve probe (grows_after disk hidle later).2 htime
  generalize (r.after disk later).resolve disk probe path = done at hends ⊢
  obtain ⟨answer, next⟩ := done
  cases hends with
  | hit hthere hcached => exact absurd (hthere.symm.trans hmissing) (by simp)
  | failed _ hprobe => rfl
  | refused _ hprobe hupsert => rfl
  | stored _ hprobe hupsert => rfl

theorem lasts_of_cached (hidle : r.inFlight = []) (htime : disk.modified path = .ok time)
    {d : Descriptor} (hcached : r.cached (path, time) = .ok (some d)) : r.Lasts disk path d :=
  ⟨parsed_of_cached hcached, resolve_after_cached hidle htime hcached⟩

end Runs

section AfterCall

variable {disk : Disk} {r next : Resolver} {call : ResolveCall} {time : Timestamp}

/-- A failed probe has left nothing behind. -/
theorem retries_of_ends {e : ProbeFailure} (hidle : next.inFlight = [])
    (htime : disk.modified call.path = .ok time)
    (hends : call.Ends time r (.error (.probe e)) next) : next.Retries disk call.path := by
  cases hends with
  | failed hmissing hprobe => exact retries_of_missing hidle htime hmissing
  | hit hthere hcached =>
    -- the cache has failures of its own only
    obtain ⟨row, hrow⟩ := Option.isSome_iff_exists.mp hthere
    cases hread : readRow row <;> simp [cached, Cache.get, hrow, hread, Except.map] at hcached

/-- What was found lasts, as it is or with the sign of its zero lost. -/
theorem lasts_of_ends {d : Descriptor} (hidle : next.inFlight = [])
    (htime : disk.modified call.path = .ok time) (hends : call.Ends time r (.ok d) next)
    (hkept : r.cache.contains call.path time = false → ∀ found, call.probe call.path = .ok found →
      (∀ x ∈ found.duration, Number.isNotANumber x = false) ∧ found.LevelFits) :
    d.parsed = true ∧ ∃ e, next.Lasts disk call.path e ∧
      (e = d ∨ (d.duration = some (-0.0) ∧ e.Agrees d)) := by
  cases hends with
  | hit hthere hcached =>
    have hlasts := lasts_of_cached hidle htime hcached
    exact ⟨hlasts.1, d, hlasts, .inl rfl⟩
  | @stored found cache number hmissing hprobe hupsert =>
    obtain ⟨hnumber, hfits⟩ := hkept hmissing found hprobe
    refine ⟨rfl, found.stored, ?_, ?_⟩
    · exact lasts_of_cached hidle htime (cached_of_upsert hmissing hupsert)
    · by_cases hzero : found.duration = some (-0.0)
      · exact .inr ⟨hzero, Descriptor.stored_agrees_iff.mpr ⟨hnumber, hfits⟩⟩
      · exact .inl (Descriptor.stored_eq hnumber hfits hzero)

end AfterCall

/-- **Resolving reads through the cache.** After any calls, one more call ends in one of four ways.
If the probe failed then the path is probed again at the next call, and so on until something is
found. If the call answers with a descriptor, then that is complete and is what all later calls for
the path answer. For this a descriptor that was probed has to be one that can be kept: its duration
a number and its level one of its codec. The table is empty after the call; while the file is probed
its probe stands there, so that another call for the file does not probe. -/
theorem resolve_reads_through (disk : Disk) (c : Cache) (calls : List ResolveCall)
    (call : ResolveCall) :
    let r := ({ cache := c } : Resolver).after disk calls
    let done := r.resolve disk call.probe call.path
    done.2.inFlight = [] ∧
      (∀ fault, disk.modified call.path = .error fault → done = (.error (.file fault), r)) ∧
      ∀ time, disk.modified call.path = .ok time →
        (r.cache.contains call.path time = false →
          ∀ other, (r.underWay (call.path, time)).resolve disk other call.path =
            (.ok .blank, r.underWay (call.path, time))) ∧
        call.Ends time r done.1 done.2 ∧
        (∀ e, done.1 = .error (.probe e) → done.2.Retries disk call.path) ∧
        ∀ d, done.1 = .ok d →
          (r.cache.contains call.path time = false →
            ∀ found, call.probe call.path = .ok found →
              (∀ x ∈ found.duration, Number.isNotANumber x = false) ∧ found.LevelFits) →
          d.parsed = true ∧ ∃ e, done.2.Lasts disk call.path e ∧
            (e = d ∨ (d.duration = some (-0.0) ∧ e.Agrees d)) := by
  intro r done
  have hbefore : r.inFlight = [] := (grows_after disk rfl calls).2
  have hidle : done.2.inFlight = [] := (grows_resolve disk hbefore call).2
  refine ⟨hidle, fun fault hfault => resolve_of_error _ hfault, fun time htime => ?_⟩
  have hends : call.Ends time r done.1 done.2 := ends_resolve _ hbefore htime
  refine ⟨fun hmissing other => ?_, hends, fun e he => ?_, fun d hd hkept => ?_⟩
  · rw [resolve_underWay other htime hmissing, shared_idle hbefore]
  · rw [he] at hends
    exact retries_of_ends hidle htime hends
  · rw [hd] at hends
    exact lasts_of_ends hidle htime hends hkept

/-- A disk on which all files are of one time. -/
def filmDisk : Disk where
  modified _ := .ok 1000
  size? _ := none
  text _ := .error .notText
  files path := [path]

/-- A call that nobody can answer, and one that finds a film. -/
def unanswered : ResolveCall := ⟨"/films/a.mkv", fun path => .error (.unsupported path)⟩

def answered : ResolveCall := ⟨"/films/a.mkv", fun _ => .ok film⟩

theorem resolve_reads_through_film :
    let r := ({ cache := empty } : Resolver).after filmDisk [unanswered]
    let done := r.resolve filmDisk answered.probe answered.path
    r.probed = ["/films/a.mkv"] ∧ r.cache.rows = [] ∧ done.1 = .ok film.markParsed ∧
      done.2.probed = ["/films/a.mkv", "/films/a.mkv"] ∧
      ∃ e, done.2.Lasts filmDisk "/films/a.mkv" e ∧
        (e = film.markParsed ∨
          (film.markParsed.duration = some (-0.0) ∧ e.Agrees film.markParsed)) := by
  have hkept : ∀ found, answered.probe answered.path = .ok found →
      (∀ x ∈ found.duration, Number.isNotANumber x = false) ∧ found.LevelFits := by
    rintro found ⟨rfl⟩
    refine ⟨fun x hx => ?_, by decide⟩
    cases hx
    decide +kernel
  obtain ⟨-, -, hdone⟩ := resolve_reads_through filmDisk empty [unanswered] answered
  obtain ⟨-, hlasts⟩ := (hdone 1000 rfl).2.2.2 film.markParsed rfl fun _ => hkept
  exact ⟨rfl, rfl, rfl, rfl, hlasts⟩

end Resolver

end MediaIndex
