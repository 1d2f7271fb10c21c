import MediaIndex.Proofs.Cache.Keys

/-!
# What a cache shows is told by its history

A cache is changed by storing, by dropping thumbnails and by sweeping, in any order and under any
keys. This file says what is then under one key, without the tables: from what happened to that key
alone.

> **`history_law`**: after every run that began with an empty cache, a key shows the latest
> descriptor that was stored under it since a sweep last removed it, and at each place of the
> tracks the latest track that was stored there since; nothing that happens to another key is
> seen. A key that is there keeps the number of its row, and a new row gets a number above all
> that were ever given.

The shape is a simulation: a state of the tables is related to a history of the key (`Tells`), one
step of either keeps the relation (`Tells.step`), and so does a whole run (`tells_run`). The related
history determines the row, because the rows of tracks that a shorter list leaves behind are the
ones of the older descriptors of the same history (`overlaid`).
-/

set_option autoImplicit false

namespace MediaIndex

/-- A change to the rows of a cache. A sweep goes by the times that the files have then. -/
inductive CacheOp where
  | upsert (path : Path) (time : Timestamp) (d : Descriptor)
  | dropThumbnails
  | sweep (modified : Path → Option Timestamp)

namespace CacheOp

/-- Whether a change can be seen under a key. -/
def concerns (path : Path) (time : Timestamp) : CacheOp → Bool
  | upsert p t _ => p == path && t == time
  | dropThumbnails => true
  | sweep modified => !Cache.survives modified path time

/-- Whether a change leaves what is under a key in the cache. -/
def keeps (path : Path) (time : Timestamp) : CacheOp → Bool
  | sweep modified => Cache.survives modified path time
  | _ => true

end CacheOp

/-! ## Histories -/

/-- What happened to one key since a sweep last removed it. -/
structure KeyHistory where
  /-- What was stored, the latest first. -/
  puts : List Descriptor := []
  /-- Whether thumbnails were dropped after that. -/
  bare : Bool := false

namespace KeyHistory

variable (path : Path) (time : Timestamp)

/-- Takes one more change into the history of a key. -/
def add (h : KeyHistory) : CacheOp → KeyHistory
  | .upsert p t d => if p = path ∧ t = time then ⟨d :: h.puts, false⟩ else h
  | .dropThumbnails => { h with bare := true }
  | .sweep modified => if Cache.survives modified path time then h else {}

/-- The history of a key in a run. -/
def ofRun (ops : List CacheOp) : KeyHistory := ops.foldl (add path time) {}

/-- A change that cannot be seen under a key changes nothing that can be told of it. -/
theorem add_eq_self {h : KeyHistory} {op : CacheOp} (hop : op.concerns path time = false) :
    h.add path time op = h := by
  cases op with
  | upsert p t d =>
    have hother : ¬(p = path ∧ t = time) := by simpa [CacheOp.concerns] using hop
    exact if_neg hother
  | dropThumbnails => exact absurd hop (by simp [CacheOp.concerns])
  | sweep modified =>
    have hsurvives : Cache.survives modified path time = true := by
      simpa [CacheOp.concerns] using hop
    exact if_pos hsurvives

/-- **The history of a key is the same** without the changes that do not concern it. -/
theorem ofRun_filter (ops : List CacheOp) :
    ofRun path time (ops.filter (·.concerns path time)) = ofRun path time ops := by
  unfold ofRun
  generalize ({} : KeyHistory) = h
  induction ops generalizing h with
  | nil => rfl
  | cons op rest ih =>
    cases hop : op.concerns path time with
    | true =>
      rw [List.filter_cons_of_pos hop]
      exact ih _
    | false =>
      rw [List.filter_cons_of_neg (by simp [hop]), List.foldl_cons, add_eq_self path time hop]
      exact ih h

/-- The descriptors of a history laid over one another. -/
def overlaid : List Descriptor → Option Descriptor
  | [] => none
  | d :: older => some ((overlaid older).elim d d.over)

/-- What a row holds after a history. -/
def held? (h : KeyHistory) : Option Descriptor :=
  (overlaid h.puts).map fun d => if h.bare then d.withoutThumbnail else d

/-- **Each place shows the latest track that was stored there.** -/
theorem getElem?_overlaid {α : Type} (tracks : Descriptor → List α)
    (hover : ∀ d old, tracks (d.over old) = Cache.overlay (tracks d) (tracks old))
    {puts : List Descriptor} {e : Descriptor} (h : overlaid puts = some e) (i : Nat) :
    (tracks e)[i]? = puts.findSome? fun d => (tracks d)[i]? := by
  induction puts generalizing e with
  | nil => exact absurd h (by simp [overlaid])
  | cons d older ih =>
    rw [List.findSome?_cons]
    cases hold : overlaid older with
    | none =>
      have hnone : older = [] := by
        cases older with
        | nil => rfl
        | cons _ _ => exact absurd hold (by simp [overlaid])
      have he : d = e := by simpa [overlaid, hold] using h
      subst he hnone
      cases (tracks d)[i]? <;> rfl
    | some old =>
      have he : d.over old = e := by simpa [overlaid, hold] using h
      rw [← he, hover, Cache.getElem?_overlay, ih hold]
      cases (tracks d)[i]? <;> rfl

theorem held?_eq_none_iff {h : KeyHistory} : h.held? = none ↔ h.puts = [] := by
  unfold held?
  cases h.puts with
  | nil => simp [overlaid]
  | cons d older => simp [overlaid]

end KeyHistory

/-- The fields of a descriptor that are not tracks. -/
def Descriptor.fields (d : Descriptor) : Descriptor :=
  { d with audioTracks := [], subtitleTracks := [] }

namespace KeyHistory

/-- The latest descriptor of a history without what was dropped since. -/
def afterDrops (h : KeyHistory) (d : Descriptor) : Descriptor :=
  if h.bare then d.withoutThumbnail else d

/-- What a key shows after a history whose latest descriptor is `d`: the fields of that descriptor
as they are read back, and at each place the latest track. The fields are read back unchanged
wherever a descriptor is kept at all. -/
structure Shows (h : KeyHistory) (d e : Descriptor) : Prop where
  fields : e.fields = (h.afterDrops d).stored.fields
  unchanged : (∀ x ∈ d.duration, Number.isNotANumber x = false) → d.LevelFits →
    d.duration ≠ some (-0.0) → e.fields = (h.afterDrops d).markParsed.fields
  audio : ∀ i : Nat, e.audioTracks[i]? = h.puts.findSome? fun d => d.audioTracks[i]?
  subtitles : ∀ i : Nat, e.subtitleTracks[i]? = h.puts.findSome? fun d => d.subtitleTracks[i]?

theorem fields_overlaid {d e : Descriptor} {older : List Descriptor}
    (h : overlaid (d :: older) = some e) : e.fields = d.fields := by
  cases hold : overlaid older with
  | none =>
    have he : d = e := by simpa [overlaid, hold] using h
    rw [he]
  | some old =>
    have he : d.over old = e := by simpa [overlaid, hold] using h
    rw [← he]
    rfl

/-- **What a row holds after a history is what the key has to show.** -/
theorem shows_stored {h : KeyHistory} {d e : Descriptor} {older : List Descriptor}
    (hputs : h.puts = d :: older) (hheld : h.held? = some e) : h.Shows d e.stored := by
  obtain ⟨o, ho, rfl⟩ := Option.map_eq_some_iff.mp hheld
  have haudio := getElem?_overlaid Descriptor.audioTracks (fun _ _ => rfl) ho
  have hsubtitles := getElem?_overlaid Descriptor.subtitleTracks (fun _ _ => rfl) ho
  have hlatest : o.fields = d.fields := by
    rw [hputs] at ho
    exact fields_overlaid ho
  have hfields : (h.afterDrops o).stored.fields = (h.afterDrops d).stored.fields := by
    have hbare : (h.afterDrops o).fields = (h.afterDrops d).fields := by
      unfold afterDrops
      cases h.bare with
      | false => exact hlatest
      | true => exact congrArg Descriptor.withoutThumbnail hlatest
    exact congrArg Descriptor.stored hbare
  refine ⟨hfields, fun hnumber hfits hzero => ?_, fun i => ?_, fun i => ?_⟩
  · rw [← Descriptor.stored_eq (d := h.afterDrops d)]
    · exact hfields
    · unfold afterDrops
      cases h.bare <;> exact hnumber
    · unfold afterDrops
      cases h.bare <;> exact hfits
    · unfold afterDrops
      cases h.bare <;> exact hzero
  · rw [← haudio i]
    cases h.bare <;> rfl
  · rw [← hsubtitles i]
    cases h.bare <;> rfl

end KeyHistory

/-! ## Runs -/

namespace Cache

/-- Makes one change. What is refused changes nothing. -/
def step (c : Cache) : CacheOp → Cache
  | .upsert path time d =>
    match c.upsert path time d with
    | .ok (c', _) => c'
    | .error _ => c
  | .dropThumbnails => c.dropThumbnails.1
  | .sweep modified => (c.sweep modified).1

/-- The cache after some changes to an empty one. -/
def run (ops : List CacheOp) : Cache := ops.foldl step empty

theorem run_append (ops more : List CacheOp) : run (ops ++ more) = more.foldl step (run ops) :=
  List.foldl_append

/-- What holds in a whole run, of the cache alone: no table refuses rows, and no row has a number
that was not given. -/
structure Sound (c : Cache) : Prop where
  willing : c.refusals = []
  numbered : ∀ r ∈ c.rows, r.number ≤ c.lastNumber

theorem sound_empty : Sound empty := ⟨rfl, by simp [empty]⟩

variable {c : Cache} {path : Path} {time : Timestamp} {d : Descriptor} {op : CacheOp}

theorem Sound.upsert (h : c.Sound) : c.upsert path time d = .ok (c.put path time d) := by
  have hroom : c.refusesAny path d = false := by simp [refusesAny, refuses, h.willing]
  rw [Cache.upsert, hroom]
  rfl

theorem Sound.step_upsert (h : c.Sound) :
    c.step (.upsert path time d) = (c.put path time d).1 := by
  rw [step, h.upsert]

theorem Sound.put (h : c.Sound) : (c.put path time d).1.Sound := by
  unfold Cache.put
  cases c.row? path time with
  | none =>
    refine ⟨h.willing, fun r hr => ?_⟩
    rcases List.mem_append.mp hr with hr | hr
    · exact Nat.le_succ_of_le (h.numbered r hr)
    · rw [List.mem_singleton.mp hr]
      exact Nat.le_refl _
  | some _ =>
    refine ⟨h.willing, fun r hr => ?_⟩
    obtain ⟨s, hs, rfl⟩ := List.mem_map.mp hr
    have hnumber : (if hasKey path time s then fillRow d s else s).number = s.number := by
      split <;> rfl
    rw [hnumber]
    exact Nat.le_succ_of_le (h.numbered s hs)

theorem Sound.step (h : c.Sound) (op : CacheOp) : (c.step op).Sound := by
  cases op with
  | upsert path time d =>
    rw [h.step_upsert]
    exact h.put
  | dropThumbnails =>
    refine ⟨h.willing, fun r hr => ?_⟩
    obtain ⟨s, hs, rfl⟩ := List.mem_map.mp hr
    exact (number_withoutRowThumbnail s).trans_le (h.numbered s hs)
  | sweep modified => exact ⟨h.willing, fun r hr => h.numbered r (List.mem_of_mem_filter hr)⟩

theorem Sound.steps (h : c.Sound) (ops : List CacheOp) : (ops.foldl Cache.step c).Sound := by
  induction ops generalizing c with
  | nil => exact h
  | cons op rest ih => exact ih (h.step op)

theorem sound_run (ops : List CacheOp) : (run ops).Sound := sound_empty.steps ops

/-! ## The simulation -/

/-- A history of a key tells what the row under the key holds, or that there is none. -/
def Tells (c : Cache) (path : Path) (time : Timestamp) (h : KeyHistory) : Prop :=
  match h.held? with
  | none => c.row? path time = none
  | some d => ∃ r, c.row? path time = some r ∧ Holds r d

theorem tells_of_row?_eq {c' : Cache} {h : KeyHistory}
    (heq : c'.row? path time = c.row? path time) (htells : c.Tells path time h) :
    c'.Tells path time h := by
  unfold Tells at htells ⊢
  rw [heq]
  exact htells

theorem Tells.put_self {h : KeyHistory} (htells : c.Tells path time h) :
    (c.put path time d).1.Tells path time ⟨d :: h.puts, false⟩ := by
  refine ⟨_, row?_put_self, ?_⟩
  unfold Tells KeyHistory.held? at htells
  cases hold : KeyHistory.overlaid h.puts with
  | none =>
    rw [hold] at htells
    have hnew : c.row? path time = none := htells
    simp only [Option.elim, Bool.false_eq_true, if_false]
    rw [target, hnew]
    exact holds_fillRow_new rfl rfl d
  | some old =>
    rw [hold] at htells
    obtain ⟨r, hrow, hr⟩ := htells
    rw [target, hrow]
    -- whether thumbnails were dropped is of no account: the new descriptor brings its own
    have hover : d.over old = d.over (if h.bare then old.withoutThumbnail else old) := by
      split <;> rfl
    show Holds (fillRow d r) (d.over old)
    rw [hover]
    exact hr.fillRow d

/-- **One step keeps the relation** between the tables and the history of a key. -/
theorem Tells.step (hsound : c.Sound) {h : KeyHistory} (htells : c.Tells path time h)
    (op : CacheOp) : (c.step op).Tells path time (h.add path time op) := by
  cases op with
  | upsert p t d =>
    rw [hsound.step_upsert]
    by_cases hkey : p = path ∧ t = time
    · obtain ⟨rfl, rfl⟩ := hkey
      rw [KeyHistory.add, if_pos ⟨rfl, rfl⟩]
      exact htells.put_self
    · rw [KeyHistory.add, if_neg hkey]
      exact tells_of_row?_eq (row?_put_other hkey) htells
  | dropThumbnails =>
    unfold Tells KeyHistory.held? at htells
    simp only [Tells, KeyHistory.add, KeyHistory.held?, Cache.step, row?_dropThumbnails]
    cases hold : KeyHistory.overlaid h.puts with
    | none =>
      rw [hold] at htells
      have hnone : c.row? path time = none := htells
      simp [hnone]
    | some old =>
      rw [hold] at htells
      obtain ⟨r, hrow, hr⟩ := htells
      refine ⟨withoutRowThumbnail r, by rw [hrow]; rfl, ?_⟩
      have hdropped : (if h.bare then old.withoutThumbnail else old).withoutThumbnail =
          old.withoutThumbnail := by
        split <;> rfl
      show Holds (withoutRowThumbnail r) old.withoutThumbnail
      rw [← hdropped]
      exact hr.dropThumbnail
  | sweep modified =>
    cases hsurvives : survives modified path time with
    | true =>
      rw [KeyHistory.add, hsurvives, if_pos rfl]
      refine tells_of_row?_eq ?_ htells
      exact (row?_sweep modified).trans (if_pos hsurvives)
    | false =>
      rw [KeyHistory.add, hsurvives, if_neg (by simp)]
      exact (row?_sweep modified).trans (if_neg (by simp [hsurvives]))

theorem tells_run (ops : List CacheOp) (path : Path) (time : Timestamp) :
    (run ops).Tells path time (.ofRun path time ops) := by
  have hsteps : ∀ {c : Cache} {h : KeyHistory}, c.Sound → c.Tells path time h →
      (ops.foldl Cache.step c).Tells path time (ops.foldl (KeyHistory.add path time) h) := by
    induction ops with
    | nil => exact fun _ htells => htells
    | cons op rest ih => exact fun hsound htells => ih (hsound.step op) (htells.step hsound op)
  exact hsteps sound_empty rfl

/-! ## Numbers of rows -/

/-- The number that is answered to storing under a key after a run. -/
def answer (ops : List CacheOp) (path : Path) (time : Timestamp) (d : Descriptor) : Nat :=
  ((run ops).put path time d).2

theorem upsert_run (ops : List CacheOp) (path : Path) (time : Timestamp) (d : Descriptor) :
    (run ops).upsert path time d =
      .ok (run (ops ++ [.upsert path time d]), answer ops path time d) := by
  rw [(sound_run ops).upsert, run_append]
  simp only [List.foldl_cons, List.foldl_nil, (sound_run ops).step_upsert, answer]

theorem Sound.step_number (hsound : c.Sound) {r : FileRow} (hrow : c.row? path time = some r)
    (hkeeps : op.keeps path time = true) :
    ∃ r', (c.step op).row? path time = some r' ∧ r'.number = r.number := by
  cases op with
  | upsert p t d =>
    rw [hsound.step_upsert]
    by_cases hkey : p = path ∧ t = time
    · obtain ⟨rfl, rfl⟩ := hkey
      refine ⟨_, row?_put_self, ?_⟩
      rw [target, hrow]
      rfl
    · exact ⟨r, (row?_put_other hkey).trans hrow, rfl⟩
  | dropThumbnails =>
    exact ⟨withoutRowThumbnail r, by rw [Cache.step, row?_dropThumbnails, hrow]; rfl,
      number_withoutRowThumbnail r⟩
  | sweep modified => exact ⟨r, ((row?_sweep modified).trans (if_pos hkeeps)).trans hrow, rfl⟩

theorem Sound.steps_number (hsound : c.Sound) {r : FileRow} (hrow : c.row? path time = some r)
    {ops : List CacheOp} (hkeeps : ∀ op ∈ ops, op.keeps path time = true) :
    ∃ r', (ops.foldl Cache.step c).row? path time = some r' ∧ r'.number = r.number := by
  induction ops generalizing c r with
  | nil => exact ⟨r, hrow, rfl⟩
  | cons op rest ih =>
    obtain ⟨s, hs, hnumber⟩ := hsound.step_number hrow (hkeeps op List.mem_cons_self)
    obtain ⟨r', hr', hsame⟩ :=
      ih (hsound.step op) hs fun op' hop' => hkeeps op' (List.mem_cons_of_mem _ hop')
    exact ⟨r', hr', hsame.trans hnumber⟩

/-- **A key that is there keeps its number**: storing is answered as it was answered before. -/
theorem answer_live {before after : List CacheOp} {d d' : Descriptor}
    (hkeeps : ∀ op ∈ after, op.keeps path time = true) :
    answer (before ++ .upsert path time d :: after) path time d' = answer before path time d := by
  have hsound := sound_run before
  have hstored : (step (run before) (.upsert path time d)).row? path time =
      some (fillRow d ((run before).target path time)) := by
    rw [hsound.step_upsert]
    exact row?_put_self
  obtain ⟨r, hr, hnumber⟩ := (hsound.step _).steps_number hstored hkeeps
  have hlater : (run (before ++ .upsert path time d :: after)).row? path time = some r := by
    rw [run_append]
    exact hr
  rw [answer, put_number, target, hlater, Option.getD_some, hnumber, answer, put_number]
  rfl

theorem Sound.lastNumber_le_step (hsound : c.Sound) (op : CacheOp) :
    c.lastNumber ≤ (c.step op).lastNumber := by
  cases op with
  | upsert p t d =>
    rw [hsound.step_upsert, put_lastNumber]
    exact Nat.le_succ _
  | dropThumbnails => exact Nat.le_refl _
  | sweep modified => exact Nat.le_refl _

theorem Sound.lastNumber_le_steps (hsound : c.Sound) (ops : List CacheOp) :
    c.lastNumber ≤ (ops.foldl Cache.step c).lastNumber := by
  induction ops generalizing c with
  | nil => exact Nat.le_refl _
  | cons op rest ih => exact Nat.le_trans (hsound.lastNumber_le_step op) (ih (hsound.step op))

/-- What is answered was used up by the storing that it answers. -/
theorem answer_le (ops : List CacheOp) (path : Path) (time : Timestamp) (d : Descriptor) :
    answer ops path time d ≤ (step (run ops) (.upsert path time d)).lastNumber := by
  have hsound := sound_run ops
  rw [hsound.step_upsert, put_lastNumber, answer, put_number, target]
  cases hrow : (run ops).row? path time with
  | none => exact Nat.le_refl _
  | some r =>
    exact Nat.le_succ_of_le (hsound.numbered r (List.mem_of_find?_eq_some hrow))

/-- **A new row gets a number above all that were ever answered**, also above those of rows that
have been swept since. -/
theorem answer_fresh {before after : List CacheOp} {p : Path} {t : Timestamp} {d d' : Descriptor}
    (hfresh : (run (before ++ .upsert p t d :: after)).contains path time = false) :
    answer before p t d < answer (before ++ .upsert p t d :: after) path time d' := by
  have hlast : (step (run before) (.upsert p t d)).lastNumber ≤
      (run (before ++ .upsert p t d :: after)).lastNumber := by
    rw [run_append]
    exact ((sound_run before).step _).lastNumber_le_steps after
  have hnew : answer (before ++ .upsert p t d :: after) path time d' =
      (run (before ++ .upsert p t d :: after)).lastNumber + 1 := by
    rw [answer, put_number, target, contains_eq_false_iff.mp hfresh]
    rfl
  rw [hnew]
  exact Nat.lt_succ_of_le (Nat.le_trans (answer_le before p t d) hlast)

/-! ## The law -/

theorem get_run (ops : List CacheOp) (path : Path) (time : Timestamp) :
    match (KeyHistory.ofRun path time ops).held? with
    | none => (run ops).contains path time = false ∧ (run ops).get path time = .ok none
    | some e => (run ops).contains path time = true ∧
        (run ops).get path time = .ok (some e.stored) := by
  have htells := tells_run ops path time
  unfold Tells at htells
  cases hheld : (KeyHistory.ofRun path time ops).held? with
  | none =>
    rw [hheld] at htells
    exact ⟨contains_eq_false_iff.mpr htells, get_of_row?_none htells⟩
  | some e =>
    rw [hheld] at htells
    obtain ⟨r, hrow, hr⟩ := htells
    exact ⟨by rw [contains, hrow]; rfl, get_of_holds hrow hr⟩

/-- **Changes that do not concern a key are not seen under it**: the same run without them shows the
same there. -/
theorem get_run_filter (ops : List CacheOp) (path : Path) (time : Timestamp) :
    (run (ops.filter (·.concerns path time))).get path time = (run ops).get path time := by
  have hall := get_run ops path time
  have hfiltered := get_run (ops.filter (·.concerns path time)) path time
  rw [KeyHistory.ofRun_filter] at hfiltered
  cases hheld : (KeyHistory.ofRun path time ops).held? with
  | none =>
    rw [hheld] at hall hfiltered
    exact hfiltered.2.trans hall.2.symm
  | some e =>
    rw [hheld] at hall hfiltered
    exact hfiltered.2.trans hall.2.symm

/-- Either nothing happened to a key since it was last removed, and it is not there, or it is there
and shows its history. -/
theorem absent_or_shown (ops : List CacheOp) (path : Path) (time : Timestamp) :
    ((KeyHistory.ofRun path time ops).puts = [] ∧ (run ops).contains path time = false ∧
      (run ops).get path time = .ok none) ∨
    ∃ d older e, (KeyHistory.ofRun path time ops).puts = d :: older ∧
      (run ops).contains path time = true ∧ (run ops).get path time = .ok (some e) ∧
      (KeyHistory.ofRun path time ops).Shows d e := by
  have hget := get_run ops path time
  cases hheld : (KeyHistory.ofRun path time ops).held? with
  | none =>
    rw [hheld] at hget
    exact Or.inl ⟨KeyHistory.held?_eq_none_iff.mp hheld, hget⟩
  | some e =>
    rw [hheld] at hget
    cases hputs : (KeyHistory.ofRun path time ops).puts with
    | nil =>
      rw [KeyHistory.held?_eq_none_iff.mpr hputs] at hheld
      exact absurd hheld (by simp)
    | cons d older =>
      exact Or.inr ⟨d, older, e.stored, rfl, hget.1, hget.2, KeyHistory.shows_stored hputs hheld⟩

/-- **The history law.** After every run, and for every key:

- it is there exactly if something was stored under it since a sweep last removed it, and exactly
  then a descriptor is read;
- that descriptor shows the history: the fields of the latest that was stored, and at each place
  the latest track;
- changes that do not concern the key are not seen;
- storing under it succeeds, is answered by the number of its row, which is the same for as long as
  the key is there, and for a new row above all numbers that were ever answered. -/
theorem history_law (ops : List CacheOp) (path : Path) (time : Timestamp) :
    ((run ops).contains path time = true ↔ (KeyHistory.ofRun path time ops).puts ≠ []) ∧
    ((run ops).contains path time = true ↔ ∃ e, (run ops).get path time = .ok (some e)) ∧
    ((run ops).contains path time = false ↔ (run ops).get path time = .ok none) ∧
    (∀ d older, (KeyHistory.ofRun path time ops).puts = d :: older →
      ∃ e, (run ops).get path time = .ok (some e) ∧
        (KeyHistory.ofRun path time ops).Shows d e) ∧
    (run (ops.filter (·.concerns path time))).get path time = (run ops).get path time ∧
    (∀ d, (run ops).upsert path time d =
      .ok (run (ops ++ [.upsert path time d]), answer ops path time d)) ∧
    (∀ d r, (run ops).row? path time = some r → answer ops path time d = r.number) ∧
    (∀ before after d d', ops = before ++ .upsert path time d :: after →
      (∀ op ∈ after, op.keeps path time = true) →
      answer ops path time d' = answer before path time d) ∧
    (∀ before after p t d d', ops = before ++ .upsert p t d :: after →
      (run ops).contains path time = false →
      answer before p t d < answer ops path time d') := by
  have hseen : ((run ops).contains path time = true ↔ (KeyHistory.ofRun path time ops).puts ≠ []) ∧
      ((run ops).contains path time = true ↔ ∃ e, (run ops).get path time = .ok (some e)) ∧
      ((run ops).contains path time = false ↔ (run ops).get path time = .ok none) := by
    rcases absent_or_shown ops path time with ⟨hputs, hcontains, hget⟩ |
      ⟨d, older, e, hputs, hcontains, hget, -⟩
    · simp [hputs, hcontains, hget]
    · simp [hputs, hcontains, hget]
  refine ⟨hseen.1, hseen.2.1, hseen.2.2, ?_, get_run_filter ops path time,
    upsert_run ops path time, ?_, ?_, ?_⟩
  · intro d older hlatest
    rcases absent_or_shown ops path time with ⟨hputs, -⟩ | ⟨d', older', e, hputs, -, hget, hshows⟩
    · exact absurd (hputs.symm.trans hlatest) (by simp)
    · obtain ⟨rfl, -⟩ := List.cons.inj (hputs.symm.trans hlatest)
      exact ⟨e, hget, hshows⟩
  · intro d r hrow
    rw [answer, put_number, target, hrow, Option.getD_some]
  · intro before after d d' hops hkeeps
    rw [hops]
    exact answer_live hkeeps
  · intro before after p t d d' hops hfresh
    rw [hops] at hfresh ⊢
    exact answer_fresh hfresh

/-- Not every field is read back as it was stored. A level of another family than the codec's has a
code that says nothing to that codec, so it is not read back at all. -/
theorem level_of_another_family_lost :
    ∃ d e : Descriptor, (KeyHistory.ofRun "/a.mkv" 0 [.upsert "/a.mkv" 0 d]).puts = [d] ∧
      (run [.upsert "/a.mkv" 0 d]).get "/a.mkv" 0 = .ok (some e) ∧
      d.videoLevel = some (.h264 .l4_1) ∧ e.videoLevel = none :=
  ⟨{ videoCodec := some .png, videoLevel := some (.h264 .l4_1) }, _, rfl, rfl, rfl, by decide⟩

end Cache

end MediaIndex
