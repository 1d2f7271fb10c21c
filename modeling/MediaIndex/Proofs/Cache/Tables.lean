import Mathlib.Data.List.Nodup
import MediaIndex.Proofs.Cache.History

/-!
# The tables of a cache

A cache keeps the rows of tracks with the row of their file. In the tables they are rows of their
own, which only name the number of that file, and a file is deleted by its number. The two come to
the same as long as a number names one row and a key names one row, which is what `Tidy` says.

> **`tidy_run`**: after every run the rows stand in ascending order of their numbers, and no two of
> them have the same key.

With the simulation of histories it follows that whatever is in the cache holds a descriptor and is
found under its key (`holds_of_mem_run`, `Tidy.row?_of_mem`). What deleting by number does to the
tables is said once, for any numbers (`Tables.restrict`).
-/

set_option autoImplicit false

namespace MediaIndex

/-- The key of a row. -/
def FileRow.key (r : FileRow) : Path × Timestamp := (r.path, r.modified)

/-- A row without those of its tracks. -/
def FileRow.alone (r : FileRow) : FileRow := { r with audio := [], subtitles := [] }

namespace Cache

variable {c : Cache} {path : Path} {time : Timestamp} {d : Descriptor} {r s : FileRow}

/-! ## Keys and numbers -/

/-- The keys of a cache, in the order of the rows. -/
def keys (c : Cache) : List (Path × Timestamp) := c.rows.map FileRow.key

theorem hasKey_iff_key : hasKey path time r = true ↔ r.key = (path, time) := by
  simp [hasKey, FileRow.key]

theorem mem_keys_iff : (path, time) ∈ c.keys ↔ c.contains path time = true := by
  simp only [keys, List.mem_map, contains, row?, List.find?_isSome, hasKey_iff_key]

/-- Whether a row may come before another one: it has a lesser number, and another key. -/
def Precedes (r s : FileRow) : Prop := r.number < s.number ∧ r.key ≠ s.key

/-- Whether the rows of a cache are told apart by their numbers and by their keys, and stand in the
order of the numbers. -/
def Tidy (c : Cache) : Prop := c.rows.Pairwise Precedes

theorem Tidy.ascending (h : c.Tidy) : c.rows.Pairwise fun r s => r.number < s.number :=
  h.imp fun hprecedes => hprecedes.1

theorem Tidy.nodup_keys (h : c.Tidy) : c.keys.Nodup :=
  List.pairwise_map.mpr (h.imp fun hprecedes => hprecedes.2)

theorem Tidy.eq_of_number (h : c.Tidy) (hr : r ∈ c.rows) (hs : s ∈ c.rows)
    (hnumber : r.number = s.number) : r = s :=
  have hnodup : (c.rows.map FileRow.number).Nodup :=
    List.pairwise_map.mpr (h.ascending.imp Nat.ne_of_lt)
  List.inj_on_of_nodup_map hnodup hr hs hnumber

/-- **Every row is found under its key.** -/
theorem Tidy.row?_of_mem (h : c.Tidy) (hr : r ∈ c.rows) :
    c.row? r.path r.modified = some r := by
  cases hfound : c.row? r.path r.modified with
  | none =>
    have hnone := List.find?_eq_none.mp hfound r hr
    exact absurd (hasKey_iff.mpr ⟨rfl, rfl⟩) hnone
  | some s =>
    have hkey : s.key = r.key := hasKey_iff_key.mp (List.find?_some hfound)
    rw [List.inj_on_of_nodup_map h.nodup_keys (List.mem_of_find?_eq_some hfound) hr hkey]

/-- Changing rows in a way that keeps their numbers and keys does not mix them up. -/
theorem Tidy.map (h : c.Tidy) {change : FileRow → FileRow}
    (hnumber : ∀ r, (change r).number = r.number) (hkey : ∀ r, (change r).key = r.key) :
    (c.rows.map change).Pairwise Precedes :=
  List.pairwise_map.mpr <| h.imp fun hprecedes => by
    simpa only [Precedes, hnumber, hkey] using hprecedes

theorem Tidy.put (hsound : c.Sound) (h : c.Tidy) : (c.put path time d).1.Tidy := by
  unfold Cache.put
  cases hrow : c.row? path time with
  | none =>
    -- the new row has a number that was not given yet, and a key that no row has
    refine List.pairwise_append.mpr ⟨h, List.pairwise_singleton _ _, fun r hr s hs => ?_⟩
    obtain rfl := List.mem_singleton.mp hs
    refine ⟨Nat.lt_succ_of_le (hsound.numbered r hr), fun hkey => ?_⟩
    exact List.find?_eq_none.mp hrow r hr (hasKey_iff_key.mpr hkey)
  | some _ => exact h.map (fun r => by split <;> rfl) (fun r => by split <;> rfl)

theorem key_withoutRowThumbnail (r : FileRow) : (withoutRowThumbnail r).key = r.key := by
  unfold withoutRowThumbnail
  split <;> rfl

theorem Tidy.step (hsound : c.Sound) (h : c.Tidy) (op : CacheOp) : (c.step op).Tidy := by
  cases op with
  | upsert path time d =>
    rw [hsound.step_upsert]
    exact h.put hsound
  | dropThumbnails => exact h.map number_withoutRowThumbnail key_withoutRowThumbnail
  | sweep modified => exact h.sublist List.filter_sublist

/-- **After every run the rows are told apart** by their numbers and by their keys. -/
theorem tidy_run (ops : List CacheOp) : (run ops).Tidy := by
  have hsteps : ∀ {c : Cache}, c.Sound → c.Tidy → (ops.foldl Cache.step c).Tidy := by
    induction ops with
    | nil => exact fun _ h => h
    | cons op rest ih => exact fun hsound h => ih (hsound.step op) (h.step hsound op)
  exact hsteps sound_empty List.Pairwise.nil

/-- **After every run each row holds a descriptor**: the tracks are at their places, without a
gap. -/
theorem holds_of_mem_run {ops : List CacheOp} (hr : r ∈ (run ops).rows) : ∃ d, Holds r d := by
  have hrow := (tidy_run ops).row?_of_mem hr
  have htells := tells_run ops r.path r.modified
  unfold Tells at htells
  split at htells
  · exact absurd (hrow.symm.trans htells) (by simp)
  · obtain ⟨s, hs, hholds⟩ := htells
    obtain rfl := Option.some.inj (hrow.symm.trans hs)
    exact ⟨_, hholds⟩

end Cache

/-! ## Tables -/

/-- The tables of a cache. A row of a track stands with the number of the row of its file. -/
structure Tables where
  files : List FileRow
  audio : List (Nat × TrackRow AudioColumn)
  subtitles : List (Nat × TrackRow SubtitleColumn)

/-- The tables in which some rows are kept. -/
def Tables.ofRows (rows : List FileRow) : Tables where
  files := rows.map FileRow.alone
  audio := rows.flatMap fun r => r.audio.map (r.number, ·)
  subtitles := rows.flatMap fun r => r.subtitles.map (r.number, ·)

/-- The tables of a cache. -/
def Cache.tables (c : Cache) : Tables := .ofRows c.rows

namespace Tables

/-- What is left when only the files with some numbers are kept, and with them their tracks. -/
def restrict (t : Tables) (keep : Nat → Bool) : Tables where
  files := t.files.filter (keep ·.number)
  audio := t.audio.filter (keep ·.1)
  subtitles := t.subtitles.filter (keep ·.1)

/-- Deletes the file with a number. The tables delete its tracks with it. -/
def delete (t : Tables) (number : Nat) : Tables := t.restrict (· != number)

theorem restrict_restrict (t : Tables) (keep keep' : Nat → Bool) :
    (t.restrict keep).restrict keep' = t.restrict fun n => keep n && keep' n := by
  simp only [restrict, List.filter_filter, Bool.and_comm]

theorem restrict_true (t : Tables) : t.restrict (fun _ => true) = t := by
  simp [restrict]

variable {rows : List FileRow} {keep : Nat → Bool} {live : FileRow → Bool}

theorem filter_tracksOf {κ : Type} (tracks : FileRow → List (TrackRow κ))
    (h : ∀ r ∈ rows, keep r.number = live r) :
    (rows.flatMap fun r => (tracks r).map (r.number, ·)).filter (keep ·.1) =
      (rows.filter live).flatMap fun r => (tracks r).map (r.number, ·) := by
  induction rows with
  | nil => rfl
  | cons r rest ih =>
    have hrest := ih fun s hs => h s (List.mem_cons_of_mem _ hs)
    have hnumber : keep r.number = live r := h r List.mem_cons_self
    rw [List.flatMap_cons, List.filter_append, hrest, List.filter_map]
    cases hlive : live r with
    | true =>
      have hall : (keep ·.1) ∘ (r.number, ·) = fun _ : TrackRow κ => true :=
        funext fun _ => hnumber.trans hlive
      rw [hall, List.filter_cons_of_pos hlive, List.flatMap_cons, List.filter_true]
    | false =>
      have hnone : (keep ·.1) ∘ (r.number, ·) = fun _ : TrackRow κ => false :=
        funext fun _ => hnumber.trans hlive
      rw [hnone, List.filter_cons_of_neg (by simp [hlive]), List.filter_false, List.map_nil,
        List.nil_append]

/-- **Keeping the rows of some numbers keeps what hangs on them, and nothing else.** -/
theorem restrict_ofRows (h : ∀ r ∈ rows, keep r.number = live r) :
    (ofRows rows).restrict keep = ofRows (rows.filter live) := by
  have hfiles : (rows.map FileRow.alone).filter (keep ·.number) =
      (rows.filter live).map FileRow.alone := by
    rw [List.filter_map]
    exact congrArg _ (List.filter_congr h)
  simp only [ofRows, restrict, hfiles, filter_tracksOf FileRow.audio h,
    filter_tracksOf FileRow.subtitles h]

end Tables

end MediaIndex
