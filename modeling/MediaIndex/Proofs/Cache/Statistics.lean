import Mathlib.Algebra.BigOperators.Group.List.Lemmas
import Mathlib.Data.List.Forall2
import MediaIndex.Cache.Stats
import MediaIndex.Proofs.Cache.Tables

/-!
# The statistics agree with what is read

The statistics count rows, of files and of tracks, and they count the stored values in them. Reading
puts descriptors together from the same rows. That the two agree is not plain from either: it needs
that each key has one row, that no row of a track is left without its file, and that the tracks of a
file are at their places without a gap.

> **`stats_agree`**: after every run the statistics can be told, and they are those of the
> descriptors that are read under the keys of the cache.

A tally of values is a partition of what was counted (`Tally.Partitions`). It is made from stored
values, ranked, and read again, which does not change what it says (`partitions_of_perm`).
-/

set_option autoImplicit false

namespace MediaIndex

/-! ## Counting values -/

section Counting

variable {α β : Type}

theorem eraseDups_map [BEq α] [BEq β] {store : α → β}
    (hstore : ∀ a b, (store a == store b) = (a == b)) :
    (values : List α) → (values.map store).eraseDups = values.eraseDups.map store
  | [] => rfl
  | a :: rest => by
    have hothers : (rest.map store).filter (fun b => !b == store a) =
        (rest.filter fun b => !b == a).map store := by
      simp only [List.filter_map, Function.comp_def, hstore]
    rw [List.map_cons, List.eraseDups_cons, List.eraseDups_cons, hothers, eraseDups_map hstore,
      List.map_cons]
termination_by values => values.length
decreasing_by exact Nat.lt_succ_of_le (List.length_filter_le _ _)

theorem nodup_eraseDups [BEq α] [LawfulBEq α] : (values : List α) → values.eraseDups.Nodup
  | [] => List.nodup_nil
  | a :: rest => by
    rw [List.eraseDups_cons, List.nodup_cons, List.mem_eraseDups]
    exact ⟨by simp, nodup_eraseDups _⟩
termination_by values => values.length
decreasing_by exact Nat.lt_succ_of_le (List.length_filter_le _ _)

namespace Cache

/-- Values that are stored without being mixed up are counted as what they were stored for. -/
theorem countEach_map [DecidableEq α] [BEq β] {store : α → β}
    (hstore : ∀ a b, (store a == store b) = (a == b)) (values : List α) :
    countEach (values.map store) = (countEach values).map fun e => (store e.1, e.2) := by
  have hcount : ∀ a, (values.map store).count (store a) = values.count a := by
    intro a
    simp only [List.count, List.countP_map, Function.comp_def, hstore]
  simp only [countEach, eraseDups_map hstore, List.map_map, Function.comp_def, hcount]

/-- **All values are counted.** -/
theorem sum_countEach [DecidableEq α] (values : List α) :
    ((countEach values).map (·.2)).sum = values.length := by
  have hsame : values.eraseDups.Perm values.dedup :=
    (List.perm_ext_iff_of_nodup (nodup_eraseDups values) values.nodup_dedup).mpr fun a => by
      rw [List.mem_eraseDups, List.mem_dedup]
  rw [countEach, List.map_map, ← List.sum_map_count_dedup_eq_length values]
  exact (hsame.map _).sum_eq

end Cache

/-- Whether a tally tells how often each of some values occurs, under their names: no name stands
there twice, the values that occur stand there, each with its count, and the counts add up. -/
structure Tally.Partitions [DecidableEq α] (t : Tally) (name : α → String) (values : List α) :
    Prop where
  distinct : (t.map (·.1)).Nodup
  counts : ∀ s n, (s, n) ∈ t ↔ ∃ a ∈ values, s = name a ∧ n = values.count a
  total : (t.map (·.2)).sum = values.length

/-- In whatever order the values are told, they are told in full. -/
theorem Tally.partitions_of_perm [DecidableEq α] {t : Tally} {name : α → String} {values : List α}
    (hname : Function.Injective name)
    (h : t.Perm ((Cache.countEach values).map fun e => (name e.1, e.2))) :
    t.Partitions name values where
  distinct := by
    refine (h.map _).nodup_iff.mpr ?_
    rw [Cache.countEach, List.map_map, List.map_map]
    exact (nodup_eraseDups values).map hname
  counts s n := by
    simp only [h.mem_iff, Cache.countEach, List.map_map, List.mem_map, List.mem_eraseDups,
      Function.comp_apply, Prod.mk.injEq, eq_comm]
  total := by
    rw [(h.map _).sum_eq, List.map_map]
    exact Cache.sum_countEach values

end Counting

/-! ## Names -/

theorem MediaType.name_injective : Function.Injective MediaType.name := by
  intro t u h
  cases t <;> cases u <;> first | rfl | exact absurd h (by decide)

/-- The name that the statistics have for a container. -/
def containerName (container : Option Format) : String := (container.map (·.name)).getD "unknown"

/-- No format has the name of none. -/
theorem containerName_injective : Function.Injective containerName := by
  have hname : ∀ f : Format, Format.ofName? (containerName (some f)) = some f := Format.ofName?_name
  have hnone : Format.ofName? (containerName none) = none := by decide
  intro a b h
  have hread := congrArg Format.ofName? h
  cases a with
  | none =>
    cases b with
    | none => rfl
    | some g => exact absurd hread (by rw [hname, hnone]; simp)
  | some f =>
    cases b with
    | none => exact absurd hread (by rw [hname, hnone]; simp)
    | some g => rwa [hname, hname] at hread

namespace Cache

/-! ## Rows and descriptors -/

variable {r : FileRow} {d : Descriptor}

theorem Holds.length_audio (h : Holds r d) : r.audio.length = d.audioTracks.length := by
  rw [h.audio, length_rowsFrom, List.length_map]

theorem Holds.length_subtitles (h : Holds r d) : r.subtitles.length = d.subtitleTracks.length := by
  rw [h.subtitles, length_rowsFrom, List.length_map]

theorem Holds.mediaType (h : Holds r d) : r.cells .mediaType = .integer d.mediaType.code := by
  rw [h.cells]
  rfl

theorem Holds.containerText (h : Holds r d) :
    Cache.containerText r = containerName d.container := by
  unfold Cache.containerText
  rw [h.cells]
  simp only [FileCells.ofDescriptor]
  cases d.container <;> rfl

/-- The descriptors that are read from some rows, where it is known what the rows hold. -/
def shownBy (held : FileRow → Descriptor) (rows : List FileRow) : List Descriptor :=
  rows.map fun r => (held r).stored

/-- What is counted in rows can be counted in what is read from them. -/
theorem map_shownBy {α : Type} {rows : List FileRow} {held : FileRow → Descriptor}
    (hheld : ∀ r ∈ rows, Holds r (held r)) {ofRow : FileRow → α} {ofShown : Descriptor → α}
    (h : ∀ r d, Holds r d → ofRow r = ofShown d.stored) :
    (shownBy held rows).map ofShown = rows.map ofRow := by
  rw [shownBy, List.map_map]
  exact List.map_congr_left fun r hr => (h r (held r) (hheld r hr)).symm

/-! ## Tallies -/

variable {c : Cache}

/-- **Stored media types are counted as media types**, and all of them can be read again. -/
theorem types_of_stored {types : List MediaType}
    (h : c.rows.map (·.cells .mediaType) = types.map fun t => .integer t.code) :
    ∃ t, c.typeTally.mapM namedType = .ok t ∧
      t.Perm ((countEach types).map fun e => (e.1.name, e.2)) := by
  have hstore : ∀ a b : MediaType,
      (Cell.integer a.code == Cell.integer b.code) = (a == b) := by
    intro a b
    cases a <;> cases b <;> rfl
  -- ranking looks at the counts alone, so it can be done before the types are stored
  have htally : c.typeTally = ((countEach types).mergeSort fun a b => b.2 ≤ a.2).map
      fun e => (.integer e.1.code, e.2) := by
    rw [typeTally, h, countEach_map hstore]
    exact (List.map_mergeSort (f := fun e : MediaType × Nat => (Cell.integer e.1.code, e.2))
      fun _ _ _ _ => rfl).symm
  have hnamed : ∀ e : MediaType × Nat,
      namedType (.integer e.1.code, e.2) = .ok (e.1.name, e.2) := by
    intro e
    rw [namedType, Cell.readMediaType_code]
    rfl
  refine ⟨_, ?_, (List.mergeSort_perm (countEach types) fun a b => b.2 ≤ a.2).map _⟩
  rw [htally, List.mapM_map]
  exact (congrArg (List.mapM · _) (funext hnamed)).trans List.mapM_pure

theorem ranked_perm (t : Tally) : (ranked t).Perm t := List.mergeSort_perm _ _

/-- **Stored containers are counted as containers**, and files without one as such. -/
theorem containers_partitions {containers : List (Option Format)}
    (h : c.rows.map containerText = containers.map containerName) :
    Tally.Partitions (ranked (countEach (c.rows.map containerText))) containerName containers := by
  have hstore : ∀ a b, (containerName a == containerName b) = decide (a = b) := by
    intro a b
    simp only [beq_eq_decide, containerName_injective.eq_iff]
  refine Tally.partitions_of_perm containerName_injective ?_
  rw [h, countEach_map hstore]
  exact ranked_perm _

/-- **The statistics agree with what is read.** After every run the statistics can be told. The keys
of the cache are those that it has, each once; under each of them a descriptor is read; and of these
descriptors the statistics tell how many there are, how many tracks of either kind they have
together, how many have a thumbnail, and how many are of each media type and in each container. -/
theorem stats_agree (ops : List CacheOp) :
    let c := run ops
    ∃ (st : CacheStats) (shown : List Descriptor),
      c.stats = .ok st ∧
      c.keys.Nodup ∧ (∀ path time, (path, time) ∈ c.keys ↔ c.contains path time = true) ∧
      List.Forall₂ (fun key d => c.get key.1 key.2 = .ok (some d)) c.keys shown ∧
      st.files = c.keys.length ∧
      st.audioTracks = (shown.map (·.audioTracks.length)).sum ∧
      st.subtitleTracks = (shown.map (·.subtitleTracks.length)).sum ∧
      st.thumbnails = shown.countP (·.thumbnail.isSome) ∧
      st.mediaTypes.Partitions MediaType.name (shown.map (·.mediaType)) ∧
      st.containers.Partitions containerName (shown.map (·.container)) := by
  intro c
  have htidy : c.Tidy := tidy_run ops
  have hsome : Nonempty Descriptor := ⟨.blank⟩
  choose! held hheld using fun r (hr : r ∈ c.rows) => holds_of_mem_run hr
  have hget : List.Forall₂ (fun key d => c.get key.1 key.2 = .ok (some d)) c.keys
      (shownBy held c.rows) := by
    rw [shownBy, keys, List.forall₂_map_left_iff, List.forall₂_map_right_iff, List.forall₂_same]
    exact fun r hr => get_of_holds (htidy.row?_of_mem hr) (hheld r hr)
  have haudio : (shownBy held c.rows).map (·.audioTracks.length) = c.rows.map (·.audio.length) :=
    map_shownBy hheld fun _ _ h => h.length_audio
  have hsubtitles :
      (shownBy held c.rows).map (·.subtitleTracks.length) = c.rows.map (·.subtitles.length) :=
    map_shownBy hheld fun _ _ h => h.length_subtitles
  have hthumbnails : (shownBy held c.rows).map (·.thumbnail.isSome) = c.rows.map hasThumbnail :=
    map_shownBy hheld fun _ _ h => h.hasThumbnail_eq
  have hcontainers : ((shownBy held c.rows).map (·.container)).map containerName =
      c.rows.map containerText := by
    rw [List.map_map]
    exact map_shownBy hheld fun _ _ h => h.containerText
  have htypes : ((shownBy held c.rows).map (·.mediaType)).map (fun t => Cell.integer t.code) =
      c.rows.map (·.cells .mediaType) := by
    rw [List.map_map]
    exact map_shownBy hheld fun _ _ h => h.mediaType
  obtain ⟨types, hread, hperm⟩ := types_of_stored htypes.symm
  refine ⟨c.statsWith types, shownBy held c.rows, by rw [stats, hread], htidy.nodup_keys,
    fun _ _ => mem_keys_iff, hget, (List.length_map _).symm, ?_, ?_, ?_,
    Tally.partitions_of_perm MediaType.name_injective ((ranked_perm types).trans hperm),
    containers_partitions hcontainers.symm⟩
  · rw [haudio]
    exact List.length_flatMap
  · rw [hsubtitles]
    exact List.length_flatMap
  · have hcount := congrArg (List.countP id) hthumbnails
    rw [List.countP_map, List.countP_map] at hcount
    exact List.countP_eq_length_filter.symm.trans hcount.symm

end Cache

end MediaIndex
