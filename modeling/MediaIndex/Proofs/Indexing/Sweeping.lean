import MediaIndex.Proofs.Cue.References
import MediaIndex.Proofs.Indexing.Writes

/-!
# Whether a sweep leaves what a scan stored

A sweep looks at each row on its own: it reads the key, finds out which file the row is about, and
compares times. For the rows of files the key is the path; for the rows of virtual tracks it is the
text of a reference, out of which the path has to be taken. Nothing tells the two kinds apart but
the text itself.

> **`sweep_law`**: when no file has changed since a scan, a sweep leaves all rows that the scan
> stored if no path and no title contains the mark of references. In general it leaves the row of a
> file exactly if the path does not lead to another file that has another time, and the row of a
> track exactly if its reference leads back to the file, or happens to be the path of a file that
> has the same time.

So a mark in a title costs the row of the track, which is what `marked_title_swept` shows.
-/

set_option autoImplicit false

namespace MediaIndex

open ClipReference Cache

/-! ## Keys that a sweep leaves -/

theorem ClipReference.pathOf?_of_unmarked {s : String} (h : Unmarked s) : pathOf? s = none := by
  rw [pathOf?, ofText?, Text.pieces_of_notMem h]
  rfl

variable {modified : Path → Option Timestamp} {path : Path} {time : Timestamp}

theorem Cache.survives_file (hmodified : modified path = some time) :
    survives modified path time = true ↔
      ∀ other, pathOf? path = some other → modified other = some time := by
  unfold survives physicalPath
  cases pathOf? path with
  | none => simp [hmodified]
  | some other => simp

theorem Cache.survives_track {t : VirtualTrack} (hmodified : modified t.path = some time) :
    survives modified t.reference.text time = true ↔
      t.Traceable ∨ modified t.reference.text = some time := by
  unfold survives physicalPath
  rw [VirtualTrack.pathOf?_reference]
  by_cases htraceable : t.Traceable
  · simp [htraceable, hmodified]
  · simp [htraceable]

theorem Cache.row?_sweep_eq_some_iff {c : Cache} {row : FileRow}
    (hrow : c.row? path time = some row) :
    (c.sweep modified).1.row? path time = some row ↔ survives modified path time = true := by
  rw [row?_sweep]
  cases survives modified path time <;> simp [hrow]

theorem Disk.modified?_eq_some_iff {disk : Disk} :
    disk.modified? path = some time ↔ disk.modified path = .ok time := by
  unfold Disk.modified?
  cases disk.modified path <;> simp [Except.toOption]

/-! ## Rows that a scan stored -/

namespace Rescan

variable (probe : Path → ProbeAnswer) (r : Rescan) (c : Cache)

/-- Whether a scan may store something under a key. -/
def MayStore (path : Path) (time : Timestamp) : Prop := ∃ b d, r.Rule probe c b path time d

/-- The cache after the scan and a sweep, if no file changes. -/
def swept : Cache := ((r.done probe c).cache.sweep r.disk.modified?).1

variable {probe r c}

theorem MayStore.cases (h : r.MayStore probe c path time) :
    (path ∈ r.files ∧ r.disk.modified path = .ok time) ∨
      ∃ sheet ∈ r.files, FileRole.ofPath? sheet = some .sheet ∧
        ∃ t ∈ r.tracks probe sheet, path = t.reference.text ∧
          r.disk.modified t.path = .ok time := by
  obtain ⟨b, d, h⟩ := h
  cases h with
  | media found answer =>
    obtain ⟨hfile, -, hmodified, -⟩ := Collected.mem_media_ofFiles.mp found
    exact Or.inl ⟨hfile, hmodified⟩
  | track found composed modified missing =>
    obtain ⟨hfile, hrole, -, -⟩ := Collected.mem_sheets_ofFiles.mp found
    exact Or.inr ⟨_, hfile, hrole, _, composed, rfl, modified⟩
  | mark found =>
    obtain ⟨hfile, -, hmodified, -⟩ := Collected.mem_sheets_ofFiles.mp found
    exact Or.inl ⟨hfile, hmodified⟩

/-- A row that a scan has changed is one that it stored. -/
theorem mayStore_of_row?_ne
    (h : (r.done probe c).cache.row? path time ≠ c.row? path time) :
    r.MayStore probe c path time := by
  by_contra hnever
  exact h ((scan_grows probe r c).row?_eq fun b d hrule => hnever ⟨b, d, hrule⟩)

/-- **What a sweep leaves of what a scan stored**, when no file has changed in between. -/
theorem sweep_law (probe : Path → ProbeAnswer) (r : Rescan) (c : Cache) :
    (∀ path time, (r.done probe c).cache.row? path time ≠ c.row? path time →
      r.MayStore probe c path time) ∧
    ((∀ path ∈ r.files, Unmarked path) →
      (∀ sheet ∈ r.files, FileRole.ofPath? sheet = some .sheet →
        ∀ t ∈ r.tracks probe sheet, (r.disk.modified t.path).isOk → t.Traceable) →
      ∀ path time, r.MayStore probe c path time →
        (r.swept probe c).row? path time = (r.done probe c).cache.row? path time) ∧
    (∀ path time row, r.disk.modified path = .ok time →
      (r.done probe c).cache.row? path time = some row →
      ((r.swept probe c).row? path time = some row ↔
        ∀ other, pathOf? path = some other → r.disk.modified other = .ok time)) ∧
    (∀ (t : VirtualTrack) time row, r.disk.modified t.path = .ok time →
      (r.done probe c).cache.row? t.reference.text time = some row →
      ((r.swept probe c).row? t.reference.text time = some row ↔
        t.Traceable ∨ r.disk.modified t.reference.text = .ok time)) := by
  refine ⟨fun path time => mayStore_of_row?_ne, ?_, ?_, ?_⟩
  · intro hfiles htracks path time hstored
    have hsurvives : survives r.disk.modified? path time = true := by
      rcases hstored.cases with ⟨hfile, htime⟩ | ⟨sheet, hsheet, hrole, t, ht, rfl, htime⟩
      · rw [survives_file (Disk.modified?_eq_some_iff.mpr htime)]
        intro other hother
        rw [pathOf?_of_unmarked (hfiles path hfile)] at hother
        exact absurd hother (by simp)
      · rw [survives_track (Disk.modified?_eq_some_iff.mpr htime)]
        exact Or.inl (htracks sheet hsheet hrole t ht (by rw [htime]; rfl))
    rw [swept, row?_sweep, if_pos hsurvives]
  · intro path time row htime hrow
    rw [swept, row?_sweep_eq_some_iff hrow, survives_file (Disk.modified?_eq_some_iff.mpr htime)]
    simp only [Disk.modified?_eq_some_iff]
  · intro t time row htime hrow
    rw [swept, row?_sweep_eq_some_iff hrow, survives_track (Disk.modified?_eq_some_iff.mpr htime)]
    simp only [Disk.modified?_eq_some_iff]

theorem sweep_law_album :
    let r := albumScan (titledSheet "A") 1000
    (r.done albumProbe Cache.empty).cache.contains "/music/a.flac>0>inf>A" 1000 = true ∧
      (r.swept albumProbe Cache.empty).contains "/music/a.flac>0>inf>A" 1000 = true := by
  intro r
  have hscanned : (r.done albumProbe Cache.empty).cache.contains "/music/a.flac>0>inf>A" 1000 =
      true := by decide +kernel
  obtain ⟨hstored, hkept, -, -⟩ := sweep_law albumProbe r Cache.empty
  have hnew : r.MayStore albumProbe Cache.empty "/music/a.flac>0>inf>A" 1000 := by
    refine hstored _ _ fun hsame => ?_
    rw [contains, hsame] at hscanned
    exact absurd hscanned (by decide)
  have hrow := hkept (by decide +kernel) (by decide +kernel) "/music/a.flac>0>inf>A" 1000 hnew
  exact ⟨hscanned, by rw [contains, hrow]; exact hscanned⟩

/-- **A mark in a title costs the row of the track.** -/
theorem marked_title_swept :
    let r := albumScan (titledSheet "A > B") 1000
    (r.done albumProbe Cache.empty).cache.contains "/music/a.flac>0>inf>A > B" 1000 = true ∧
      (r.swept albumProbe Cache.empty).contains "/music/a.flac>0>inf>A > B" 1000 = false := by
  decide +kernel

end Rescan

end MediaIndex
