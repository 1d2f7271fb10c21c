import Mathlib.Data.List.Induction
import MediaIndex.Indexing.Scan

/-!
# What sorting out leaves

Files are sorted out one after the other, and what becomes of one does not depend on the others. So
the two lists that are left are the files themselves, in order, passed through one test for each
role (`left?`).

> **`mem_media_ofFiles`**, **`mem_sheets_ofFiles`**: a file is left for a step exactly if it has the
> role, has a time, and is not skipped, that is, the scan is forced or there is no row for the file
> under that time.
> **`counts_ofFiles`**: what has a role but no time is counted as an error.
-/

set_option autoImplicit false

namespace MediaIndex.Collected

section

variable (disk : Disk) (cache : Cache) (force : Bool)

/-- What a file is left as for the step that is about a role. -/
def left? (role : FileRole) (path : Path) : Option Candidate :=
  match FileRole.ofPath? path, disk.modified path with
  | some r, .ok time =>
    if r = role ∧ (!force && cache.contains path time) = false then some ⟨path, time⟩ else none
  | _, _ => none

theorem add_eq (c : Collected) (path : Path) :
    (c.add disk cache force path).media = c.media ++ (left? disk cache force .media path).toList ∧
    (c.add disk cache force path).sheets =
      c.sheets ++ (left? disk cache force .sheet path).toList := by
  unfold add left?
  cases FileRole.ofPath? path with
  | none => simp
  | some role =>
    cases disk.modified path with
    | error fault => simp
    | ok time =>
      cases hskip : (!force && cache.contains path time) with
      | true => simp [hskip]
      | false => cases role <;> simp [hskip]

theorem ofFiles_concat (files : List Path) (path : Path) :
    ofFiles disk cache force (files ++ [path]) =
      (ofFiles disk cache force files).add disk cache force path := by
  rw [ofFiles, List.foldl_append]
  rfl

theorem ofFiles_eq (files : List Path) :
    (ofFiles disk cache force files).media = files.filterMap (left? disk cache force .media) ∧
    (ofFiles disk cache force files).sheets = files.filterMap (left? disk cache force .sheet) := by
  induction files using List.reverseRecOn with
  | nil => exact ⟨rfl, rfl⟩
  | append_singleton files path ih =>
    obtain ⟨hmedia, hsheets⟩ := add_eq disk cache force (ofFiles disk cache force files) path
    have hone : ∀ role, [path].filterMap (left? disk cache force role) =
        (left? disk cache force role path).toList := by
      intro role
      rw [List.filterMap_cons]
      cases left? disk cache force role path <;> rfl
    rw [ofFiles_concat, hmedia, hsheets, ih.1, ih.2, List.filterMap_append,
      List.filterMap_append, hone, hone]
    exact ⟨rfl, rfl⟩

end

variable {disk : Disk} {cache : Cache} {force : Bool} {files : List Path} {x : Candidate}

theorem left?_eq_some_iff {role : FileRole} {path : Path} :
    left? disk cache force role path = some x ↔
      x.path = path ∧ FileRole.ofPath? path = some role ∧ disk.modified path = .ok x.modified ∧
        (force = true ∨ cache.contains path x.modified = false) := by
  obtain ⟨p, t⟩ := x
  unfold left?
  cases FileRole.ofPath? path with
  | none => simp
  | some r =>
    cases disk.modified path with
    | error fault => simp
    | ok time =>
      cases force <;> simp <;> grind

theorem mem_filterMap_left? {role : FileRole} :
    x ∈ files.filterMap (left? disk cache force role) ↔
      x.path ∈ files ∧ FileRole.ofPath? x.path = some role ∧
        disk.modified x.path = .ok x.modified ∧
        (force = true ∨ cache.contains x.path x.modified = false) := by
  simp only [List.mem_filterMap, left?_eq_some_iff]
  constructor
  · rintro ⟨path, hpath, rfl, hleft⟩
    exact ⟨hpath, hleft⟩
  · rintro ⟨hpath, hleft⟩
    exact ⟨x.path, hpath, rfl, hleft⟩

/-- **Which files are left to be probed.** -/
theorem mem_media_ofFiles :
    x ∈ (ofFiles disk cache force files).media ↔
      x.path ∈ files ∧ FileRole.ofPath? x.path = some .media ∧
        disk.modified x.path = .ok x.modified ∧
        (force = true ∨ cache.contains x.path x.modified = false) := by
  rw [(ofFiles_eq disk cache force files).1, mem_filterMap_left?]

/-- **Which sheets are left to be composed.** -/
theorem mem_sheets_ofFiles :
    x ∈ (ofFiles disk cache force files).sheets ↔
      x.path ∈ files ∧ FileRole.ofPath? x.path = some .sheet ∧
        disk.modified x.path = .ok x.modified ∧
        (force = true ∨ cache.contains x.path x.modified = false) := by
  rw [(ofFiles_eq disk cache force files).2, mem_filterMap_left?]

/-! ## Counting -/

/-- Whether a file is something to a scan, but has no time. -/
def isTimeless (disk : Disk) (path : Path) : Bool :=
  (FileRole.ofPath? path).isSome && (disk.modified path).toOption.isNone

theorem counts_add (c : Collected) (path : Path) :
    (c.add disk cache force path).counts.probed = c.counts.probed ∧
    (c.add disk cache force path).counts.sheets = c.counts.sheets ∧
    (c.add disk cache force path).counts.virtualTracks = c.counts.virtualTracks ∧
    (c.add disk cache force path).counts.errors =
      c.counts.errors + if isTimeless disk path then 1 else 0 := by
  unfold add isTimeless
  cases FileRole.ofPath? path with
  | none => exact ⟨rfl, rfl, rfl, rfl⟩
  | some role =>
    cases disk.modified path with
    | error fault => exact ⟨rfl, rfl, rfl, rfl⟩
    | ok time =>
      dsimp only
      split
      · exact ⟨rfl, rfl, rfl, rfl⟩
      · cases role <;> exact ⟨rfl, rfl, rfl, rfl⟩

/-- **What sorting out counts**: a file without a time as an error, and nothing as stored. -/
theorem counts_ofFiles (files : List Path) :
    (ofFiles disk cache force files).counts.probed = 0 ∧
    (ofFiles disk cache force files).counts.sheets = 0 ∧
    (ofFiles disk cache force files).counts.virtualTracks = 0 ∧
    (ofFiles disk cache force files).counts.errors = files.countP (isTimeless disk) := by
  induction files using List.reverseRecOn with
  | nil => exact ⟨rfl, rfl, rfl, rfl⟩
  | append_singleton files path ih =>
    obtain ⟨hprobed, hsheets, htracks, herrors⟩ := ih
    obtain ⟨hprobed', hsheets', htracks', herrors'⟩ :=
      @counts_add disk cache force (ofFiles disk cache force files) path
    rw [ofFiles_concat, List.countP_append, List.countP_singleton, ← herrors]
    exact ⟨hprobed'.trans hprobed, hsheets'.trans hsheets, htracks'.trans htracks, herrors'⟩

/-- Where no error was counted, every file has a time. -/
theorem exists_modified {path : Path} {role : FileRole}
    (hnone : (ofFiles disk cache force files).counts.errors = 0) (hfile : path ∈ files)
    (hrole : FileRole.ofPath? path = some role) : ∃ time, disk.modified path = .ok time := by
  rw [(counts_ofFiles files).2.2.2, List.countP_eq_zero] at hnone
  have htimed := hnone path hfile
  rw [isTimeless, hrole] at htimed
  cases hmodified : disk.modified path with
  | error fault => simp [hmodified, Except.toOption] at htimed
  | ok time => exact ⟨time, rfl⟩

end MediaIndex.Collected
