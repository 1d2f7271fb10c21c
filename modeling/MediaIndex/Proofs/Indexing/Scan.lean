import MediaIndex.Proofs.Cache.Growth
import MediaIndex.Proofs.Indexing.Sorting
import MediaIndex.Proofs.Indexing.Steps

/-!
# What a scan leaves in the cache

A scan stores in three places, and in none of them does it remove a row. So what it leaves in the
cache can be put together from what its parts leave: every part *extends* the state it is given
(`Extends`), that is, it keeps all keys, counts no error back, and adds only keys of which can be
said why.

> **`scan_spec`**: a scan keeps what was there. If it counted no error, the tracks of every sheet
> that was not skipped are stored under the present times of their files. And a key that is new
> belongs to a media file, to a virtual track, or to a sheet whose tracks are all stored.

The last part is what a later scan relies on when it skips a sheet.
-/

set_option autoImplicit false

namespace MediaIndex

/-! ## Keys of tracks -/

/-- The key of a track, as far as its file has a time. -/
def VirtualTrack.key (disk : Disk) (t : VirtualTrack) : Path × Except FileFault Timestamp :=
  (t.reference.text, disk.modified t.path)

/-- The keys of the tracks that a sheet is composed of. -/
def sheetKeys (disk : Disk) (probe : Path → ProbeAnswer) (style : CompositionStyle) (sheet : Path) :
    List (Path × Except FileFault Timestamp) :=
  (CueSheet.composeFile disk style probe sheet).tracks.map (·.key disk)

/-- Whether there are rows for all keys. -/
def Cache.Holding (c : Cache) (keys : List (Path × Except FileFault Timestamp)) : Prop :=
  ∀ key ∈ keys, ∃ time, key.2 = .ok time ∧ c.contains key.1 time = true

theorem Cache.Holding.mono {c c' : Cache} {keys : List (Path × Except FileFault Timestamp)}
    (hkeeps : ∀ path time, c.contains path time = true → c'.contains path time = true)
    (h : c.Holding keys) : c'.Holding keys := by
  intro key hkey
  obtain ⟨time, htime, hcontains⟩ := h key hkey
  exact ⟨time, htime, hkeeps _ _ hcontains⟩

namespace ScanState

/-- How a part of a scan changes the state: it keeps all keys, adds only some, and counts errors
up. -/
structure Extends (added : Path → Timestamp → Prop) (s s' : ScanState) : Prop where
  keeps : ∀ path time, s.cache.contains path time = true → s'.cache.contains path time = true
  adds : ∀ path time, s'.cache.contains path time = true →
    s.cache.contains path time = true ∨ added path time
  errors : s.counts.errors ≤ s'.counts.errors

variable {added more : Path → Timestamp → Prop} {s t u : ScanState}

theorem Extends.refl (s : ScanState) : Extends added s s :=
  ⟨fun _ _ h => h, fun _ _ h => Or.inl h, Nat.le_refl _⟩

theorem Extends.trans (h : Extends added s t) (h' : Extends added t u) : Extends added s u where
  keeps path time hs := h'.keeps path time (h.keeps path time hs)
  adds path time hu := (h'.adds path time hu).elim (h.adds path time) Or.inr
  errors := Nat.le_trans h.errors h'.errors

theorem Extends.weaken (h : Extends added s t)
    (himp : ∀ path time, added path time → more path time) : Extends more s t :=
  ⟨h.keeps, fun path time ht => (h.adds path time ht).imp_right (himp path time), h.errors⟩

theorem Extends.of_cache_eq (hcache : t.cache = s.cache)
    (herrors : s.counts.errors ≤ t.counts.errors) : Extends added s t where
  keeps path time h := by rw [hcache]; exact h
  adds path time h := by rw [hcache] at h; exact Or.inl h
  errors := herrors

theorem Extends.of_upsert {path : Path} {time : Timestamp} {d : Descriptor} {number : Nat}
    (h : s.cache.upsert path time d = .ok (t.cache, number))
    (herrors : s.counts.errors ≤ t.counts.errors) (hadded : added path time) :
    Extends added s t where
  keeps p m hs := (Cache.contains_upsert h).mpr (Or.inl hs)
  adds p m ht := by
    rcases (Cache.contains_upsert h).mp ht with hs | ⟨rfl, rfl⟩
    · exact Or.inl hs
    · exact Or.inr hadded
  errors := herrors

theorem Extends.foldl {α : Type} {f : ScanState → α → ScanState} {items : List α}
    (hstep : ∀ (s : ScanState) (a : α), a ∈ items → Extends added s (f s a)) (s : ScanState) :
    Extends added s (items.foldl f s) :=
  List.foldlRecOn items f (Extends.refl s) fun t h a ha => h.trans (hstep t a ha)

/-! ## Media files -/

theorem extends_storeAnswer (s : ScanState) (found : Candidate × ProbeAnswer) :
    Extends (fun path time => (⟨path, time⟩ : Candidate) = found.1) s (s.storeAnswer found) := by
  obtain ⟨x, answer⟩ := found
  have hstep := answerStored s x answer
  generalize s.storeAnswer (x, answer) = next at hstep ⊢
  cases hstep with
  | failed failed => exact Extends.of_cache_eq rfl (Nat.le_succ _)
  | refused ok refused => exact Extends.of_cache_eq rfl (Nat.le_succ _)
  | stored ok stored => exact Extends.of_upsert stored (Nat.le_refl _) rfl

/-- **Probing stores under the keys of the media files** and under no other. -/
theorem extends_probeMedia (s : ScanState) (probe : Path → ProbeAnswer) (workers : Nat)
    (media : List Candidate) :
    Extends (fun path time => (⟨path, time⟩ : Candidate) ∈ media) s
      (s.probeMedia probe workers media) := by
  rw [probeMedia_eq, List.foldl_map]
  refine (Extends.foldl (fun s x hx => ?_) s).trans (Extends.of_cache_eq rfl (Nat.le_refl _))
  refine (extends_storeAnswer s _).weaken fun path time hkey => ?_
  rw [hkey]
  exact hx

/-! ## Sheets -/

/-- Storing a track adds no key but its own. If that did not fail, there is a row for it. -/
theorem extends_storeTrack (disk : Disk) (force : Bool) (s : ScanState) (t : VirtualTrack) :
    Extends (fun path time => (path, .ok time) = t.key disk) s (s.storeTrack disk force t).1 ∧
      ((s.storeTrack disk force t).2 = false →
        ∃ time, disk.modified t.path = .ok time ∧
          (s.storeTrack disk force t).1.cache.contains t.reference.text time = true) := by
  have hstep := trackStored disk force s t
  generalize s.storeTrack disk force t = next at hstep ⊢
  cases hstep with
  | timeless modified => exact ⟨Extends.refl s, fun h => absurd h (by simp)⟩
  | skipped modified free there => exact ⟨Extends.refl s, fun _ => ⟨_, modified, there⟩⟩
  | refused modified missing refused => exact ⟨Extends.refl s, fun h => absurd h (by simp)⟩
  | stored modified missing stored =>
    refine ⟨Extends.of_upsert stored (Nat.le_refl _) ?_, fun _ => ⟨_, modified, ?_⟩⟩
    · rw [VirtualTrack.key, modified]
    · exact (Cache.contains_upsert stored).mpr (Or.inr ⟨rfl, rfl⟩)

/-- Storing tracks adds no keys but theirs. If none failed, there is a row for each. -/
theorem extends_storeTracks (disk : Disk) (force : Bool) (s : ScanState)
    (tracks : List VirtualTrack) :
    Extends (fun path time => (path, .ok time) ∈ tracks.map (·.key disk)) s
        (s.storeTracks disk force tracks).1 ∧
      ((s.storeTracks disk force tracks).2 = 0 →
        (s.storeTracks disk force tracks).1.cache.Holding (tracks.map (·.key disk))) := by
  induction tracks generalizing s with
  | nil => exact ⟨Extends.refl s, fun _ key hkey => absurd hkey (by simp)⟩
  | cons t rest ih =>
    obtain ⟨hfirst, hstored⟩ := extends_storeTrack disk force s t
    obtain ⟨hrest, hholding⟩ := ih (s.storeTrack disk force t).1
    refine ⟨(hfirst.weaken ?_).trans (hrest.weaken ?_), fun hnone => ?_⟩
    · intro path time hkey
      rw [hkey]
      exact List.mem_cons_self
    · exact fun path time hkey => List.mem_cons_of_mem _ hkey
    · have hcount : (if (s.storeTrack disk force t).2 = true then 1 else 0) +
          ((s.storeTrack disk force t).1.storeTracks disk force rest).2 = 0 := hnone
      obtain ⟨hzero, hmore⟩ := Nat.add_eq_zero_iff.mp hcount
      intro key hkey
      rcases List.mem_cons.mp hkey with rfl | hkey
      · -- the row of the first track is still there when the others are stored
        obtain ⟨time, htime, hcontains⟩ := hstored (by simpa using hzero)
        exact ⟨time, htime, hrest.keeps _ _ hcontains⟩
      · exact hholding hmore key hkey

/-- Storing the tracks of a sheet adds no keys but theirs. If none failed, there is a row for
each. -/
theorem extends_afterTracks (disk : Disk) (probe : Path → ProbeAnswer) (style : CompositionStyle)
    (force : Bool) (s : ScanState) (sheet : Path) :
    Extends (fun path time => (path, .ok time) ∈ sheetKeys disk probe style sheet) s
        (s.afterTracks disk probe style force sheet).1 ∧
      ((s.afterTracks disk probe style force sheet).2 = 0 →
        (s.afterTracks disk probe style force sheet).1.cache.Holding
          (sheetKeys disk probe style sheet)) := by
  let composed := CueSheet.composeFile disk style probe sheet
  obtain ⟨hextends, hholding⟩ := extends_storeTracks disk force
    { s with probed := s.probed ++ composed.probed } composed.tracks
  exact ⟨⟨hextends.keeps, hextends.adds, hextends.errors⟩, hholding⟩

/-- Why a scan adds a key when it composes a sheet: it is the one of a track, or of the sheet
itself, all of whose tracks are stored. -/
def SheetReason (disk : Disk) (probe : Path → ProbeAnswer) (style : CompositionStyle)
    (sheet : Candidate) (cache : Cache) (path : Path) (time : Timestamp) : Prop :=
  (path, .ok time) ∈ sheetKeys disk probe style sheet.path ∨
    (path = sheet.path ∧ time = sheet.modified ∧
      cache.Holding (sheetKeys disk probe style sheet.path))

/-- **Composing a sheet** adds keys for these reasons alone, and if it counts no error, then all
tracks of the sheet are stored. -/
theorem extends_composeSheet (disk : Disk) (probe : Path → ProbeAnswer) (style : CompositionStyle)
    (force : Bool) (s : ScanState) (sheet : Candidate) :
    Extends (SheetReason disk probe style sheet
        (s.composeSheet disk probe style force sheet).cache) s
        (s.composeSheet disk probe style force sheet) ∧
      ((s.composeSheet disk probe style force sheet).counts.errors ≤ s.counts.errors →
        (s.composeSheet disk probe style force sheet).cache.Holding
          (sheetKeys disk probe style sheet.path)) := by
  have hstep := sheetMarked disk probe style force s sheet
  obtain ⟨htracks, hholding⟩ := extends_afterTracks disk probe style force s sheet.path
  generalize s.afterTracks disk probe style force sheet.path = stored at htracks hholding hstep
  generalize s.composeSheet disk probe style force sheet = next at hstep ⊢
  have herrors : s.counts.errors ≤ stored.1.counts.errors := htracks.errors
  have hreasons : Extends (SheetReason disk probe style sheet next.cache) s stored.1 :=
    htracks.weaken fun _ _ => Or.inl
  cases hstep with
  | incomplete some =>
    refine ⟨hreasons.trans (Extends.of_cache_eq rfl (Nat.le_add_right _ _)), fun hle => ?_⟩
    have hmore : stored.1.counts.errors + stored.2 ≤ s.counts.errors := hle
    omega
  | refused none refused =>
    refine ⟨hreasons.trans (Extends.of_cache_eq rfl (Nat.le_succ _)), fun hle => ?_⟩
    have hmore : stored.1.counts.errors + 1 ≤ s.counts.errors := hle
    omega
  | marked none marked =>
    -- the row of the sheet comes on top, so the tracks are still stored
    have hmarked := (hholding none).mono fun path time h =>
      (Cache.contains_upsert marked).mpr (Or.inl h)
    refine ⟨hreasons.trans ?_, fun _ => hmarked⟩
    exact Extends.of_upsert marked (Nat.le_refl _) (Or.inr ⟨rfl, rfl, hmarked⟩)

/-- **Composing sheets** adds keys for these reasons alone, and if it counts no error, then all
tracks of all sheets are stored. -/
theorem extends_composeSheets (disk : Disk) (probe : Path → ProbeAnswer)
    (style : CompositionStyle) (force : Bool) (s : ScanState) (sheets : List Candidate) :
    Extends (fun path time => ∃ sheet ∈ sheets, SheetReason disk probe style sheet
        (s.composeSheets disk probe style force sheets).cache path time) s
        (s.composeSheets disk probe style force sheets) ∧
      ((s.composeSheets disk probe style force sheets).counts.errors ≤ s.counts.errors →
        ∀ sheet ∈ sheets, (s.composeSheets disk probe style force sheets).cache.Holding
          (sheetKeys disk probe style sheet.path)) := by
  induction sheets generalizing s with
  | nil => exact ⟨Extends.refl s, fun _ sheet hsheet => absurd hsheet (by simp)⟩
  | cons sheet rest ih =>
    obtain ⟨hfirst, hholding⟩ := extends_composeSheet disk probe style force s sheet
    obtain ⟨hrest, hothers⟩ := ih (s.composeSheet disk probe style force sheet)
    have hcons : s.composeSheets disk probe style force (sheet :: rest) =
        (s.composeSheet disk probe style force sheet).composeSheets disk probe style force rest :=
      rfl
    rw [hcons]
    refine ⟨(hfirst.weaken ?_).trans (hrest.weaken ?_), fun hle => ?_⟩
    · rintro path time (htrack | ⟨hpath, htime, hstored⟩)
      · exact ⟨sheet, List.mem_cons_self, Or.inl htrack⟩
      · exact ⟨sheet, List.mem_cons_self, Or.inr ⟨hpath, htime, hstored.mono hrest.keeps⟩⟩
    · rintro path time ⟨sheet', hsheet', hreason⟩
      exact ⟨sheet', List.mem_cons_of_mem _ hsheet', hreason⟩
    · intro sheet' hsheet'
      rcases List.mem_cons.mp hsheet' with rfl | hsheet'
      · exact (hholding (Nat.le_trans hrest.errors hle)).mono hrest.keeps
      · exact hothers (Nat.le_trans hle hfirst.errors) sheet' hsheet'

end ScanState

/-! ## Sorting out -/

namespace Collected

/-- What can be said of files that were sorted out. Those that are left as media files are such.
Those that are left as sheets are such, with their present times. And if no error was counted, every
sheet has a time, and is left unless it is in the cache under that time. -/
structure Sorted (disk : Disk) (cache : Cache) (force : Bool) (files : List Path)
    (c : Collected) : Prop where
  media : ∀ x ∈ c.media, FileRole.ofPath? x.path = some .media
  sheets : ∀ x ∈ c.sheets, x.path ∈ files ∧ FileRole.ofPath? x.path = some .sheet ∧
    disk.modified x.path = .ok x.modified
  complete : c.counts.errors = 0 → ∀ path ∈ files, FileRole.ofPath? path = some .sheet →
    ∃ time, disk.modified path = .ok time ∧
      ((!force && cache.contains path time) = true ∨ ⟨path, time⟩ ∈ c.sheets)

/-- **All files are sorted out.** -/
theorem sorted_ofFiles (disk : Disk) (cache : Cache) (force : Bool) (files : List Path) :
    Sorted disk cache force files (ofFiles disk cache force files) := by
  refine ⟨fun x hx => (mem_media_ofFiles.mp hx).2.1, fun x hx => ?_,
    fun hnone path hfile hrole => ?_⟩
  · obtain ⟨hfile, hrole, htime, -⟩ := mem_sheets_ofFiles.mp hx
    exact ⟨hfile, hrole, htime⟩
  · obtain ⟨time, htime⟩ := exists_modified hnone hfile hrole
    refine ⟨time, htime, ?_⟩
    cases hskip : (!force && cache.contains path time) with
    | true => exact Or.inl rfl
    | false =>
      have hleft : force = true ∨ cache.contains path time = false := by
        cases force with
        | true => exact Or.inl rfl
        | false => exact Or.inr hskip
      exact Or.inr (mem_sheets_ofFiles.mpr ⟨hfile, hrole, htime, hleft⟩)

end Collected

/-! ## Whole scans -/

/-- A scan that is to be done, with the files as they are then. -/
structure Rescan where
  disk : Disk
  options : ScanOptions
  roots : List Path

namespace Rescan

variable (probe : Path → ProbeAnswer) (r : Rescan)

/-- The files below the roots. -/
def files : List Path := r.roots.flatMap r.disk.files

/-- The keys of the tracks that a sheet is composed of at the time of the scan. -/
def keys (sheet : Path) : List (Path × Except FileFault Timestamp) :=
  sheetKeys r.disk probe r.options.style sheet

/-- The state after the scan, if it is done on a cache. -/
def done (c : Cache) : ScanState := c.scan r.disk probe r.options r.roots

/-- Why a scan adds a key. -/
def Reason (cache : Cache) (path : Path) (time : Timestamp) : Prop :=
  FileRole.ofPath? path = some .media ∨
    (∃ sheet ∈ r.files, (path, .ok time) ∈ r.keys probe sheet) ∨
    (r.disk.modified path = .ok time ∧ cache.Holding (r.keys probe path))

end Rescan

/-- **What a scan does.** It keeps all keys, and adds some for a reason. If it counts no error,
every sheet below the roots has a time, and either it is skipped, because it is in the cache under
that time and the scan is not forced, or its tracks are all stored under the times of their
files. -/
theorem scan_spec (probe : Path → ProbeAnswer) (r : Rescan) (c : Cache) :
    (∀ path time, c.contains path time = true → (r.done probe c).cache.contains path time = true) ∧
    (∀ path time, (r.done probe c).cache.contains path time = true →
      c.contains path time = true ∨ r.Reason probe (r.done probe c).cache path time) ∧
    ((r.done probe c).counts.errors = 0 → ∀ path ∈ r.files, FileRole.ofPath? path = some .sheet →
      ∃ time, r.disk.modified path = .ok time ∧
        ((r.options.force = false ∧ c.contains path time = true) ∨
          (r.done probe c).cache.Holding (r.keys probe path))) := by
  have hsorted := Collected.sorted_ofFiles r.disk c r.options.force r.files
  have hdone : r.done probe c = c.scanFiles r.disk probe r.options r.files := rfl
  unfold Cache.scanFiles at hdone
  dsimp only at hdone
  generalize Collected.ofFiles r.disk c r.options.force r.files = found at hsorted hdone
  have hmedia := ScanState.extends_probeMedia { cache := c, counts := found.counts } probe
    r.options.workers found.media
  generalize ({ cache := c, counts := found.counts } : ScanState).probeMedia probe r.options.workers
    found.media = s at hmedia hdone
  obtain ⟨hsheets, hholding⟩ := ScanState.extends_composeSheets r.disk probe r.options.style
    r.options.force s found.sheets
  generalize r.done probe c = final at hdone ⊢
  rw [← hdone] at hsheets hholding
  refine ⟨fun path time h => hsheets.keeps _ _ (hmedia.keeps _ _ h), fun path time h => ?_,
    fun hnone path hpath hsheet => ?_⟩
  · rcases hsheets.adds path time h with h | ⟨sheet, hsheet, htrack | ⟨rfl, rfl, hstored⟩⟩
    · refine (hmedia.adds path time h).imp_right fun hmem => Or.inl ?_
      exact hsorted.media ⟨path, time⟩ hmem
    · exact Or.inr (Or.inr (Or.inl ⟨sheet.path, (hsorted.sheets sheet hsheet).1, htrack⟩))
    · exact Or.inr (Or.inr (Or.inr ⟨(hsorted.sheets sheet hsheet).2.2, hstored⟩))
  · -- no error at the end, so there was none on the way
    have hs : s.counts.errors ≤ final.counts.errors := hsheets.errors
    have hfound : found.counts.errors ≤ s.counts.errors := hmedia.errors
    obtain ⟨time, htime, hskip | hleft⟩ := hsorted.complete (by omega) path hpath hsheet
    · refine ⟨time, htime, Or.inl ?_⟩
      simpa using hskip
    · exact ⟨time, htime, Or.inr (hholding (by omega) _ hleft)⟩

end MediaIndex
