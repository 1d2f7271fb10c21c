import MediaIndex.Proofs.Cue.Composition
import MediaIndex.Proofs.Indexing.Storing

/-!
# What the mark of a sheet stands for

A sheet is marked when none of its tracks failed to be stored. That is about the tracks that were
*composed*. What keeps a track from being composed, a sheet that cannot be loaded or a file that
cannot be probed, leaves fewer tracks to store and so does not count as a failure.

> **`mark_law`**: a sheet that a scan counts has its mark, and all tracks it was composed of are in
> the cache. These are all its tracks exactly if it was loaded and every section with tracks has a
> file that can be used. A sheet that is not counted has no mark, unless it had one before or a
> virtual track is stored under the very same key, and is composed by the next scan. That happens
> only if something is refused, or the file of a track has no time.

The other case is not excluded: `hollow_marks` shows a malformed sheet, and one whose file is not
known, with their marks.
-/

set_option autoImplicit false

namespace MediaIndex

open Cache

namespace ScanState

variable {disk : Disk} {probe : Path → ProbeAnswer} {style : CompositionStyle} {force : Bool}
variable {s : ScanState} {path : Path} {time : Timestamp}

/-! ## Counting -/

theorem sheets_afterTracks (s : ScanState) (sheet : Path) :
    (s.afterTracks disk probe style force sheet).1.counts.sheets = s.counts.sheets :=
  congrArg (·.counts.sheets) (afterTracks_eq disk probe style force s sheet)

theorem sheets_probeMedia (s : ScanState) (probe : Path → ProbeAnswer) (workers : Nat)
    (media : List Candidate) :
    (s.probeMedia probe workers media).counts.sheets = s.counts.sheets := by
  rw [probeMedia_eq, List.foldl_map]
  refine List.foldlRecOn media _
    (motive := fun (t : ScanState) => t.counts.sheets = s.counts.sheets) rfl
    fun t h x _ => Eq.trans ?_ h
  have hstep := answerStored t x (probe x.path)
  generalize t.storeAnswer (x, probe x.path) = next at hstep ⊢
  cases hstep <;> rfl

/-! ## One sheet -/

/-- What composing a sheet does to its mark. Only a sheet that is counted gets it, and then its
tracks are all stored. -/
theorem composeSheet_mark (disk : Disk) (probe : Path → ProbeAnswer) (style : CompositionStyle)
    (force : Bool) (s : ScanState) (sheet : Candidate) :
    let next := s.composeSheet disk probe style force sheet
    (next.counts.sheets = s.counts.sheets ∨
      next.counts.sheets = s.counts.sheets + 1 ∧
        next.cache.contains sheet.path sheet.modified = true ∧
        next.cache.Holding (sheetKeys disk probe style sheet.path)) ∧
    ∀ path time, next.cache.contains path time = true →
      s.cache.contains path time = true ∨
        (path, .ok time) ∈ sheetKeys disk probe style sheet.path ∨
        (next.counts.sheets ≠ s.counts.sheets ∧ ⟨path, time⟩ = sheet) := by
  intro next
  have hstep : SheetMarked sheet _ _ next := sheetMarked disk probe style force s sheet
  have hsheets : (s.afterTracks disk probe style force sheet.path).1.counts.sheets =
      s.counts.sheets := sheets_afterTracks s sheet.path
  obtain ⟨hextends, hholding⟩ := extends_afterTracks disk probe style force s sheet.path
  generalize s.afterTracks disk probe style force sheet.path = stored at *
  have hadds : ∀ path time, stored.1.cache.contains path time = true →
      s.cache.contains path time = true ∨
        (path, .ok time) ∈ sheetKeys disk probe style sheet.path := hextends.adds
  generalize next = next at hstep ⊢
  cases hstep with
  | incomplete some =>
    exact ⟨Or.inl hsheets, fun path time h => (hadds path time h).imp_right Or.inl⟩
  | refused none refused =>
    exact ⟨Or.inl hsheets, fun path time h => (hadds path time h).imp_right Or.inl⟩
  | marked none marked =>
    -- the mark is the one row that comes on top of those of the tracks
    have hcounted := congrArg (· + 1) hsheets
    refine ⟨Or.inr ⟨hcounted, ?_, (hholding none).mono fun path time h => ?_⟩, ?_⟩
    · exact (contains_upsert marked).mpr (Or.inr ⟨rfl, rfl⟩)
    · exact (contains_upsert marked).mpr (Or.inl h)
    · intro path time h
      rcases (contains_upsert marked).mp h with h | ⟨rfl, rfl⟩
      · exact (hadds path time h).imp_right Or.inl
      · exact Or.inr (Or.inr ⟨fun hsame => absurd (hcounted.symm.trans hsame) (by simp), rfl⟩)

/-! ## All sheets -/

/-- The sheets that are counted when sheets are composed one after the other. -/
def countedSheets (disk : Disk) (probe : Path → ProbeAnswer) (style : CompositionStyle)
    (force : Bool) : ScanState → List Candidate → List Candidate
  | _, [] => []
  | s, sheet :: rest =>
    let next := s.composeSheet disk probe style force sheet
    (if next.counts.sheets = s.counts.sheets then [] else [sheet]) ++
      countedSheets disk probe style force next rest

theorem sheets_composeSheets (s : ScanState) (sheets : List Candidate) :
    (s.composeSheets disk probe style force sheets).counts.sheets =
      s.counts.sheets + (s.countedSheets disk probe style force sheets).length := by
  induction sheets generalizing s with
  | nil => rfl
  | cons sheet rest ih =>
    refine (ih (s.composeSheet disk probe style force sheet)).trans ?_
    rw [countedSheets, List.length_append]
    rcases (composeSheet_mark disk probe style force s sheet).1 with hcounted | ⟨hcounted, -⟩
    · rw [if_pos hcounted, hcounted, List.length_nil, Nat.zero_add]
    · rw [if_neg (by omega), hcounted, List.length_singleton]
      omega

/-- **A sheet that is counted** has its mark at the end, and all its composed tracks are there. -/
theorem mark_of_counted {s : ScanState} {sheets : List Candidate} {x : Candidate}
    (hx : x ∈ s.countedSheets disk probe style force sheets) :
    x ∈ sheets ∧
      (s.composeSheets disk probe style force sheets).cache.contains x.path x.modified = true ∧
      (s.composeSheets disk probe style force sheets).cache.Holding
        (sheetKeys disk probe style x.path) := by
  induction sheets generalizing s with
  | nil => exact absurd hx (by simp [countedSheets])
  | cons sheet rest ih =>
    have hkeeps := (extends_composeSheets disk probe style force
      (s.composeSheet disk probe style force sheet) rest).1.keeps
    rcases List.mem_append.mp hx with hx | hx
    · rcases (composeSheet_mark disk probe style force s sheet).1 with
        hcounted | ⟨hcounted, hmark, hholding⟩
      · rw [if_pos hcounted] at hx
        exact absurd hx (by simp)
      · rw [if_neg (by omega)] at hx
        obtain rfl := List.mem_singleton.mp hx
        exact ⟨List.mem_cons_self, hkeeps _ _ hmark, hholding.mono hkeeps⟩
    · obtain ⟨hmem, hmark, hholding⟩ := ih hx
      exact ⟨List.mem_cons_of_mem sheet hmem, hmark, hholding⟩

/-- **Where a row comes from** when sheets are composed: it was there, or is the one of a track, or
the mark of a sheet that is counted. -/
theorem contains_composeSheets {s : ScanState} {sheets : List Candidate}
    (h : (s.composeSheets disk probe style force sheets).cache.contains path time = true) :
    s.cache.contains path time = true ∨
      (∃ sheet ∈ sheets, (path, .ok time) ∈ sheetKeys disk probe style sheet.path) ∨
      ⟨path, time⟩ ∈ s.countedSheets disk probe style force sheets := by
  induction sheets generalizing s with
  | nil => exact Or.inl h
  | cons sheet rest ih =>
    rcases ih h with hnext | ⟨other, hother, htrack⟩ | hcounted
    · rcases (composeSheet_mark disk probe style force s sheet).2 path time hnext with
        hs | htrack | ⟨hcounted, rfl⟩
      · exact Or.inl hs
      · exact Or.inr (Or.inl ⟨sheet, List.mem_cons_self, htrack⟩)
      · refine Or.inr (Or.inr (List.mem_append_left _ ?_))
        rw [if_neg hcounted]
        exact List.mem_singleton_self _
    · exact Or.inr (Or.inl ⟨other, List.mem_cons_of_mem _ hother, htrack⟩)
    · exact Or.inr (Or.inr (List.mem_append_right _ hcounted))

theorem sheets_composeSheet_ne {sheet : Candidate}
    (hwilling : s.cache.Willing (SheetRule disk probe style force sheet))
    (htimes : ∀ t ∈ (CueSheet.composeFile disk style probe sheet.path).tracks,
      ∃ time, disk.modified t.path = .ok time) :
    (s.composeSheet disk probe style force sheet).counts.sheets ≠ s.counts.sheets := by
  have hstep := sheetMarked disk probe style force s sheet
  have hsheets : (s.afterTracks disk probe style force sheet.path).1.counts.sheets =
      s.counts.sheets := sheets_afterTracks s sheet.path
  have hfailed := (afterTracks_willing hwilling).1.mpr htimes
  have hlater := (grows_afterTracks disk probe style force s sheet).willing hwilling
  generalize s.afterTracks disk probe style force sheet.path = stored at *
  generalize s.composeSheet disk probe style force sheet = next at hstep ⊢
  cases hstep with
  | incomplete some => exact absurd hfailed (by omega)
  | refused none refused =>
    exact absurd refused (upsert_ne_error (hlater s.cache _ _ _ (Or.inr ⟨rfl, rfl, rfl⟩)) _)
  | marked none marked =>
    have hcounted := congrArg (· + 1) hsheets
    exact fun hsame => absurd (hcounted.symm.trans hsame) (by simp)

/-- **A sheet is counted** if nothing is refused and the files of its tracks have times. -/
theorem mem_countedSheets {s : ScanState} {sheets : List Candidate} {x : Candidate}
    (hwilling : ∀ sheet ∈ sheets, s.cache.Willing (SheetRule disk probe style force sheet))
    (hx : x ∈ sheets)
    (htimes : ∀ t ∈ (CueSheet.composeFile disk style probe x.path).tracks,
      ∃ time, disk.modified t.path = .ok time) :
    x ∈ s.countedSheets disk probe style force sheets := by
  induction sheets generalizing s with
  | nil => exact absurd hx (by simp)
  | cons sheet rest ih =>
    obtain ⟨hfirst, hrest⟩ := List.forall_mem_cons.mp hwilling
    rcases List.mem_cons.mp hx with rfl | hx
    · refine List.mem_append_left _ ?_
      rw [if_neg (sheets_composeSheet_ne hfirst htimes)]
      exact List.mem_singleton_self _
    · refine List.mem_append_right _ (ih (fun other hother => ?_) hx)
      have hgrows := grows_composeSheet disk probe style force s sheet
      exact hgrows.willing (hrest other hother)

end ScanState

/-! ## Whole scans -/

namespace Rescan

variable (probe : Path → ProbeAnswer) (r : Rescan) (c : Cache)

/-- The sheets that a scan counts. -/
def counted : List Candidate :=
  (r.probed probe c).countedSheets r.disk probe r.options.style r.options.force (r.found c).sheets

/-- Whether each track of a sheet has a virtual track with a row under the time of its file. -/
def Represents (sheet : Path) (s : CueSheet) : Prop :=
  ∀ o ∈ s.opened (home sheet) probe, ∀ i t, o.content.tracks[i]? = some t →
    ∃ v ∈ r.tracks probe sheet,
      Path.same v.path (Path.join (home sheet) o.content.file) = true ∧ v.start = t.start ∧
      v.title = CueSheet.trackTitle r.options.style (o.number + i) t ∧
      ∃ time, r.disk.modified v.path = .ok time ∧ c.contains v.reference.text time = true

variable {probe r c}

theorem represents_of_complete {sheet : Path} {s : CueSheet}
    (hload : CueSheet.load r.disk sheet = .ok s) (hcomplete : s.Complete (home sheet) probe)
    (hholding : c.Holding (r.keys probe sheet)) : r.Represents probe c sheet s := by
  intro o ho i t ht
  have htracks : r.tracks probe sheet = (s.compose r.options.style (home sheet) probe).tracks := by
    unfold tracks CueSheet.composeFile
    rw [hload]
    rfl
  have hsome : o.file.isSome = true := by
    refine hcomplete o ho fun hnil => ?_
    rw [hnil] at ht
    exact absurd ht (by simp)
  obtain ⟨f, hf⟩ := Option.isSome_iff_exists.mp hsome
  have hmem : _ ∈ (s.compose r.options.style (home sheet) probe).tracks :=
    CueSheet.mem_tracks_compose.mpr ⟨o, ho, f, hf, i, t, ht, rfl⟩
  rw [← htracks] at hmem
  refine ⟨_, hmem, ((CueSheet.file_of_mem_opened ho).1 f hf).1, rfl, rfl, ?_⟩
  exact hholding _ (List.mem_map_of_mem hmem)

theorem length_tracks_iff {sheet : Path} {s : CueSheet}
    (hload : CueSheet.load r.disk sheet = .ok s) :
    (r.tracks probe sheet).length = s.trackCount ↔ s.Complete (home sheet) probe := by
  unfold tracks CueSheet.composeFile
  rw [hload]
  exact CueSheet.length_tracks_compose

theorem contains_probed_sheet {path : Path} {time : Timestamp}
    (hrole : FileRole.ofPath? path = some .sheet)
    (h : (r.probed probe c).cache.contains path time = true) : c.contains path time = true := by
  rcases (ScanState.extends_probeMedia _ probe r.options.workers (r.found c).media).adds path time h
    with h | hmedia
  · exact h
  · have hother := (Collected.mem_media_ofFiles.mp hmedia).2.1
    exact absurd (hrole.symm.trans hother) (by simp)

/-- **What the mark of a sheet stands for.** -/
theorem mark_law (probe : Path → ProbeAnswer) (r : Rescan) (c : Cache) :
    (r.done probe c).counts.sheets = (r.counted probe c).length ∧
    (∀ x ∈ r.counted probe c,
      x ∈ (r.found c).sheets ∧
      (r.done probe c).cache.contains x.path x.modified = true ∧
      (r.done probe c).cache.Holding (r.keys probe x.path) ∧
      (∀ e, CueSheet.load r.disk x.path = .error e → r.tracks probe x.path = []) ∧
      (∀ s, CueSheet.load r.disk x.path = .ok s →
        ((r.tracks probe x.path).length = s.trackCount ↔ s.Complete (home x.path) probe) ∧
        (s.Complete (home x.path) probe →
          r.Represents probe (r.done probe c).cache x.path s))) ∧
    (∀ x ∈ (r.found c).sheets, x ∉ r.counted probe c → c.contains x.path x.modified = false →
      (∀ sheet ∈ r.files, (x.path, .ok x.modified) ∉ r.keys probe sheet) →
      (r.done probe c).cache.contains x.path x.modified = false ∧
      ∀ again : Rescan, x.path ∈ again.files → again.disk.modified x.path = .ok x.modified →
        x ∈ (again.found (r.done probe c).cache).sheets) ∧
    (c.Willing (r.Rule probe c) → ∀ x ∈ (r.found c).sheets,
      (∀ t ∈ r.tracks probe x.path, ∃ time, r.disk.modified t.path = .ok time) →
      x ∈ r.counted probe c) := by
  rw [done_eq]
  refine ⟨?_, fun x hx => ?_, fun x hx hskipped hbefore hkeys => ?_,
    fun hwilling x hx htimes => ?_⟩
  · have hnone : (r.probed probe c).counts.sheets = 0 :=
      (ScanState.sheets_probeMedia _ probe r.options.workers (r.found c).media).trans
        (Collected.counts_ofFiles r.files).2.1
    rw [ScanState.sheets_composeSheets, hnone, Nat.zero_add]
    rfl
  · obtain ⟨hmem, hmark, hholding⟩ := ScanState.mark_of_counted hx
    refine ⟨hmem, hmark, hholding, fun e hload => ?_, fun s hload => ?_⟩
    · rw [tracks, CueSheet.composeFile, hload]
    · exact ⟨length_tracks_iff hload, fun hcomplete =>
        represents_of_complete hload hcomplete hholding⟩
  · obtain ⟨-, hrole, hmodified, -⟩ := Collected.mem_sheets_ofFiles.mp hx
    -- a row under the key of the sheet is its mark, or the row of a track, or an old one
    have hgone : ((r.probed probe c).composeSheets r.disk probe r.options.style r.options.force
        (r.found c).sheets).cache.contains x.path x.modified = false := by
      refine Bool.eq_false_iff.mpr fun h => ?_
      rcases ScanState.contains_composeSheets h with h | ⟨sheet, hsheet, htrack⟩ | hcounted
      · exact absurd (hbefore.symm.trans (contains_probed_sheet hrole h)) (by simp)
      · exact hkeys sheet.path (Collected.mem_sheets_ofFiles.mp hsheet).1 htrack
      · exact hskipped hcounted
    refine ⟨hgone, fun again hfile hsame => ?_⟩
    exact Collected.mem_sheets_ofFiles.mpr ⟨hfile, hrole, hsame, Or.inr hgone⟩
  · refine ScanState.mem_countedSheets (fun sheet hsheet => ?_) hx htimes
    have hprobed := (grows_probed probe r c).willing hwilling
    exact hprobed.mono (rule_of_sheetRule probe r c hsheet)

/-- **Marks that stand for nothing.** A sheet that is malformed, and one of one track whose file is
not known, are composed of no tracks, counted and marked, and left out by the next scan. -/
theorem hollow_marks :
    let malformed := "TRACK 01 AUDIO\n"
    let unknown := "FILE \"b.flac\" WAVE\nTRACK 01 AUDIO\nINDEX 01 00:00:00\n"
    ([malformed, unknown].map fun text =>
      let r := albumScan text 1000
      let done := r.done albumProbe Cache.empty
      ((CueSheet.load r.disk "/music/a.cue").toOption.map (·.trackCount),
        (r.tracks albumProbe "/music/a.cue").length, done.counts.sheets,
        done.cache.contains "/music/a.cue" 1000, (r.found done.cache).sheets)) =
      [(none, 0, 1, true, []), (some 1, 0, 1, true, [])] := by
  decide +kernel

end Rescan

end MediaIndex
