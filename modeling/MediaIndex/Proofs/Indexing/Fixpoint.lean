import MediaIndex.Proofs.Cue.Composition
import MediaIndex.Proofs.Indexing.Storing

/-!
# What a second scan finds to do

After a scan that is refused nothing, there is a row for every file that can be probed, and for
every sheet that could be stored as a whole. What is left are files that fail, and sheets with a
track whose file has no time. The other tracks of those sheets are stored.

Such a cache is *settled* (`Settled`), and a scan that is not forced changes nothing about a settled
cache.

> **`rescan_fixpoint`**: after a scan that leaves a settled cache a second one stores nothing and
> leaves the cache as it is. It hands the prober only files that it fails on and the targets of
> sheets that have no mark.
-/

set_option autoImplicit false

namespace MediaIndex

open Cache

namespace ScanState

variable {disk : Disk} {probe : Path → ProbeAnswer} {style : CompositionStyle} {force : Bool}
variable {s : ScanState}

/-! ## Nothing left to store -/

/-- Whether a part of a scan stored nothing. -/
structure Idle (s s' : ScanState) : Prop where
  cache : s'.cache = s.cache
  probed : s'.counts.probed = s.counts.probed
  sheets : s'.counts.sheets = s.counts.sheets
  virtualTracks : s'.counts.virtualTracks = s.counts.virtualTracks

theorem Idle.refl (s : ScanState) : Idle s s := ⟨rfl, rfl, rfl, rfl⟩

theorem Idle.trans {s t u : ScanState} (h : Idle s t) (h' : Idle t u) : Idle s u :=
  ⟨h'.cache.trans h.cache, h'.probed.trans h.probed, h'.sheets.trans h.sheets,
    h'.virtualTracks.trans h.virtualTracks⟩

theorem idle_probeMedia {media : List Candidate} (workers : Nat)
    (hfails : ∀ x ∈ media, ∃ e, probe x.path = .error e) :
    Idle s (s.probeMedia probe workers media) := by
  rw [probeMedia_eq, List.foldl_map]
  have hfold : Idle s (media.foldl (fun s x => s.storeAnswer (x, probe x.path)) s) := by
    refine List.foldlRecOn media _ (Idle.refl s) fun t h x hx => h.trans ?_
    obtain ⟨e, hfailed⟩ := hfails x hx
    rw [hfailed]
    exact ⟨rfl, rfl, rfl, rfl⟩
  exact ⟨hfold.cache, hfold.probed, hfold.sheets, hfold.virtualTracks⟩

/-- Storing tracks that are there, as far as their files have times. -/
theorem idle_storeTracks {tracks : List VirtualTrack}
    (hthere : ∀ t ∈ tracks, ∀ time, disk.modified t.path = .ok time →
      s.cache.contains t.reference.text time = true) :
    Idle s (s.storeTracks disk false tracks).1 ∧
      ((s.storeTracks disk false tracks).2 = 0 →
        ∀ t ∈ tracks, ∃ time, disk.modified t.path = .ok time) := by
  induction tracks generalizing s with
  | nil => exact ⟨Idle.refl s, fun _ t ht => absurd ht (by simp)⟩
  | cons t rest ih =>
    obtain ⟨ht, hrest⟩ := List.forall_mem_cons.mp hthere
    have hstep : ∃ failed, s.storeTrack disk false t = (s, failed) ∧
        (failed = false → ∃ time, disk.modified t.path = .ok time) := by
      unfold storeTrack
      cases hmodified : disk.modified t.path with
      | error fault => exact ⟨true, rfl, fun h => absurd h (by simp)⟩
      | ok time => exact ⟨false, by simp [ht time hmodified], fun _ => ⟨time, rfl⟩⟩
    obtain ⟨failed, hsame, htime⟩ := hstep
    obtain ⟨hidle, htimes⟩ := ih hrest
    rw [storeTracks, hsame]
    refine ⟨hidle, fun hnone => ?_⟩
    obtain ⟨hzero, hmore⟩ := Nat.add_eq_zero_iff.mp hnone
    exact List.forall_mem_cons.mpr ⟨htime (by simpa using hzero), htimes hmore⟩

/-- Composing a sheet that has no mark, though all that can be stored of it is there. -/
theorem idle_composeSheet {sheet : Candidate} (hhas : Has disk probe style s.cache sheet)
    (hunmarked : s.cache.contains sheet.path sheet.modified = false) :
    Idle s (s.composeSheet disk probe style false sheet) := by
  have hstep := sheetMarked disk probe style false s sheet
  obtain ⟨hidle, htimes⟩ : Idle s (s.afterTracks disk probe style false sheet.path).1 ∧
      ((s.afterTracks disk probe style false sheet.path).2 = 0 → ∀ t ∈
        (CueSheet.composeFile disk style probe sheet.path).tracks,
          ∃ time, disk.modified t.path = .ok time) := by
    obtain ⟨hidle, htimes⟩ := idle_storeTracks
      (s := { s with
        probed := s.probed ++ (CueSheet.composeFile disk style probe sheet.path).probed })
      hhas.tracks
    exact ⟨⟨hidle.cache, hidle.probed, hidle.sheets, hidle.virtualTracks⟩, htimes⟩
  have hfailed : (s.afterTracks disk probe style false sheet.path).2 ≠ 0 := by
    -- if no track failed, all files have times, and then the sheet has its mark
    intro hnone
    exact absurd (hunmarked.symm.trans (hhas.mark (htimes hnone))) (by simp)
  generalize s.afterTracks disk probe style false sheet.path = stored at *
  generalize s.composeSheet disk probe style false sheet = next at hstep ⊢
  cases hstep with
  | incomplete some => exact ⟨hidle.cache, hidle.probed, hidle.sheets, hidle.virtualTracks⟩
  | refused none refused => exact absurd none hfailed
  | marked none marked => exact absurd none hfailed

theorem idle_composeSheets {sheets : List Candidate}
    (hhas : ∀ x ∈ sheets, Has disk probe style s.cache x)
    (hunmarked : ∀ x ∈ sheets, s.cache.contains x.path x.modified = false) :
    Idle s (s.composeSheets disk probe style false sheets) := by
  induction sheets generalizing s with
  | nil => exact Idle.refl s
  | cons x rest ih =>
    obtain ⟨hx, hrest⟩ := List.forall_mem_cons.mp hhas
    obtain ⟨hmark, hmarks⟩ := List.forall_mem_cons.mp hunmarked
    have hidle := idle_composeSheet hx hmark
    rw [← hidle.cache] at hrest hmarks
    exact hidle.trans (ih hrest hmarks)

end ScanState

/-! ## Settled caches -/

namespace Rescan

variable {probe : Path → ProbeAnswer} {r : Rescan} {c : Cache}

/-- Whether there is nothing left that a scan could store: every media file that can be probed is
there, and so is every sheet, or all that can be stored of it. -/
structure Settled (probe : Path → ProbeAnswer) (r : Rescan) (c : Cache) : Prop where
  media : ∀ path ∈ r.files, FileRole.ofPath? path = some .media → ∀ time d,
    r.disk.modified path = .ok time → probe path = .ok d → c.contains path time = true
  sheets : ∀ path ∈ r.files, FileRole.ofPath? path = some .sheet → ∀ time,
    r.disk.modified path = .ok time →
      c.contains path time = true ∨ ScanState.Has r.disk probe r.options.style c ⟨path, time⟩

/-- **A scan leaves a settled cache**, if nothing is refused. -/
theorem settled_done (hwilling : c.Willing (r.Rule probe c)) :
    r.Settled probe (r.done probe c).cache := by
  have hprobed := grows_probed probe r c
  have hcomposed := grows_composed probe r c
  refine ⟨fun path hfile hrole time d htime hanswer => ?_, fun path hfile hrole time htime => ?_⟩
  · cases hthere : c.contains path time with
    | true => exact (hprobed.trans hcomposed).keeps hthere
    | false =>
      have hleft : ⟨path, time⟩ ∈ (r.found c).media :=
        Collected.mem_media_ofFiles.mpr ⟨hfile, hrole, htime, Or.inr hthere⟩
      have hmedia : c.Willing (ScanState.MediaRule probe (r.found c).media) :=
        hwilling.mono fun _ _ _ _ h => .media h.1 h.2
      exact hcomposed.keeps
        (ScanState.contains_probeMedia hmedia r.options.workers hleft hanswer)
  · cases hthere : c.contains path time with
    | true => exact Or.inl ((hprobed.trans hcomposed).keeps hthere)
    | false =>
      have hleft : ⟨path, time⟩ ∈ (r.found c).sheets :=
        Collected.mem_sheets_ofFiles.mpr ⟨hfile, hrole, htime, Or.inr hthere⟩
      refine Or.inr (ScanState.foldl_stores
        (f := ScanState.composeSheet r.disk probe r.options.style r.options.force)
        (r.Rule probe c) (fun x c => ScanState.Has r.disk probe r.options.style c x) ?_ ?_ ?_
        (hprobed.willing hwilling) _ hleft)
      · intro s sheet hsheet
        exact (ScanState.grows_composeSheet r.disk probe r.options.style r.options.force s
          sheet).mono (rule_of_sheetRule probe r c hsheet)
      · intro s sheet hsheet hwilling
        exact ScanState.has_composeSheet (hwilling.mono (rule_of_sheetRule probe r c hsheet))
      · exact fun sheet c c' hgrows hhas => hhas.mono hgrows

/-- The media files that are left of a settled cache fail. -/
theorem Settled.fails (hsettled : r.Settled probe c) (hfree : r.options.force = false)
    {x : Candidate} (hx : x ∈ (r.found c).media) : ∃ e, probe x.path = .error e := by
  obtain ⟨hfile, hrole, htime, hleft⟩ := Collected.mem_media_ofFiles.mp hx
  cases hanswer : probe x.path with
  | error e => exact ⟨e, rfl⟩
  | ok d =>
    have hthere := hsettled.media x.path hfile hrole x.modified d htime hanswer
    simp [hthere, hfree] at hleft

/-- **What a scan hands the prober**: the media files that are left, and then what the sheets that
are left ask for. -/
theorem probed_done (probe : Path → ProbeAnswer) (r : Rescan) (c : Cache) :
    (r.done probe c).probed = (r.found c).media.map (·.path) ++
      (r.found c).sheets.flatMap fun x =>
        (CueSheet.composeFile r.disk r.options.style probe x.path).probed := by
  have hprobed : (r.probed probe c).probed = [] ++ (r.found c).media.map (·.path) :=
    congrArg (·.probed) (ScanState.probeMedia_eq _ probe r.options.workers (r.found c).media)
  rw [done_eq, ScanState.probed_composeSheets, hprobed, List.nil_append]

/-- **A scan of a settled cache** stores nothing, unless it is forced. -/
theorem idle_done (hsettled : r.Settled probe c) (hfree : r.options.force = false) :
    ScanState.Idle { cache := c, counts := (r.found c).counts } (r.done probe c) := by
  have hunmarked : ∀ x ∈ (r.found c).sheets, c.contains x.path x.modified = false := by
    intro x hx
    simpa [hfree] using (Collected.mem_sheets_ofFiles.mp hx).2.2.2
  have hhas : ∀ x ∈ (r.found c).sheets,
      ScanState.Has r.disk probe r.options.style c x := by
    intro x hx
    obtain ⟨hfile, hrole, htime, -⟩ := Collected.mem_sheets_ofFiles.mp hx
    rcases hsettled.sheets x.path hfile hrole x.modified htime with hthere | hhas
    · exact absurd ((hunmarked x hx).symm.trans hthere) (by simp)
    · exact hhas
  have hidle : ScanState.Idle { cache := c, counts := (r.found c).counts } (r.probed probe c) :=
    ScanState.idle_probeMedia r.options.workers fun x hx => hsettled.fails hfree hx
  have hcache : (r.probed probe c).cache = c := hidle.cache
  rw [done_eq, hfree]
  exact hidle.trans (ScanState.idle_composeSheets
    (fun x hx => by rw [hcache]; exact hhas x hx)
    (fun x hx => by rw [hcache]; exact hunmarked x hx))

/-- The files that a sheet names at the time of the scan. -/
def targets (r : Rescan) (sheet : Path) : List Path :=
  match CueSheet.load r.disk sheet with
  | .ok s => s.targets (home sheet)
  | .error _ => []

theorem mem_targets_of_probed {sheet path : Path}
    (h : path ∈ (CueSheet.composeFile r.disk r.options.style probe sheet).probed) :
    path ∈ r.targets sheet := by
  unfold CueSheet.composeFile at h
  unfold targets
  cases hload : CueSheet.load r.disk sheet with
  | error e => simp [hload] at h
  | ok s =>
    rw [hload] at h
    exact CueSheet.probed_compose path h

/-- The same scan once more, not forced and with any number of workers. -/
def again (r : Rescan) (workers : Nat) : Rescan :=
  { r with options := { r.options with force := false, workers } }

/-- **A rescan is a fixpoint**: the first scan leaves a settled cache, so nothing is stored, and
what is probed fails, or is a target of a sheet that has no mark. -/
theorem rescan_fixpoint (hwilling : c.Willing (r.Rule probe c)) (workers : Nat) :
    let first := r.done probe c
    let second := (r.again workers).done probe first.cache
    r.Settled probe first.cache ∧
      second.counts.probed = 0 ∧ second.counts.sheets = 0 ∧ second.counts.virtualTracks = 0 ∧
      second.cache = first.cache ∧
      ∀ path ∈ second.probed, (∃ e, probe path = .error e) ∨
        ∃ sheet ∈ r.files, FileRole.ofPath? sheet = some .sheet ∧
          (∃ time, r.disk.modified sheet = .ok time ∧ first.cache.contains sheet time = false) ∧
          path ∈ r.targets sheet := by
  intro first second
  have hdone : r.Settled probe first.cache := settled_done hwilling
  have hsettled : (r.again workers).Settled probe first.cache := ⟨hdone.media, hdone.sheets⟩
  have hidle := idle_done hsettled rfl
  obtain ⟨hnone, hnone', hnone'', -⟩ := Collected.counts_ofFiles (r.again workers).files
  refine ⟨hdone, hidle.probed.trans hnone, hidle.sheets.trans hnone',
    hidle.virtualTracks.trans hnone'', hidle.cache, fun path hpath => ?_⟩
  rw [probed_done] at hpath
  rcases List.mem_append.mp hpath with hpath | hpath
  · obtain ⟨x, hx, rfl⟩ := List.mem_map.mp hpath
    exact Or.inl (hsettled.fails rfl hx)
  · obtain ⟨x, hx, hpath⟩ := List.mem_flatMap.mp hpath
    obtain ⟨hfile, hrole, htime, hleft⟩ := Collected.mem_sheets_ofFiles.mp hx
    have hunmarked : first.cache.contains x.path x.modified = false := by simpa [again] using hleft
    exact Or.inr ⟨x.path, hfile, hrole, ⟨x.modified, htime, hunmarked⟩, mem_targets_of_probed hpath⟩

theorem rescan_fixpoint_album :
    let r := { albumScan (titledSheet "A") 1000 with options := { force := true } }
    let first := r.done albumProbe Cache.empty
    Cache.empty.Willing (r.Rule albumProbe Cache.empty) ∧
      first.counts.probed = 1 ∧ first.counts.virtualTracks = 1 ∧
      ((r.again 3).done albumProbe first.cache).counts.virtualTracks = 0 ∧
      ((r.again 3).done albumProbe first.cache).cache = first.cache := by
  intro r first
  have hwilling : Cache.empty.Willing (r.Rule albumProbe Cache.empty) := willing_of_refusals rfl
  obtain ⟨-, -, -, hnone, hsame, -⟩ := rescan_fixpoint hwilling 3
  exact ⟨hwilling, by decide +kernel, by decide +kernel, hnone, hsame⟩

end Rescan

end MediaIndex
