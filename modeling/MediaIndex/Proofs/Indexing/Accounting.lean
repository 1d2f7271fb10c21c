import MediaIndex.Proofs.Indexing.Fixpoint

/-!
# What a scan counts

Every file that has a role and a time is scanned, and then goes one of three ways: it is skipped, it
is handed to the prober, or it is a sheet to be composed. What becomes of it is counted once, where
it happens. So the counts add up over a scan, part by part, and each part is accounted for by what
it adds to them (`Tallies`).

> **`scan_accounts`**: if nothing is refused and every file has a time, then what was scanned was
> skipped, handed to the prober, or composed. What was handed to the prober was stored or failed.
> The errors are these failures and the composed tracks whose files have no time. Every media file
> has its row at the end, unless its probe failed. And the number of workers is of no account.
-/

set_option autoImplicit false

namespace MediaIndex

open Cache

/-! ## Sorting out -/

namespace Collected

variable {disk : Disk} {cache : Cache} {force : Bool}

/-- Whether a file is counted as scanned. -/
def isScanned (disk : Disk) (path : Path) : Bool :=
  (FileRole.ofPath? path).isSome && (disk.modified path).toOption.isSome

/-- Whether every scanned file was skipped or is left for one of the steps. -/
def Balanced (c : Collected) : Prop :=
  c.counts.scanned = c.counts.skipped + c.media.length + c.sheets.length

theorem scanned_add (c : Collected) (path : Path) :
    (c.add disk cache force path).counts.scanned =
      c.counts.scanned + if isScanned disk path then 1 else 0 := by
  unfold add isScanned
  cases FileRole.ofPath? path with
  | none => rfl
  | some role =>
    cases disk.modified path with
    | error fault => rfl
    | ok time =>
      dsimp only
      split
      · rfl
      · cases role <;> rfl

theorem Balanced.add {c : Collected} (h : c.Balanced) (path : Path) :
    (c.add disk cache force path).Balanced := by
  unfold Balanced at h
  unfold Collected.add
  cases FileRole.ofPath? path with
  | none => exact h
  | some role =>
    cases disk.modified path with
    | error fault => exact h
    | ok time =>
      unfold Balanced
      dsimp only
      split
      · dsimp only
        omega
      · cases role with
        | media =>
          simp only [List.length_append, List.length_singleton]
          omega
        | sheet =>
          simp only [List.length_append, List.length_singleton]
          omega

theorem balanced_ofFiles (disk : Disk) (cache : Cache) (force : Bool) (files : List Path) :
    (ofFiles disk cache force files).Balanced :=
  List.foldlRecOn files _ (motive := Balanced) rfl fun _ h path _ => h.add path

theorem scanned_ofFiles (disk : Disk) (cache : Cache) (force : Bool) (files : List Path) :
    (ofFiles disk cache force files).counts.scanned = files.countP (isScanned disk) := by
  induction files using List.reverseRecOn with
  | nil => rfl
  | append_singleton files path ih =>
    rw [ofFiles_concat, scanned_add, ih, List.countP_append, List.countP_singleton]

end Collected

/-! ## Probing and composing -/

namespace ScanState

variable {disk : Disk} {probe : Path → ProbeAnswer} {style : CompositionStyle} {force : Bool}
variable {s t u : ScanState}

/-- What a part of a scan adds to the counts. What was scanned and skipped is settled before. -/
structure Tallies (probed errors sheets : Nat) (s s' : ScanState) : Prop where
  scanned : s'.counts.scanned = s.counts.scanned
  skipped : s'.counts.skipped = s.counts.skipped
  probed : s'.counts.probed = s.counts.probed + probed
  errors : s'.counts.errors = s.counts.errors + errors
  sheets : s'.counts.sheets = s.counts.sheets + sheets

theorem Tallies.refl (s : ScanState) : Tallies 0 0 0 s s := ⟨rfl, rfl, rfl, rfl, rfl⟩

theorem Tallies.trans {probed errors sheets probed' errors' sheets' : Nat}
    (h : Tallies probed errors sheets s t) (h' : Tallies probed' errors' sheets' t u) :
    Tallies (probed + probed') (errors + errors') (sheets + sheets') s u where
  scanned := h'.scanned.trans h.scanned
  skipped := h'.skipped.trans h.skipped
  probed := by rw [h'.probed, h.probed, Nat.add_assoc]
  errors := by rw [h'.errors, h.errors, Nat.add_assoc]
  sheets := by rw [h'.sheets, h.sheets, Nat.add_assoc]

/-- Whether a media file cannot be probed. -/
def fails (probe : Path → ProbeAnswer) (x : Candidate) : Bool := (probe x.path).toOption.isNone

theorem fails_iff {x : Candidate} : fails probe x = true ↔ ∃ e, probe x.path = .error e := by
  unfold fails
  cases probe x.path with
  | error e => simp [Except.toOption]
  | ok d => simp [Except.toOption]

theorem tallies_storeAnswer {media : List Candidate} {x : Candidate} (hx : x ∈ media)
    (hwilling : s.cache.Willing (MediaRule probe media)) :
    Tallies (if !fails probe x then 1 else 0) (if fails probe x then 1 else 0) 0 s
      (s.storeAnswer (x, probe x.path)) := by
  have hstep := answerStored s x (probe x.path)
  generalize s.storeAnswer (x, probe x.path) = next at hstep ⊢
  cases hstep with
  | failed failed =>
    have hfails : fails probe x = true := fails_iff.mpr ⟨_, failed⟩
    rw [hfails]
    exact ⟨rfl, rfl, rfl, rfl, rfl⟩
  | refused ok refused =>
    exact absurd refused (upsert_ne_error (hwilling s.cache _ _ _ ⟨hx, ok⟩) _)
  | stored ok stored =>
    have hanswers : fails probe x = false := by simp [fails, ok, Except.toOption]
    rw [hanswers]
    exact ⟨rfl, rfl, rfl, rfl, rfl⟩

/-- **Every media file is counted once**, as probed or as an error. -/
theorem tallies_probeMedia (workers : Nat) (media : List Candidate)
    (hwilling : s.cache.Willing (MediaRule probe media)) :
    Tallies (media.countP fun x => !fails probe x) (media.countP (fails probe)) 0 s
      (s.probeMedia probe workers media) := by
  have hfold : ∀ done : List Candidate, (∀ x ∈ done, x ∈ media) →
      Tallies (done.countP fun x => !fails probe x) (done.countP (fails probe)) 0 s
        (done.foldl (fun s x => s.storeAnswer (x, probe x.path)) s) := by
    intro done
    induction done using List.reverseRecOn with
    | nil => exact fun _ => Tallies.refl s
    | append_singleton done x ih =>
      intro hdone
      have hbefore : ∀ y ∈ done, y ∈ media := fun y hy => hdone y (List.mem_append_left _ hy)
      have hx : x ∈ media := hdone x (by simp)
      have hgrows : Grows (MediaRule probe media) s.cache
          (done.foldl (fun s x => s.storeAnswer (x, probe x.path)) s).cache :=
        grows_foldl (fun s y hy => grows_storeAnswer (hbefore y hy) s) s
      rw [List.foldl_append, List.countP_append, List.countP_append, List.countP_singleton,
        List.countP_singleton]
      exact (ih hbefore).trans (tallies_storeAnswer hx (hgrows.willing hwilling))
  have hall := hfold media fun x hx => hx
  rw [probeMedia_eq, List.foldl_map]
  exact ⟨hall.scanned, hall.skipped, hall.probed, hall.errors, hall.sheets⟩

/-- How many tracks of a sheet cannot be stored, as their files have no time. -/
def timelessTracks (disk : Disk) (tracks : List VirtualTrack) : Nat :=
  tracks.countP fun t => (disk.modified? t.path).isNone

theorem failed_storeTrack {tracks : List VirtualTrack} {t : VirtualTrack} (ht : t ∈ tracks)
    (hwilling : s.cache.Willing (TrackRule disk force tracks)) :
    (s.storeTrack disk force t).2 = (disk.modified? t.path).isNone := by
  have htime := (storeTrack_willing ht hwilling).1
  unfold Disk.modified?
  cases hmodified : disk.modified t.path with
  | error fault => simpa [hmodified, Except.toOption] using htime
  | ok time => simpa [hmodified, Except.toOption] using htime

theorem failed_storeTracks {all tracks : List VirtualTrack} (hall : ∀ t ∈ tracks, t ∈ all)
    (hwilling : s.cache.Willing (TrackRule disk force all)) :
    (s.storeTracks disk force tracks).2 = timelessTracks disk tracks := by
  induction tracks generalizing s with
  | nil => rfl
  | cons t rest ih =>
    obtain ⟨ht, hrest⟩ := List.forall_mem_cons.mp hall
    have hgrows : Grows (TrackRule disk force all) s.cache (s.storeTrack disk force t).1.cache :=
      grows_storeTrack ht s
    have hothers := ih hrest (hgrows.willing hwilling)
    unfold timelessTracks at hothers ⊢
    rw [storeTracks, List.countP_cons, ← hothers, ← failed_storeTrack ht hwilling, Nat.add_comm]

theorem tallies_afterTracks (s : ScanState) (sheet : Path) :
    Tallies 0 0 0 s (s.afterTracks disk probe style force sheet).1 := by
  rw [afterTracks_eq]
  exact ⟨rfl, rfl, rfl, rfl, rfl⟩

/-- A sheet counts as done if none of its tracks failed; otherwise the failed ones are errors. -/
theorem tallies_composeSheet {sheet : Candidate}
    (hwilling : s.cache.Willing (SheetRule disk probe style force sheet)) :
    let failed := timelessTracks disk (CueSheet.composeFile disk style probe sheet.path).tracks
    Tallies 0 failed (if failed == 0 then 1 else 0) s
      (s.composeSheet disk probe style force sheet) := by
  intro failed
  have hfailed : (s.afterTracks disk probe style force sheet.path).2 = failed :=
    failed_storeTracks (fun _ ht => ht) (hwilling.mono fun _ _ _ _ => Or.inl)
  have hsame : Tallies 0 0 0 s (s.afterTracks disk probe style force sheet.path).1 :=
    tallies_afterTracks s sheet.path
  have hlater := (grows_afterTracks disk probe style force s sheet).willing hwilling
  have hstep := sheetMarked disk probe style force s sheet
  rw [hfailed] at hstep
  generalize (s.afterTracks disk probe style force sheet.path).1 = stored at hsame hlater hstep
  generalize s.composeSheet disk probe style force sheet = next at hstep ⊢
  cases hstep with
  | incomplete some =>
    rw [if_neg (by simpa using Nat.ne_of_gt some)]
    exact ⟨hsame.scanned, hsame.skipped, hsame.probed, congrArg (· + failed) hsame.errors,
      hsame.sheets⟩
  | refused none refused =>
    exact absurd refused (upsert_ne_error (hlater s.cache _ _ _ (Or.inr ⟨rfl, rfl, rfl⟩)) _)
  | marked none marked =>
    rw [none]
    exact ⟨hsame.scanned, hsame.skipped, hsame.probed, hsame.errors,
      congrArg (· + 1) hsame.sheets⟩

/-- **Every sheet is counted once**, as done or by its errors. -/
theorem tallies_composeSheets {allowed : StoreRule} (sheets : List Candidate)
    (hrule : ∀ x ∈ sheets, ∀ c path time d,
      SheetRule disk probe style force x c path time d → allowed c path time d)
    (hwilling : s.cache.Willing allowed) :
    let failed := fun x : Candidate =>
      timelessTracks disk (CueSheet.composeFile disk style probe x.path).tracks
    Tallies 0 (sheets.map failed).sum (sheets.countP fun x => failed x == 0) s
      (s.composeSheets disk probe style force sheets) := by
  intro failed
  induction sheets using List.reverseRecOn with
  | nil => exact Tallies.refl s
  | append_singleton sheets x ih =>
    have hbefore : ∀ y ∈ sheets, ∀ c path time d,
        SheetRule disk probe style force y c path time d → allowed c path time d :=
      fun y hy => hrule y (List.mem_append_left _ hy)
    have hgrows : Grows allowed s.cache (s.composeSheets disk probe style force sheets).cache :=
      grows_foldl (fun s y hy =>
        (grows_composeSheet disk probe style force s y).mono (hbefore y hy)) s
    have hlast := tallies_composeSheet (hgrows.willing (hwilling.mono (hrule x (by simp))))
    rw [composeSheets, List.foldl_append, List.map_append, List.sum_append, List.countP_append,
      List.countP_singleton, List.map_singleton, List.sum_singleton]
    exact (ih hbefore).trans hlast

end ScanState

/-! ## Whole scans -/

namespace Rescan

variable {probe : Path → ProbeAnswer} {r : Rescan} {c : Cache}

/-- The same scan with another number of workers. -/
def withWorkers (r : Rescan) (workers : Nat) : Rescan :=
  { r with options := { r.options with workers } }

/-- **Workers make no difference**, neither to the counts nor to the cache. -/
theorem done_withWorkers (probe : Path → ProbeAnswer) (r : Rescan) (c : Cache) (workers : Nat) :
    (r.withWorkers workers).done probe c = r.done probe c := by
  have hprobed : (r.withWorkers workers).probed probe c = r.probed probe c := by
    unfold probed
    rw [ScanState.probeMedia_eq, ScanState.probeMedia_eq]
    rfl
  rw [done_eq, done_eq, hprobed]
  rfl

/-- How many tracks of a sheet have files without a time. -/
def timeless (probe : Path → ProbeAnswer) (r : Rescan) (x : Candidate) : Nat :=
  ScanState.timelessTracks r.disk (r.tracks probe x.path)

/-- **What a scan adds to the counts of sorting out.** -/
theorem tallies_done (hwilling : c.Willing (r.Rule probe c)) :
    ScanState.Tallies
      ((r.found c).media.countP fun x => !ScanState.fails probe x)
      ((r.found c).media.countP (ScanState.fails probe) +
        ((r.found c).sheets.map (r.timeless probe)).sum)
      ((r.found c).sheets.countP fun x => r.timeless probe x == 0)
      { cache := c, counts := (r.found c).counts } (r.done probe c) := by
  have hmedia : c.Willing (ScanState.MediaRule probe (r.found c).media) :=
    hwilling.mono fun _ _ _ _ h => .media h.1 h.2
  have hprobed : ScanState.Tallies _ _ _ { cache := c, counts := (r.found c).counts }
      (r.probed probe c) := ScanState.tallies_probeMedia r.options.workers _ hmedia
  have hcomposed := ScanState.tallies_composeSheets (r.found c).sheets
    (fun x hx c' => rule_of_sheetRule probe r c hx c') ((grows_probed probe r c).willing hwilling)
  have hboth := hprobed.trans hcomposed
  rw [Nat.zero_add] at hboth
  exact hboth

/-- Where every file has a time, sorting out scans each one that has a role and makes no errors. -/
theorem counts_found (c : Cache)
    (htimes : ∀ path ∈ r.files, ∃ time, r.disk.modified path = .ok time) :
    (r.found c).counts.scanned = r.files.countP (fun path => (FileRole.ofPath? path).isSome) ∧
      (r.found c).counts.probed = 0 ∧ (r.found c).counts.sheets = 0 ∧
      (r.found c).counts.errors = 0 := by
  obtain ⟨hprobed, hsheets, -, herrors⟩ : (r.found c).counts.probed = 0 ∧
      (r.found c).counts.sheets = 0 ∧ (r.found c).counts.virtualTracks = 0 ∧
      (r.found c).counts.errors = r.files.countP (Collected.isTimeless r.disk) :=
    Collected.counts_ofFiles r.files
  refine ⟨?_, hprobed, hsheets, herrors.trans (List.countP_eq_zero.mpr fun path hpath => ?_)⟩
  · refine (Collected.scanned_ofFiles r.disk c r.options.force r.files).trans ?_
    refine List.countP_congr fun path hpath => ?_
    obtain ⟨time, htime⟩ := htimes path hpath
    simp [Collected.isScanned, htime, Except.toOption]
  · obtain ⟨time, htime⟩ := htimes path hpath
    simp [Collected.isTimeless, htime, Except.toOption]

/-- **Every media file has its row**, unless it was handed to the prober and failed. -/
theorem stored_or_failed (hwilling : c.Willing (r.Rule probe c)) {path : Path} {time : Timestamp}
    (hfile : path ∈ r.files) (hrole : FileRole.ofPath? path = some .media)
    (htime : r.disk.modified path = .ok time) :
    (r.done probe c).cache.contains path time = true ∨
      ⟨path, time⟩ ∈ (r.found c).media ∧ ∃ e, probe path = .error e := by
  cases hthere : c.contains path time with
  | true => exact Or.inl ((scan_grows probe r c).keeps hthere)
  | false =>
    cases hanswer : probe path with
    | ok d => exact Or.inl ((settled_done hwilling).media path hfile hrole time d htime hanswer)
    | error e =>
      have hleft : ⟨path, time⟩ ∈ (r.found c).media :=
        Collected.mem_media_ofFiles.mpr ⟨hfile, hrole, htime, Or.inr hthere⟩
      exact Or.inr ⟨hleft, e, rfl⟩

/-- **The accounts of a scan**, whatever files there are, whatever the cache holds, whatever the
prober answers, and whether or not the scan is forced. -/
theorem scan_accounts (hwilling : c.Willing (r.Rule probe c))
    (htimes : ∀ path ∈ r.files, ∃ time, r.disk.modified path = .ok time) :
    let done := r.done probe c
    let media := (r.found c).media
    let sheets := (r.found c).sheets
    done.probed = media.map (·.path) ++ sheets.flatMap (fun x =>
      (CueSheet.composeFile r.disk r.options.style probe x.path).probed) ∧
    done.counts.scanned = r.files.countP (fun path => (FileRole.ofPath? path).isSome) ∧
    done.counts.scanned = done.counts.skipped + media.length + sheets.length ∧
    done.counts.probed + media.countP (ScanState.fails probe) = media.length ∧
    done.counts.errors =
      media.countP (ScanState.fails probe) + (sheets.map (r.timeless probe)).sum ∧
    done.counts.sheets = sheets.countP (fun x => r.timeless probe x == 0) ∧
    (∀ path ∈ r.files, FileRole.ofPath? path = some .media → ∀ time,
      r.disk.modified path = .ok time →
      done.cache.contains path time = true ∨ ⟨path, time⟩ ∈ media ∧ ∃ e, probe path = .error e) ∧
    ∀ workers, (r.withWorkers workers).done probe c = done := by
  intro done media sheets
  obtain ⟨hscanned, hskipped, hprobed, herrors, hsheets⟩ :
      ScanState.Tallies _ _ _ { cache := c, counts := (r.found c).counts } done :=
    tallies_done hwilling
  obtain ⟨hfiles, hnoProbes, hnoSheets, hnoErrors⟩ := counts_found c htimes
  dsimp only at hscanned hskipped hprobed herrors hsheets
  rw [hnoProbes, Nat.zero_add] at hprobed
  rw [hnoErrors, Nat.zero_add] at herrors
  rw [hnoSheets, Nat.zero_add] at hsheets
  refine ⟨probed_done probe r c, hscanned.trans hfiles, ?_, ?_, herrors, hsheets, ?_,
    done_withWorkers probe r c⟩
  · rw [hscanned, hskipped]
    exact Collected.balanced_ofFiles r.disk c r.options.force r.files
  · have hsplit := List.length_eq_countP_add_countP (ScanState.fails probe) (l := media)
    simp only [Bool.not_eq_true, Bool.decide_eq_false] at hsplit
    rw [hprobed, hsplit, Nat.add_comm]
  · exact fun path hfile hrole time htime => stored_or_failed hwilling hfile hrole htime

/-- A scan of a directory where one of two media files cannot be probed, and a sheet names a file
that has gone. -/
def mixedScan : Rescan where
  disk :=
    { modified := fun path => if path == "/music/gone.flac" then .error .missing else .ok 1000
      size? := fun _ => some 4
      text := fun _ => .ok (titledSheet "A" ++
        "FILE \"gone.flac\" WAVE\nTRACK 02 AUDIO\nTITLE \"B\"\nINDEX 01 00:00:00\n")
      files := fun _ => ["/music/a.flac", "/music/b.mp3", "/music/a.cue"] }
  options := {}
  roots := ["/music"]

/-- Knows the files of that directory but for one. -/
def mixedProbe (path : Path) : ProbeAnswer :=
  if path == "/music/b.mp3" then .error (.unsupported path) else albumProbe "/music/a.flac"

theorem scan_accounts_mixed :
    Cache.empty.Willing (mixedScan.Rule mixedProbe Cache.empty) ∧
      (∀ path ∈ mixedScan.files, ∃ time, mixedScan.disk.modified path = .ok time) ∧
      (mixedScan.done mixedProbe Cache.empty).counts.scanned =
        (mixedScan.done mixedProbe Cache.empty).counts.skipped + 2 + 1 ∧
      (mixedScan.done mixedProbe Cache.empty).counts.probed + 1 = 2 ∧
      (mixedScan.done mixedProbe Cache.empty).counts.errors = 1 + 1 ∧
      (mixedScan.done mixedProbe Cache.empty).counts.sheets = 0 ∧
      (mixedScan.withWorkers 7).done mixedProbe Cache.empty =
        mixedScan.done mixedProbe Cache.empty := by
  have hwilling : Cache.empty.Willing (mixedScan.Rule mixedProbe Cache.empty) :=
    willing_of_refusals rfl
  have htimes : ∀ path ∈ mixedScan.files, ∃ time, mixedScan.disk.modified path = .ok time := by
    intro path hpath
    refine ⟨1000, ?_⟩
    revert path
    decide
  obtain ⟨-, -, hscanned, hprobed, herrors, hsheets, -, hworkers⟩ := scan_accounts hwilling htimes
  have hmedia : (mixedScan.found Cache.empty).media.length = 2 := by decide +kernel
  have hfails : (mixedScan.found Cache.empty).media.countP (ScanState.fails mixedProbe) = 1 := by
    decide +kernel
  have hsheet : (mixedScan.found Cache.empty).sheets = [⟨"/music/a.cue", 1000⟩] := by
    decide +kernel
  have htimeless : mixedScan.timeless mixedProbe ⟨"/music/a.cue", 1000⟩ = 1 := by decide +kernel
  rw [hmedia, hsheet, List.length_singleton] at hscanned
  rw [hmedia, hfails] at hprobed
  rw [hfails, hsheet, List.map_singleton, htimeless, List.sum_singleton] at herrors
  rw [hsheet, List.countP_singleton, htimeless] at hsheets
  exact ⟨hwilling, htimes, hscanned, hprobed, herrors, hsheets, hworkers 7⟩

end Rescan

end MediaIndex
