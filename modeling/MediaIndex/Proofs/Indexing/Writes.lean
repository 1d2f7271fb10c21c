import MediaIndex.Proofs.Indexing.Scan

/-!
# What a scan may store

A scan stores for three reasons: what the probe of a media file answered, the tracks that a sheet is
composed of, and the mark of a sheet. `Rescan.Rule` lists them, each with all that is known when it
happens. The one that depends on the cache is the second: unless the scan is forced, a track is
stored only while there is no row for it.

> **`scan_grows`**: whatever a scan does to the cache, it does by stores that the rule allows.

Together with the laws of caches that grow this says what becomes of any single key in a scan.
-/

set_option autoImplicit false

namespace MediaIndex

open Cache

namespace ScanState

/-! ## Parts of a scan -/

variable {allowed : StoreRule}

theorem grows_foldl {α : Type} {f : ScanState → α → ScanState} {items : List α}
    (hstep : ∀ (s : ScanState), ∀ a ∈ items, Grows allowed s.cache (f s a).cache) (s : ScanState) :
    Grows allowed s.cache (items.foldl f s).cache :=
  List.foldlRecOn items f (motive := fun t => Grows allowed s.cache t.cache) (Grows.refl s.cache)
    fun t h a ha => h.trans (hstep t a ha)

/-- What probing media files may store. -/
def MediaRule (probe : Path → ProbeAnswer) (media : List Candidate) : StoreRule :=
  fun _ path time d => (⟨path, time⟩ : Candidate) ∈ media ∧ probe path = .ok d

theorem grows_storeAnswer {probe : Path → ProbeAnswer} {media : List Candidate} {x : Candidate}
    (hx : x ∈ media) (s : ScanState) :
    Grows (MediaRule probe media) s.cache (s.storeAnswer (x, probe x.path)).cache := by
  have hstep := answerStored s x (probe x.path)
  generalize s.storeAnswer (x, probe x.path) = next at hstep ⊢
  cases hstep with
  | failed failed => exact Grows.refl s.cache
  | refused ok refused => exact Grows.refl s.cache
  | stored ok stored => exact Grows.of_upsert ⟨hx, ok⟩ stored

theorem grows_probeMedia (s : ScanState) (probe : Path → ProbeAnswer) (workers : Nat)
    (media : List Candidate) :
    Grows (MediaRule probe media) s.cache (s.probeMedia probe workers media).cache := by
  rw [probeMedia_eq, List.foldl_map]
  exact grows_foldl (fun s x hx => grows_storeAnswer hx s) s

variable {disk : Disk} {force : Bool}

/-- What storing tracks may store. -/
inductive TrackRule (disk : Disk) (force : Bool) (tracks : List VirtualTrack) : StoreRule
  | mk {c : Cache} {t : VirtualTrack} {time : Timestamp} (composed : t ∈ tracks)
      (modified : disk.modified t.path = .ok time)
      (missing : force = true ∨ c.contains t.reference.text time = false) :
      TrackRule disk force tracks c t.reference.text time t.descriptor

theorem grows_storeTrack {tracks : List VirtualTrack} {t : VirtualTrack} (ht : t ∈ tracks)
    (s : ScanState) :
    Grows (TrackRule disk force tracks) s.cache (s.storeTrack disk force t).1.cache := by
  have hstep := trackStored disk force s t
  generalize s.storeTrack disk force t = next at hstep ⊢
  cases hstep with
  | timeless modified => exact Grows.refl s.cache
  | skipped modified free there => exact Grows.refl s.cache
  | refused modified missing refused => exact Grows.refl s.cache
  | stored modified missing stored => exact Grows.of_upsert (.mk ht modified missing) stored

theorem grows_storeTracks (disk : Disk) (force : Bool) {all tracks : List VirtualTrack}
    (hall : ∀ t ∈ tracks, t ∈ all) (s : ScanState) :
    Grows (TrackRule disk force all) s.cache (s.storeTracks disk force tracks).1.cache := by
  induction tracks generalizing s with
  | nil => exact Grows.refl s.cache
  | cons t rest ih =>
    refine (grows_storeTrack (hall t List.mem_cons_self) s).trans ?_
    exact ih (fun t' ht' => hall t' (List.mem_cons_of_mem t ht')) (s.storeTrack disk force t).1

/-- What composing a sheet may store: its tracks, and then its mark. -/
def SheetRule (disk : Disk) (probe : Path → ProbeAnswer) (style : CompositionStyle) (force : Bool)
    (sheet : Candidate) : StoreRule := fun c path time d =>
  TrackRule disk force (CueSheet.composeFile disk style probe sheet.path).tracks c path time d ∨
    (path = sheet.path ∧ time = sheet.modified ∧ d = sheetMark)

theorem grows_afterTracks (disk : Disk) (probe : Path → ProbeAnswer) (style : CompositionStyle)
    (force : Bool) (s : ScanState) (sheet : Candidate) :
    Grows (SheetRule disk probe style force sheet) s.cache
      (s.afterTracks disk probe style force sheet.path).1.cache := by
  let composed := CueSheet.composeFile disk style probe sheet.path
  have htracks := grows_storeTracks disk force (fun t (ht : t ∈ composed.tracks) => ht)
    { s with probed := s.probed ++ composed.probed }
  exact htracks.mono fun _ _ _ _ => Or.inl

theorem grows_composeSheet (disk : Disk) (probe : Path → ProbeAnswer) (style : CompositionStyle)
    (force : Bool) (s : ScanState) (sheet : Candidate) :
    Grows (SheetRule disk probe style force sheet) s.cache
      (s.composeSheet disk probe style force sheet).cache := by
  have htracks := grows_afterTracks disk probe style force s sheet
  have hstep := sheetMarked disk probe style force s sheet
  generalize s.afterTracks disk probe style force sheet.path = stored at htracks hstep
  generalize s.composeSheet disk probe style force sheet = next at hstep ⊢
  cases hstep with
  | incomplete some => exact htracks
  | refused none refused => exact htracks
  | marked none stored => exact htracks.trans (Grows.of_upsert (Or.inr ⟨rfl, rfl, rfl⟩) stored)

end ScanState

/-! ## Whole scans -/

namespace Rescan

/-- The directory from which the files of a sheet are looked for. -/
def home (sheet : Path) : Path := (Path.parent? sheet).getD ""

/-- The tracks that a sheet is composed of at the time of the scan. -/
def tracks (probe : Path → ProbeAnswer) (r : Rescan) (sheet : Path) : List VirtualTrack :=
  (CueSheet.composeFile r.disk r.options.style probe sheet).tracks

/-- What is left after sorting out. -/
def found (r : Rescan) (c : Cache) : Collected :=
  .ofFiles r.disk c r.options.force r.files

/-- The state after the media files were probed. -/
def probed (probe : Path → ProbeAnswer) (r : Rescan) (c : Cache) : ScanState :=
  ({ cache := c, counts := (r.found c).counts } : ScanState).probeMedia probe r.options.workers
    (r.found c).media

theorem done_eq (probe : Path → ProbeAnswer) (r : Rescan) (c : Cache) :
    r.done probe c = (r.probed probe c).composeSheets r.disk probe r.options.style
      r.options.force (r.found c).sheets := rfl

/-- What a scan may store, when it begins with a given cache. -/
inductive Rule (probe : Path → ProbeAnswer) (r : Rescan) (start : Cache) : StoreRule
  | media {c : Cache} {x : Candidate} {d : Descriptor} (found : x ∈ (r.found start).media)
      (answer : probe x.path = .ok d) : Rule probe r start c x.path x.modified d
  | track {c : Cache} {sheet : Candidate} {t : VirtualTrack} {time : Timestamp}
      (found : sheet ∈ (r.found start).sheets) (composed : t ∈ r.tracks probe sheet.path)
      (modified : r.disk.modified t.path = .ok time)
      (missing : r.options.force = true ∨ c.contains t.reference.text time = false) :
      Rule probe r start c t.reference.text time t.descriptor
  | mark {c : Cache} {sheet : Candidate} (found : sheet ∈ (r.found start).sheets) :
      Rule probe r start c sheet.path sheet.modified ScanState.sheetMark

variable (probe : Path → ProbeAnswer) (r : Rescan) (c : Cache)

theorem grows_probed : Grows (r.Rule probe c) c (r.probed probe c).cache :=
  (ScanState.grows_probeMedia { cache := c, counts := (r.found c).counts } probe
    r.options.workers (r.found c).media).mono fun _ _ _ _ h => .media h.1 h.2

theorem rule_of_sheetRule {sheet : Candidate} (hsheet : sheet ∈ (r.found c).sheets) (b : Cache)
    (path : Path) (time : Timestamp) (d : Descriptor)
    (h : ScanState.SheetRule r.disk probe r.options.style r.options.force sheet b path time d) :
    r.Rule probe c b path time d := by
  rcases h with ⟨hcomposed, htime, hmissing⟩ | ⟨rfl, rfl, rfl⟩
  · exact .track hsheet hcomposed htime hmissing
  · exact .mark hsheet

theorem grows_composed :
    Grows (r.Rule probe c) (r.probed probe c).cache (r.done probe c).cache := by
  rw [done_eq]
  refine ScanState.grows_foldl (fun s sheet hsheet => ?_) (r.probed probe c)
  exact (ScanState.grows_composeSheet r.disk probe r.options.style r.options.force s sheet).mono
    (rule_of_sheetRule probe r c hsheet)

/-- **A scan fills the cache by the rule.** -/
theorem scan_grows : Grows (r.Rule probe c) c (r.done probe c).cache :=
  (grows_probed probe r c).trans (grows_composed probe r c)

/-! ## A directory to look at -/

/-- A scan of a directory with one file and a sheet for it. -/
def albumScan (sheet : String) (sheetTime : Timestamp) : Rescan where
  disk :=
    { modified := fun path =>
        if path == "/music/a.flac" then .ok 1000
        else if path == "/music/a.cue" then .ok sheetTime
        else .error .missing
      size? := fun _ => some 4
      text := fun path => if path == "/music/a.cue" then .ok sheet else .error .missing
      files := fun _ => ["/music/a.cue", "/music/a.flac"] }
  options := {}
  roots := ["/music"]

/-- Knows the file of that directory. -/
def albumProbe (path : Path) : ProbeAnswer :=
  if path == "/music/a.flac" then
    .ok { Descriptor.blank with
      container := some .flac, mediaType := .audio, audioTracks := [{ codec := some .flac }] }
  else .error (.unsupported path)

/-- A sheet for that file with one track. -/
def titledSheet (title : String) : String :=
  "FILE \"a.flac\" WAVE\nTRACK 01 AUDIO\nTITLE \"" ++ title ++ "\"\nINDEX 01 00:00:00\n"

end Rescan

end MediaIndex
