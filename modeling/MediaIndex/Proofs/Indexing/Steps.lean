import MediaIndex.Indexing.Scan

/-!
# The steps of a scan

What a scan does to its state it does in three kinds of steps: it stores what the prober answered
for a file, it stores a track, or it is done with the tracks of a sheet and marks it. Each kind has
a handful of cases, and `AnswerStored`, `TrackStored` and `SheetMarked` list them with all that is
known in each. Whatever is to be shown of a scan is shown case by case for these, and then for the
whole by induction.

Files are probed in chunks, which is of no consequence for what is stored (`probeMedia_eq`).
-/

set_option autoImplicit false

namespace MediaIndex

namespace ScanState

/-- What storing an answer of the prober comes to. -/
inductive AnswerStored (s : ScanState) (x : Candidate) (answer : ProbeAnswer) : ScanState → Prop
  | failed {e} (failed : answer = .error e) : AnswerStored s x answer s.addError
  | refused {d e} (ok : answer = .ok d) (refused : s.cache.upsert x.path x.modified d = .error e) :
      AnswerStored s x answer s.addError
  | stored {d cache number} (ok : answer = .ok d)
      (stored : s.cache.upsert x.path x.modified d = .ok (cache, number)) :
      AnswerStored s x answer { s with cache, counts.probed := s.counts.probed + 1 }

theorem answerStored (s : ScanState) (x : Candidate) (answer : ProbeAnswer) :
    AnswerStored s x answer (s.storeAnswer (x, answer)) := by
  unfold storeAnswer
  cases answer with
  | error e => exact .failed rfl
  | ok d =>
    dsimp only
    cases hupsert : s.cache.upsert x.path x.modified d with
    | error e => exact .refused rfl hupsert
    | ok stored => exact .stored rfl hupsert

/-- What storing a track comes to. -/
inductive TrackStored (disk : Disk) (force : Bool) (s : ScanState) (t : VirtualTrack) :
    ScanState × Bool → Prop
  | timeless {fault} (modified : disk.modified t.path = .error fault) :
      TrackStored disk force s t (s, true)
  | skipped {time} (modified : disk.modified t.path = .ok time) (free : force = false)
      (there : s.cache.contains t.reference.text time = true) :
      TrackStored disk force s t (s, false)
  | refused {time e} (modified : disk.modified t.path = .ok time)
      (missing : force = true ∨ s.cache.contains t.reference.text time = false)
      (refused : s.cache.upsert t.reference.text time t.descriptor = .error e) :
      TrackStored disk force s t (s, true)
  | stored {time cache number} (modified : disk.modified t.path = .ok time)
      (missing : force = true ∨ s.cache.contains t.reference.text time = false)
      (stored : s.cache.upsert t.reference.text time t.descriptor = .ok (cache, number)) :
      TrackStored disk force s t
        ({ s with cache, counts.virtualTracks := s.counts.virtualTracks + 1 }, false)

theorem trackStored (disk : Disk) (force : Bool) (s : ScanState) (t : VirtualTrack) :
    TrackStored disk force s t (s.storeTrack disk force t) := by
  unfold storeTrack
  cases hmodified : disk.modified t.path with
  | error fault => exact .timeless hmodified
  | ok time =>
    dsimp only
    by_cases hskip : (!force && s.cache.contains t.reference.text time) = true
    · rw [if_pos hskip]
      rw [Bool.and_eq_true, Bool.not_eq_true'] at hskip
      exact .skipped hmodified hskip.1 hskip.2
    · have hmissing : force = true ∨ s.cache.contains t.reference.text time = false := by
        cases force with
        | true => exact Or.inl rfl
        | false => exact Or.inr (by simpa using hskip)
      rw [if_neg hskip]
      cases hupsert : s.cache.upsert t.reference.text time t.descriptor with
      | error e => exact .refused hmodified hmissing hupsert
      | ok stored => exact .stored hmodified hmissing hupsert

/-- Storing tracks changes nothing but the cache and the count of tracks. -/
theorem storeTracks_eq (disk : Disk) (force : Bool) (s : ScanState) (tracks : List VirtualTrack) :
    (s.storeTracks disk force tracks).1 =
      { s with
        cache := (s.storeTracks disk force tracks).1.cache
        counts.virtualTracks := (s.storeTracks disk force tracks).1.counts.virtualTracks } := by
  induction tracks generalizing s with
  | nil => rfl
  | cons t rest ih =>
    have hstep := trackStored disk force s t
    have hcons : (s.storeTracks disk force (t :: rest)).1 =
        ((s.storeTrack disk force t).1.storeTracks disk force rest).1 := rfl
    rw [hcons]
    generalize s.storeTrack disk force t = next at hstep ⊢
    cases hstep with
    | timeless modified => exact ih s
    | skipped modified free there => exact ih s
    | refused modified missing refused => exact ih s
    | stored modified missing stored => exact ih _

/-- The state after the tracks of a sheet were stored, and how many of them could not be. -/
def afterTracks (disk : Disk) (probe : Path → ProbeAnswer) (style : CompositionStyle)
    (force : Bool) (s : ScanState) (sheet : Path) : ScanState × Nat :=
  let composed := CueSheet.composeFile disk style probe sheet
  { s with probed := s.probed ++ composed.probed }.storeTracks disk force composed.tracks

theorem afterTracks_eq (disk : Disk) (probe : Path → ProbeAnswer) (style : CompositionStyle)
    (force : Bool) (s : ScanState) (sheet : Path) :
    (s.afterTracks disk probe style force sheet).1 =
      { s with
        cache := (s.afterTracks disk probe style force sheet).1.cache
        counts.virtualTracks := (s.afterTracks disk probe style force sheet).1.counts.virtualTracks
        probed := s.probed ++ (CueSheet.composeFile disk style probe sheet).probed } :=
  storeTracks_eq disk force _ _

/-- What composing a sheet comes to after its tracks. -/
inductive SheetMarked (sheet : Candidate) (s : ScanState) (failed : Nat) : ScanState → Prop
  | incomplete (some : 0 < failed) :
      SheetMarked sheet s failed { s with counts.errors := s.counts.errors + failed }
  | refused {e} (none : failed = 0)
      (refused : s.cache.upsert sheet.path sheet.modified sheetMark = .error e) :
      SheetMarked sheet s failed s.addError
  | marked {cache number} (none : failed = 0)
      (stored : s.cache.upsert sheet.path sheet.modified sheetMark = .ok (cache, number)) :
      SheetMarked sheet s failed { s with cache, counts.sheets := s.counts.sheets + 1 }

theorem sheetMarked (disk : Disk) (probe : Path → ProbeAnswer) (style : CompositionStyle)
    (force : Bool) (s : ScanState) (sheet : Candidate) :
    SheetMarked sheet (s.afterTracks disk probe style force sheet.path).1
      (s.afterTracks disk probe style force sheet.path).2
      (s.composeSheet disk probe style force sheet) := by
  unfold composeSheet afterTracks
  dsimp only
  generalize ({ s with
      probed := s.probed ++ (CueSheet.composeFile disk style probe sheet.path).probed } :
    ScanState).storeTracks disk force (CueSheet.composeFile disk style probe sheet.path).tracks =
    stored
  obtain ⟨t, failed⟩ := stored
  dsimp only
  by_cases hfailed : 0 < failed
  · rw [if_pos hfailed]
    exact .incomplete hfailed
  · obtain rfl := Nat.eq_zero_of_not_pos hfailed
    cases hupsert : t.cache.upsert sheet.path sheet.modified sheetMark with
    | error e => exact .refused rfl hupsert
    | ok marked => exact .marked rfl hupsert

/-- **Composing a sheet probes** what its composition asks for, whatever becomes of the tracks. -/
theorem probed_composeSheet (disk : Disk) (probe : Path → ProbeAnswer) (style : CompositionStyle)
    (force : Bool) (s : ScanState) (sheet : Candidate) :
    (s.composeSheet disk probe style force sheet).probed =
      s.probed ++ (CueSheet.composeFile disk style probe sheet.path).probed := by
  have hstep := sheetMarked disk probe style force s sheet
  have hprobed := congrArg (·.probed) (afterTracks_eq disk probe style force s sheet.path)
  generalize s.afterTracks disk probe style force sheet.path = stored at hstep hprobed
  generalize s.composeSheet disk probe style force sheet = next at hstep ⊢
  cases hstep with
  | incomplete some => exact hprobed
  | refused none refused => exact hprobed
  | marked none marked => exact hprobed

theorem probed_composeSheets (disk : Disk) (probe : Path → ProbeAnswer) (style : CompositionStyle)
    (force : Bool) (s : ScanState) (sheets : List Candidate) :
    (s.composeSheets disk probe style force sheets).probed = s.probed ++
      sheets.flatMap fun x => (CueSheet.composeFile disk style probe x.path).probed := by
  induction sheets generalizing s with
  | nil => simp [composeSheets]
  | cons x rest ih =>
    refine (ih (s.composeSheet disk probe style force x)).trans ?_
    rw [probed_composeSheet, List.flatMap_cons, List.append_assoc]

/-! ## Chunks -/

theorem flatten_inChunks {α : Type} (size : Nat) (items : List α) :
    (inChunks size items).flatten = items := by
  fun_induction inChunks size items with
  | case1 => rfl
  | case2 a rest ih => rw [List.flatten_cons, ih, List.cons_append, List.take_append_drop]

/-- Storing an answer takes no notice of what was probed. -/
theorem storeAnswer_probed (s : ScanState) (probed : List Path)
    (found : Candidate × ProbeAnswer) :
    { s with probed }.storeAnswer found = { s.storeAnswer found with probed } := by
  unfold storeAnswer
  split
  · rfl
  · dsimp only
    split <;> rfl

theorem foldl_storeAnswer_probed (s : ScanState) (probed : List Path)
    (found : List (Candidate × ProbeAnswer)) :
    found.foldl storeAnswer { s with probed } = { found.foldl storeAnswer s with probed } := by
  induction found generalizing s with
  | nil => rfl
  | cons x rest ih => rw [List.foldl_cons, storeAnswer_probed, ih, List.foldl_cons]

/-- **Chunks make no difference**: the files might as well be probed and stored one by one. -/
theorem probeMedia_eq (s : ScanState) (probe : Path → ProbeAnswer) (workers : Nat)
    (media : List Candidate) :
    s.probeMedia probe workers media =
      { (media.map fun x => (x, probe x.path)).foldl storeAnswer s with
        probed := s.probed ++ media.map (·.path) } := by
  have hchunks : ∀ (chunks : List (List Candidate)) (s : ScanState),
      chunks.foldl (probeChunk probe) s =
        { (chunks.flatten.map fun x => (x, probe x.path)).foldl storeAnswer s with
          probed := s.probed ++ chunks.flatten.map (·.path) } := by
    intro chunks
    induction chunks with
    | nil => intro s; simp
    | cons chunk rest ih =>
      intro s
      -- a chunk is probed before any of its answers is stored, but answers are stored in order
      have hchunk : probeChunk probe s chunk =
          { (chunk.map fun x => (x, probe x.path)).foldl storeAnswer s with
            probed := s.probed ++ chunk.map (·.path) } := foldl_storeAnswer_probed ..
      rw [List.foldl_cons, hchunk, ih, foldl_storeAnswer_probed, List.flatten_cons,
        List.map_append, List.map_append, List.foldl_append, List.append_assoc]
  rw [probeMedia, hchunks, flatten_inChunks]

end ScanState

end MediaIndex
