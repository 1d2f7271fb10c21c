import MediaIndex.Proofs.Indexing.Scan

/-!
# Whether virtual tracks follow their files

Two times decide about a virtual track. It is stored under the time of its *file*, but whether a
scan composes it at all depends on the time of its *sheet*: a sheet that is in the cache under its
present time is skipped. So what a later scan finds in the cache depends on the scans before it, and
on what happened to the files in between.

> **`rescan_law`**: after a scan that was not forced and counted no error, the tracks of every sheet
> that was not skipped are stored under the present times of their files. If a sheet was skipped,
> then an earlier scan composed it at the same time of the sheet, and the rows of the tracks that it
> had *then* are still there. Where nothing that the keys depend on has changed since, these are the
> tracks that it has now.

That a file alone is modified is not seen, which is what `touched_file_missed` shows. The invariant
behind the law is `run_reason`: whatever key is in the cache after some scans, one of them had a
reason to add it.
-/

set_option autoImplicit false

namespace MediaIndex

theorem Cache.holding_iff {c : Cache} {keys : List (Path × Except FileFault Timestamp)} :
    c.Holding keys ↔ (keys.all fun key => key.2.toOption.any (c.contains key.1)) = true := by
  rw [List.all_eq_true]
  refine forall₂_congr fun key _ => ?_
  obtain ⟨path, modified⟩ := key
  cases modified with
  | error fault => simp [Except.toOption]
  | ok time => simp [Except.toOption]

instance (c : Cache) (keys : List (Path × Except FileFault Timestamp)) :
    Decidable (c.Holding keys) :=
  decidable_of_iff _ Cache.holding_iff.symm

namespace Rescan

variable {probe : Path → ProbeAnswer} {start : Cache} {past : List Rescan} {now s : Rescan}
variable {sheet path : Path} {time : Timestamp}

/-- The cache after some scans. Between them the files may change in any way. -/
def run (probe : Path → ProbeAnswer) (start : Cache) (past : List Rescan) : Cache :=
  past.foldl (fun c r => (r.done probe c).cache) start

theorem run_append (past : List Rescan) (r : Rescan) :
    run probe start (past ++ [r]) = (r.done probe (run probe start past)).cache := by
  simp [run]

/-! ## Reasons -/

theorem Reason.mono {r : Rescan} {c c' : Cache} (h : r.Reason probe c path time)
    (hkeeps : ∀ path time, c.contains path time = true → c'.contains path time = true) :
    r.Reason probe c' path time :=
  h.imp_right (Or.imp_right (And.imp_right fun hstored => hstored.mono hkeeps))

/-- **Every key has a reason.** The reasons of earlier scans stand, because no scan removes a
row. -/
theorem run_reason (h : (run probe start past).contains path time = true) :
    start.contains path time = true ∨
      ∃ s ∈ past, s.Reason probe (run probe start past) path time := by
  induction past using List.reverseRecOn with
  | nil => exact Or.inl h
  | append_singleton past r ih =>
    rw [run_append] at h ⊢
    obtain ⟨hkeeps, hadds, -⟩ := scan_spec probe r (run probe start past)
    rcases hadds path time h with hbefore | hreason
    · rcases ih hbefore with hstart | ⟨s, hs, hreason⟩
      · exact Or.inl hstart
      · exact Or.inr ⟨s, List.mem_append_left _ hs, hreason.mono hkeeps⟩
    · exact Or.inr ⟨r, List.mem_append_right _ List.mem_cons_self, hreason⟩

/-- Whether a key is the one of a track of some sheet below the roots of an earlier scan. A file may
be named so that its path is the text of a reference. -/
def Referenced (probe : Path → ProbeAnswer) (past : List Rescan) (path : Path)
    (time : Timestamp) : Prop :=
  ∃ s ∈ past, ∃ other ∈ s.files, (path, .ok time) ∈ s.keys probe other

instance : Decidable (Referenced probe past path time) :=
  inferInstanceAs (Decidable (∃ s ∈ past, ∃ other ∈ s.files, _))

/-- Why a sheet is skipped: an earlier scan has stored all its tracks. -/
theorem stored_before (hrole : FileRole.ofPath? sheet = some .sheet)
    (h : (run probe start past).contains sheet time = true) :
    start.contains sheet time = true ∨ Referenced probe past sheet time ∨
      ∃ s ∈ past, s.disk.modified sheet = .ok time ∧
        (run probe start past).Holding (s.keys probe sheet) := by
  rcases run_reason h with hstart | ⟨s, hs, hmedia | ⟨other, hother, hkey⟩ | hstored⟩
  · exact Or.inl hstart
  · exact absurd (hmedia.symm.trans hrole) (by simp)
  · exact Or.inr (Or.inl ⟨s, hs, other, hother, hkey⟩)
  · exact Or.inr (Or.inr ⟨s, hs, hstored⟩)

/-! ## What the keys depend on -/

/-- Whether nothing has changed that the keys of a sheet depend on: its text, the style of
composition, and the times of the files of its tracks. -/
structure Unchanged (probe : Path → ProbeAnswer) (sheet : Path) (s now : Rescan) : Prop where
  text : s.disk.text sheet = now.disk.text sheet
  style : s.options.style = now.options.style
  files : ∀ t ∈ (CueSheet.composeFile now.disk now.options.style probe sheet).tracks,
    s.disk.modified t.path = now.disk.modified t.path

theorem Unchanged.keys_eq (h : Unchanged probe sheet s now) :
    s.keys probe sheet = now.keys probe sheet := by
  have hcomposed : CueSheet.composeFile s.disk s.options.style probe sheet =
      CueSheet.composeFile now.disk now.options.style probe sheet := by
    unfold CueSheet.composeFile CueSheet.load
    rw [h.text, h.style]
  unfold keys sheetKeys
  rw [hcomposed]
  refine List.map_congr_left fun t ht => ?_
  rw [VirtualTrack.key, VirtualTrack.key, h.files t ht]

/-! ## The law -/

/-- The last scan of a run. -/
def outcome (probe : Path → ProbeAnswer) (start : Cache) (past : List Rescan) (now : Rescan) :
    ScanState :=
  now.done probe (run probe start past)

/-- **What holds of the virtual tracks of a sheet after a scan**, whatever scans went before. -/
theorem rescan_law (hnone : (outcome probe start past now).counts.errors = 0)
    (hsheet : sheet ∈ now.files) (hrole : FileRole.ofPath? sheet = some .sheet) :
    ∃ time, now.disk.modified sheet = .ok time ∧
      ((now.options.force = false ∧ (run probe start past).contains sheet time = true) ∨
        (outcome probe start past now).cache.Holding (now.keys probe sheet)) ∧
      ((run probe start past).contains sheet time = true →
        start.contains sheet time = true ∨ Referenced probe past sheet time ∨
          ∃ s ∈ past, s.disk.modified sheet = .ok time ∧
            (outcome probe start past now).cache.Holding (s.keys probe sheet)) ∧
      (start.contains sheet time = false → ¬Referenced probe past sheet time →
        (∀ s ∈ past, s.disk.modified sheet = .ok time → Unchanged probe sheet s now) →
        (outcome probe start past now).cache.Holding (now.keys probe sheet)) := by
  obtain ⟨hkeeps, -, hcomplete⟩ := scan_spec probe now (run probe start past)
  obtain ⟨time, htime, hdone⟩ := hcomplete hnone sheet hsheet hrole
  have hearlier : (run probe start past).contains sheet time = true →
      start.contains sheet time = true ∨ Referenced probe past sheet time ∨
        ∃ s ∈ past, s.disk.modified sheet = .ok time ∧
          (outcome probe start past now).cache.Holding (s.keys probe sheet) := by
    intro hpresent
    rcases stored_before hrole hpresent with h | h | ⟨s, hs, hsame, hstored⟩
    · exact Or.inl h
    · exact Or.inr (Or.inl h)
    · exact Or.inr (Or.inr ⟨s, hs, hsame, hstored.mono hkeeps⟩)
  refine ⟨time, htime, hdone, hearlier, ?_⟩
  intro hstart hreferenced hunchanged
  rcases hdone with ⟨-, hpresent⟩ | hstored
  · -- the sheet was skipped, so an earlier scan composed what would be composed now
    rcases hearlier hpresent with h | h | ⟨s, hs, hsame, hstored⟩
    · exact absurd (hstart.symm.trans h) (by simp)
    · exact absurd h hreferenced
    · rw [← (hunchanged s hs hsame).keys_eq]
      exact hstored
  · exact hstored

/-! ## A file that is modified while its sheet is not -/

/-- Knows one file. -/
def showProbe (path : Path) : ProbeAnswer :=
  if path == "/music/show.flac" then
    .ok { Descriptor.blank with container := some .flac, mediaType := .audio }
  else .error (.unsupported path)

/-- A scan of a directory with that file and a sheet for it. The file was modified at a given
time. -/
def showScan (modified : Timestamp) : Rescan where
  disk :=
    { modified := fun path =>
        if path == "/music/show.flac" then .ok modified
        else if path == "/music/show.cue" then .ok 1000
        else .error .missing
      size? := fun _ => some 4
      text := fun path =>
        if path == "/music/show.cue" then
          .ok ("FILE \"show.flac\" WAVE\nTRACK 01 AUDIO\nINDEX 01 00:00:00\n" ++
            "TRACK 02 AUDIO\nINDEX 01 05:00:00\n")
        else .error .missing
      files := fun _ => ["/music/show.cue", "/music/show.flac"] }
  options := {}
  roots := ["/music"]

theorem rescan_law_show :
    (outcome showProbe Cache.empty [showScan 1000] (showScan 1000)).counts.errors = 0 ∧
      "/music/show.cue" ∈ (showScan 1000).files ∧
      FileRole.ofPath? "/music/show.cue" = some .sheet ∧
      (outcome showProbe Cache.empty [showScan 1000] (showScan 1000)).cache.Holding
        ((showScan 1000).keys showProbe "/music/show.cue") := by
  have hnone : (outcome showProbe Cache.empty [showScan 1000] (showScan 1000)).counts.errors = 0 :=
    by decide +kernel
  have hsheet : "/music/show.cue" ∈ (showScan 1000).files := by decide +kernel
  have hrole : FileRole.ofPath? "/music/show.cue" = some .sheet := by decide +kernel
  refine ⟨hnone, hsheet, hrole, ?_⟩
  obtain ⟨time, htime, -, -, hholding⟩ := rescan_law hnone hsheet hrole
  have hmodified : (showScan 1000).disk.modified "/music/show.cue" = .ok 1000 := by decide +kernel
  obtain rfl : 1000 = time := Except.ok.inj (hmodified.symm.trans htime)
  refine hholding (by decide +kernel) (by decide +kernel) fun s hs _ => ?_
  rw [List.mem_singleton.mp hs]
  exact ⟨rfl, rfl, fun _ _ => rfl⟩

/-- **A file alone that is modified is not seen.** The second scan counts no error, but passes over
the sheet, and there is no row for its tracks under the time that the file has now. -/
theorem touched_file_missed :
    (outcome showProbe Cache.empty [showScan 1000] (showScan 2000)).counts.errors = 0 ∧
      (showScan 2000).options.force = false ∧
      "/music/show.cue" ∈ (showScan 2000).files ∧
      ("/music/show.flac>0>300>Track #1", .ok 2000) ∈
        (showScan 2000).keys showProbe "/music/show.cue" ∧
      (outcome showProbe Cache.empty [showScan 1000] (showScan 2000)).cache.contains
        "/music/show.flac>0>300>Track #1" 2000 = false := by
  decide +kernel

end Rescan

end MediaIndex
