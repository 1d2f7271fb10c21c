import MediaIndex.Proofs.Cue.Clips
import MediaIndex.Proofs.Indexing.Marks
import MediaIndex.Proofs.Indexing.Rescans

/-!
# Whether virtual tracks follow their sheets

The key of a virtual track tells its file, its bounds and its title, and the time of the file. What
else the sheet says about the song, the artist, the album, the genre, the year, is only in the row.
A scan that is not forced leaves a row that is there, so it is the first scan with a track under a
key that decides what the row says.

> **`song_law`**: a scan that composes a sheet stores what the sheet says now about a track for
> which there was no row. A row that was there stays as it was: it says what the sheet said when a
> scan of the run stored it.

That the sheet may say something else by now is what `edited_genre_missed` shows.
-/

set_option autoImplicit false

namespace MediaIndex

open Cache

namespace Rescan

variable {probe : Path → ProbeAnswer} {r : Rescan} {c start : Cache} {past : List Rescan}
variable {path : Path} {time : Timestamp}

/-! ## Keys of tracks alone -/

/-- Whether no file below the roots has a key. Then only tracks can. -/
def Fileless (r : Rescan) (path : Path) (time : Timestamp) : Prop :=
  path ∈ r.files → r.disk.modified path ≠ .ok time

instance : Decidable (r.Fileless path time) :=
  inferInstanceAs (Decidable (path ∈ r.files → ¬(r.disk.modified path = .ok time)))

/-- Whether a descriptor is the one of a track with a key, of a sheet that the scan composes. -/
def Composes (probe : Path → ProbeAnswer) (r : Rescan) (c : Cache) (path : Path)
    (time : Timestamp) (d : Descriptor) : Prop :=
  ∃ sheet ∈ (r.found c).sheets, ∃ t ∈ r.tracks probe sheet.path,
    t.key r.disk = (path, .ok time) ∧ t.descriptor = d

theorem Rule.of_fileless {b : Cache} {d : Descriptor} (h : r.Rule probe c b path time d)
    (hfileless : r.Fileless path time) :
    r.Composes probe c path time d ∧
      (r.options.force = true ∨ b.contains path time = false) := by
  cases h with
  | media found answer =>
    obtain ⟨hfile, -, hmodified, -⟩ := Collected.mem_media_ofFiles.mp found
    exact absurd hmodified (hfileless hfile)
  | track found composed modified missing =>
    refine ⟨⟨_, found, _, composed, ?_, rfl⟩, missing⟩
    rw [VirtualTrack.key, modified]
  | mark found =>
    obtain ⟨hfile, -, hmodified, -⟩ := Collected.mem_sheets_ofFiles.mp found
    exact absurd hmodified (hfileless hfile)

/-- What a scan that is not forced does to the row of a track: nothing if there is one. -/
theorem row?_done (probe : Path → ProbeAnswer) (c : Cache) (hfree : r.options.force = false)
    (hfileless : r.Fileless path time) :
    (r.done probe c).cache.row? path time = c.row? path time ∨
      (c.contains path time = false ∧ ∃ d row, r.Composes probe c path time d ∧
        (r.done probe c).cache.row? path time = some row ∧ Holds row d) := by
  have hmissing : ∀ b d, r.Rule probe c b path time d → b.contains path time = false := by
    intro b d hrule
    simpa [hfree] using (hrule.of_fileless hfileless).2
  rcases (scan_grows probe r c).first hmissing with hsame | ⟨hnew, b, d, row, hrule, hrow, hholds⟩
  · exact Or.inl hsame
  · exact Or.inr ⟨hnew, d, row, (hrule.of_fileless hfileless).1, hrow, hholds⟩

/-- Whether the scan of a run that stored a key composed a track with a descriptor for it. -/
def FirstStored (probe : Path → ProbeAnswer) (start : Cache) (past : List Rescan) (path : Path)
    (time : Timestamp) (d : Descriptor) : Prop :=
  ∃ before s after, past = before ++ s :: after ∧
    (run probe start before).contains path time = false ∧
    (run probe start (before ++ [s])).contains path time = true ∧
    s.Composes probe (run probe start before) path time d

/-- **The row of a track after a run** holds what the scan that stored it composed. -/
theorem row?_run (probe : Path → ProbeAnswer) (hmissing : start.contains path time = false)
    (hpast : ∀ s ∈ past, s.options.force = false ∧ s.Fileless path time) :
    (run probe start past).row? path time = none ∨
      ∃ d row, FirstStored probe start past path time d ∧
        (run probe start past).row? path time = some row ∧ Holds row d := by
  induction past using List.reverseRecOn with
  | nil => exact Or.inl (contains_eq_false_iff.mp hmissing)
  | append_singleton past r ih =>
    obtain ⟨hfree, hfileless⟩ := hpast r (by simp)
    rw [run_append]
    -- the last scan leaves the row as it is, or it is the first to find the key missing
    rcases row?_done probe _ hfree hfileless with hsame | ⟨hnew, d, row, hcomposes, hrow, hholds⟩
    · rcases ih fun s hs => hpast s (by simp [hs]) with hnone | ⟨d, row, hfirst, hrow, hholds⟩
      · exact Or.inl (hsame.trans hnone)
      · obtain ⟨before, s, after, rfl, hbefore⟩ := hfirst
        exact Or.inr ⟨d, row, ⟨before, s, after ++ [r], by simp, hbefore⟩, hsame.trans hrow, hholds⟩
    · have hstored : (run probe start (past ++ [r])).contains path time = true := by
        rw [run_append, contains, hrow]
        rfl
      exact Or.inr ⟨d, row, ⟨past, r, [], rfl, hnew, hstored, hcomposes⟩, hrow, hholds⟩

/-! ## What a row says about a song -/

/-- Whether a row says the same about a song as a descriptor, and about its length. -/
def Says (c : Cache) (path : Path) (time : Timestamp) (d : Descriptor) : Prop :=
  ∃ e, c.get path time = .ok (some e) ∧ e.audioTracks = d.audioTracks ∧
    (e.duration == d.duration) = true

theorem says_of_holds {row : FileRow} {d : Descriptor} (hrow : c.row? path time = some row)
    (hholds : Holds row d) (hnumber : ∀ x ∈ d.duration, Number.isNotANumber x = false) :
    Says c path time d :=
  ⟨d.stored, get_of_holds hrow hholds, rfl, Descriptor.stored_duration_beq_iff.mpr hnumber⟩

theorem Composes.isNumber {d : Descriptor} (h : r.Composes probe c path time d) :
    ∀ x ∈ d.duration, Number.isNotANumber x = false := by
  obtain ⟨sheet, -, t, ht, -, rfl⟩ := h
  unfold tracks CueSheet.composeFile at ht
  split at ht
  · exact CueSheet.duration_isNumber ht
  · exact absurd ht (by simp)

theorem FirstStored.isNumber {d : Descriptor} (h : FirstStored probe start past path time d) :
    ∀ x ∈ d.duration, Number.isNotANumber x = false := by
  obtain ⟨_, _, _, _, _, _, hcomposes⟩ := h
  exact hcomposes.isNumber

/-! ## The law -/

variable {now : Rescan} {x : Candidate} {t : VirtualTrack}

/-- **What is known of the song of a composed track**, whatever scans went before. -/
theorem song_law (hfree : now.options.force = false)
    (hx : x ∈ now.counted probe (run probe start past)) (ht : t ∈ now.tracks probe x.path)
    (hshared : ∀ time d, now.Composes probe (run probe start past) t.reference.text time d →
      d = t.descriptor)
    (hfileless : ∀ time, now.disk.modified t.path = .ok time →
      now.Fileless t.reference.text time) :
    ∃ time, now.disk.modified t.path = .ok time ∧
      ((run probe start past).contains t.reference.text time = false →
        Says (outcome probe start past now).cache t.reference.text time t.descriptor) ∧
      ((run probe start past).contains t.reference.text time = true →
        (outcome probe start past now).cache.row? t.reference.text time =
          (run probe start past).row? t.reference.text time) ∧
      (start.contains t.reference.text time = false →
        (∀ s ∈ past, s.options.force = false ∧ s.Fileless t.reference.text time) →
        ∃ d, FirstStored probe start (past ++ [now]) t.reference.text time d ∧
          Says (outcome probe start past now).cache t.reference.text time d) := by
  -- the sheet is counted, so there is a row at the end in any case
  obtain ⟨-, hholding⟩ := (ScanState.mark_of_counted hx).2
  obtain ⟨time, htime, hcontains⟩ := hholding _ (List.mem_map_of_mem ht)
  have hthere : (outcome probe start past now).cache.contains t.reference.text time = true :=
    hcontains
  have hstep := row?_done probe (run probe start past) hfree (hfileless time htime)
  refine ⟨time, htime, fun hnew => ?_, fun hold => ?_, fun hmissing hpast => ?_⟩
  · rcases hstep with hsame | ⟨-, d, row, hcomposes, hrow, hholds⟩
    · rw [contains, outcome, hsame] at hthere
      exact absurd (hnew.symm.trans hthere) (by simp)
    · obtain rfl := hshared time d hcomposes
      exact says_of_holds hrow hholds hcomposes.isNumber
  · rcases hstep with hsame | ⟨hnew, -⟩
    · exact hsame
    · exact absurd (hnew.symm.trans hold) (by simp)
  · have hall : ∀ s ∈ past ++ [now],
        s.options.force = false ∧ s.Fileless t.reference.text time := by
      intro s hs
      rcases List.mem_append.mp hs with hs | hs
      · exact hpast s hs
      · obtain rfl := List.mem_singleton.mp hs
        exact ⟨hfree, hfileless time htime⟩
    have hrun : (outcome probe start past now).cache = run probe start (past ++ [now]) :=
      (run_append past now).symm
    rw [hrun] at hthere ⊢
    rcases row?_run probe hmissing hall with hnone | ⟨d, row, hfirst, hrow, hholds⟩
    · rw [contains, hnone] at hthere
      exact absurd hthere (by simp)
    · exact ⟨d, hfirst, says_of_holds hrow hholds hfirst.isNumber⟩

/-- A sheet with one track, of a genre. -/
def genreSheet (genre : String) : String := "REM GENRE " ++ genre ++ "\n" ++ titledSheet "A"

theorem song_law_album :
    let now := albumScan (genreSheet "Rock") 1000
    now.options.force = false ∧ ⟨"/music/a.cue", 1000⟩ ∈ now.counted albumProbe Cache.empty ∧
      ∃ t ∈ now.tracks albumProbe "/music/a.cue",
        t.reference.text = "/music/a.flac>0>inf>A" ∧
        Says (outcome albumProbe Cache.empty [] now).cache t.reference.text 1000 t.descriptor := by
  intro now
  have hx : ⟨"/music/a.cue", 1000⟩ ∈ now.counted albumProbe (run albumProbe Cache.empty []) := by
    decide +kernel
  have hsheets : (now.found (run albumProbe Cache.empty [])).sheets = [⟨"/music/a.cue", 1000⟩] := by
    decide +kernel
  have hone : (now.tracks albumProbe "/music/a.cue").length = 1 := by decide +kernel
  have htexts : (now.tracks albumProbe "/music/a.cue").map (fun t => (t.path, t.reference.text)) =
      [("/music/a.flac", "/music/a.flac>0>inf>A")] := by decide +kernel
  obtain ⟨t, htracks⟩ := List.length_eq_one_iff.mp hone
  rw [htracks] at htexts
  obtain ⟨hpath, htext⟩ : t.path = "/music/a.flac" ∧
      t.reference.text = "/music/a.flac>0>inf>A" := by simpa using htexts
  have ht : t ∈ now.tracks albumProbe "/music/a.cue" := by rw [htracks]; simp
  have hshared : ∀ time d, now.Composes albumProbe (run albumProbe Cache.empty [])
      t.reference.text time d → d = t.descriptor := by
    rintro time d ⟨sheet, hsheet, t', ht', -, rfl⟩
    rw [hsheets] at hsheet
    obtain rfl := List.mem_singleton.mp hsheet
    rw [htracks] at ht'
    rw [List.mem_singleton.mp ht']
  have hfileless : ∀ time, now.disk.modified t.path = .ok time →
      now.Fileless t.reference.text time := by
    intro time _ hfile
    rw [htext] at hfile
    exact absurd hfile (by decide +kernel)
  obtain ⟨time, htime, hnew, -, -⟩ := song_law rfl hx ht hshared hfileless
  have hmodified : now.disk.modified t.path = .ok 1000 := by rw [hpath]; rfl
  obtain rfl : 1000 = time := Except.ok.inj (hmodified.symm.trans htime)
  exact ⟨rfl, hx, t, ht, htext, hnew rfl⟩

/-- **An edit that keeps the key is not seen.** The second scan composes the sheet and counts it,
but the row goes on naming the genre that the sheet had before. -/
theorem edited_genre_missed :
    let now := albumScan (genreSheet "Jazz") 2000
    let past := [albumScan (genreSheet "Rock") 1000]
    ⟨"/music/a.cue", 2000⟩ ∈ now.counted albumProbe (run albumProbe Cache.empty past) ∧
      (now.tracks albumProbe "/music/a.cue").map (fun t =>
        (t.reference.text, t.descriptor.audioTracks.map (·.genre))) =
          [("/music/a.flac>0>inf>A", [some "Jazz"])] ∧
      ((outcome albumProbe Cache.empty past now).cache.get "/music/a.flac>0>inf>A" 1000).map
        (Option.map fun e => e.audioTracks.map (·.genre)) = .ok (some [some "Rock"]) := by
  decide +kernel

end Rescan

end MediaIndex
