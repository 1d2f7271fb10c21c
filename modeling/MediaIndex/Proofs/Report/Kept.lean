import MediaIndex.Proofs.Cache.Keys
import MediaIndex.Proofs.Report.Events

/-!
# What a report said is still known the next time

A file is probed once, and from then on its descriptor comes from the cache. For that to make no
difference, every descriptor that a report yields has to survive being stored.

> **`reports_kept`**: it does, in every field but one. The duration of a report is always a number,
> so by the laws of the cache all depends on the level: the descriptor is read back equal exactly if
> its level is one of its codec.

For stream summaries it always is. For track lists it is not, since an image among the streams
replaces the codec of the video but leaves its level (`image_replaces_codec`).
-/

set_option autoImplicit false

namespace MediaIndex

namespace Survey

theorem quiet_start : start.core.Quiet where
  steady := ⟨Core.fits_of_level rfl, fun _ => rfl⟩
  bare := fun _ => ⟨rfl, rfl, rfl⟩

/-- The level of a finished survey is one of its codec exactly if it was before closing. -/
theorem levelFits_finish (s : Survey) : s.finish.LevelFits ↔ s.core.Fits := by
  obtain ⟨hcodec, hlevel, -, -⟩ := finish_core s
  unfold Descriptor.LevelFits Core.Fits
  rw [hcodec, hlevel]

end Survey

/-- The level of a summary's descriptor is one of its codec. Video streams are counted in 32 bits,
so the lines have to be fewer. -/
theorem StreamSummary.levelFits_ofText? {text : String} {summary : StreamSummary}
    (h : ofText? text = some summary) (hroom : (Text.lines text).length < UInt32.size) :
    summary.descriptor.LevelFits := by
  unfold ofText? at h
  dsimp only at h
  split at h
  · obtain rfl := Option.some.inj h
    refine (Survey.levelFits_finish _).mpr ?_
    refine (SummaryState.quiet_lines Survey.quiet_start {} ?_).steady.fits
    rw [List.length_map]
    exact (Nat.zero_add _).trans_lt hroom
  · exact absurd h (by simp)

namespace TrackList

/-- Whether the tracks of a report leave its level to the video: no image and no feature names a
codec, or there is no video. -/
def LeaveLevel (tracks : List Track) : Prop :=
  (tracks.length < UInt32.size ∧ ∀ track ∈ tracks, IsPlain track) ∨
    ∀ track ∈ tracks, kind? track ≠ some .video

theorem levelFits_events {tracks : List Track} (h : LeaveLevel tracks) :
    (Survey.start.run (events tracks)).finish.LevelFits := by
  refine (Survey.levelFits_finish _).mpr ?_
  rcases h with ⟨hroom, hplain⟩ | hno
  · refine (quiet_tracks Survey.quiet_start ?_ hplain).steady.fits
    exact (Nat.zero_add _).trans_lt hroom
  · exact Survey.Core.fits_of_level (level_of_noVideo hno rfl)

end TrackList

/-! ## Reports of both kinds -/

/-- What a tool wrote about a file. -/
inductive Report where
  | trackList (text : String)
  | summary (text : String)

namespace Report

/-- The descriptor that a report yields, if it can be read. -/
def descriptor? : Report → Option Descriptor
  | trackList text => TrackList.describe? text
  | summary text => (StreamSummary.ofText? text).map (·.descriptor)

/-- Whether there is nothing in a report that parts the level of the video from its codec. -/
def LeavesLevel : Report → Prop
  | trackList text => ∀ tracks, TrackList.ofText? text = some tracks → TrackList.LeaveLevel tracks
  | summary text => (Text.lines text).length < UInt32.size

variable {r : Report} {d : Descriptor}

theorem survey_of_descriptor? (h : r.descriptor? = some d) :
    ∃ events, d = (Survey.start.run events).finish := by
  cases r with
  | trackList text =>
    obtain ⟨tracks, -, rfl⟩ := Option.map_eq_some_iff.mp h
    exact ⟨_, rfl⟩
  | summary text =>
    obtain ⟨summary, hsummary, rfl⟩ := Option.map_eq_some_iff.mp h
    unfold StreamSummary.ofText? at hsummary
    dsimp only at hsummary
    split at hsummary
    · obtain rfl := Option.some.inj hsummary
      exact ⟨_, rfl⟩
    · exact absurd hsummary (by simp)

theorem levelFits_of_leavesLevel (h : r.descriptor? = some d) (hleaves : r.LeavesLevel) :
    d.LevelFits := by
  cases r with
  | trackList text =>
    obtain ⟨tracks, htracks, rfl⟩ := Option.map_eq_some_iff.mp h
    exact TrackList.levelFits_events (hleaves tracks htracks)
  | summary text =>
    obtain ⟨summary, hsummary, rfl⟩ := Option.map_eq_some_iff.mp h
    exact StreamSummary.levelFits_ofText? hsummary hleaves

/-- **A reported descriptor comes back equal exactly if its level is one of its codec.** -/
theorem stored_agrees_iff (h : r.descriptor? = some d) : d.stored.Agrees d ↔ d.LevelFits := by
  obtain ⟨events, rfl⟩ := survey_of_descriptor? h
  obtain ⟨-, -, hduration, hparsed⟩ := Survey.finish_core (Survey.start.run events)
  have hnumber : ∀ x ∈ (Survey.start.run events).finish.duration,
      Number.isNotANumber x = false := by
    rw [hduration]
    refine Survey.measured_run (fun x hx => ?_) events
    exact absurd hx (by simp [Survey.core, Survey.start, Descriptor.blank])
  have hcomplete : (Survey.start.run events).finish.markParsed =
      (Survey.start.run events).finish := by
    unfold Descriptor.markParsed
    rw [← hparsed]
  have hiff := Descriptor.stored_agrees_iff (d := (Survey.start.run events).finish)
  rw [hcomplete] at hiff
  exact hiff.trans (and_iff_right hnumber)

/-- **What a report said is kept, as far as its level is one of its codec.** The descriptor is
stored under every key that is not there yet, and read back. It is read back equal exactly if its
level is one of its codec, and it always is if nothing in the report parts the two. -/
theorem reports_kept (h : r.descriptor? = some d) {c : Cache} {path : Path} {time : Timestamp}
    (hfresh : c.contains path time = false) (hroom : c.refusesAny path d = false) :
    ∃ c' number e, c.upsert path time d = .ok (c', number) ∧ c'.get path time = .ok (some e) ∧
      (e.Agrees d ↔ d.LevelFits) ∧ (r.LeavesLevel → e.Agrees d) := by
  obtain ⟨c', number, hupsert, hget⟩ := Cache.get_upsert_stored hfresh hroom
  refine ⟨c', number, d.stored, hupsert, hget, stored_agrees_iff h, fun hleaves => ?_⟩
  exact (stored_agrees_iff h).mpr (levelFits_of_leavesLevel h hleaves)

/-- A report of a film, with or without more streams. -/
def film (more : String) : Report :=
  trackList ("\x7b\"media\":\x7b\"track\":[\x7b\"@type\":\"Video\",\"Format\":\"AVC\"," ++
    "\"Format_Profile\":\"High@L4.1\"\x7d" ++ more ++ "]\x7d\x7d")

theorem refusesAny_empty (path : Path) (d : Descriptor) :
    Cache.empty.refusesAny path d = false := by
  simp [Cache.refusesAny, Cache.refuses, Cache.empty]

theorem reports_kept_film :
    ∃ d : Descriptor, (film "").descriptor? = some d ∧ d.videoLevel = some (.h264 .l4_1) ∧
      Cache.empty.contains "/films/a.mkv" 1000 = false ∧
      Cache.empty.refusesAny "/films/a.mkv" d = false ∧
      ∃ c' number e, Cache.empty.upsert "/films/a.mkv" 1000 d = .ok (c', number) ∧
        c'.get "/films/a.mkv" 1000 = .ok (some e) ∧ e.Agrees d := by
  have hread : (film "").descriptor?.any (fun d =>
      d.videoCodec == some .h264 && d.videoLevel == some (.h264 .l4_1)) = true := by decide +kernel
  obtain ⟨d, hd, hfields⟩ := (Option.any_eq_true _ _).mp hread
  rw [Bool.and_eq_true, beq_iff_eq, beq_iff_eq] at hfields
  have hfits : d.LevelFits := by
    intro level hlevel
    rw [hfields.2] at hlevel
    rw [← Option.some.inj hlevel, hfields.1]
    decide
  have hfresh : Cache.empty.contains "/films/a.mkv" 1000 = false := rfl
  have hroom := refusesAny_empty "/films/a.mkv" d
  obtain ⟨c', number, e, hupsert, hget, hagrees, -⟩ := reports_kept hd hfresh hroom
  exact ⟨d, hd, hfields.2, hfresh, hroom, c', number, e, hupsert, hget, hagrees.mpr hfits⟩

/-- A picture takes the place of the codec, and the level stays behind: the descriptor is not read
back as it was. -/
theorem image_replaces_codec :
    ∃ d : Descriptor,
      (film ",\x7b\"@type\":\"Image\",\"Format\":\"PNG\"\x7d").descriptor? = some d ∧
      d.videoCodec = some .png ∧ d.videoLevel = some (.h264 .l4_1) ∧
      ∃ c' number e, Cache.empty.upsert "/films/a.mkv" 1000 d = .ok (c', number) ∧
        c'.get "/films/a.mkv" 1000 = .ok (some e) ∧ ¬e.Agrees d := by
  have hread : (film ",\x7b\"@type\":\"Image\",\"Format\":\"PNG\"\x7d").descriptor?.any
      (fun d => d.videoCodec == some .png && d.videoLevel == some (.h264 .l4_1)) = true := by
    decide +kernel
  obtain ⟨d, hd, hfields⟩ := (Option.any_eq_true _ _).mp hread
  rw [Bool.and_eq_true, beq_iff_eq, beq_iff_eq] at hfields
  obtain ⟨c', number, hupsert, hget⟩ :=
    Cache.get_upsert_stored (c := Cache.empty) rfl (refusesAny_empty "/films/a.mkv" d)
  refine ⟨d, hd, hfields.1, hfields.2, c', number, d.stored, hupsert, hget, fun hagrees => ?_⟩
  have hfamily := (stored_agrees_iff hd).mp hagrees _ hfields.2
  rw [hfields.1] at hfamily
  exact absurd hfamily (by decide)

end Report

end MediaIndex
