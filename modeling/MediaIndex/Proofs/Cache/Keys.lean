import MediaIndex.Cache.Sweep
import MediaIndex.Proofs.Cache.Rows

/-!
# The cache by key

Three things change the rows of a cache: a descriptor is stored, thumbnails are dropped, or stale
rows are swept. Here is what each of them does to the row under one key, whichever other rows there
are. None of the three laws asks that a key have only one row: what a step does to a row depends on
nothing but its key, so the first row with a key stays the first.

The file closes with the law that makes it a cache.

> **`get_upsert_fresh`**: what is stored under a key that is not there yet is read back under that
> key, field by field and track by track.
-/

set_option autoImplicit false

namespace MediaIndex.Cache

variable {c : Cache} {path other : Path} {time otherTime : Timestamp} {d : Descriptor}

theorem hasKey_iff {r : FileRow} :
    hasKey path time r = true ↔ r.path = path ∧ r.modified = time := by
  simp [hasKey]

theorem hasKey_congr {r : FileRow} (h : hasKey path time r = true) :
    hasKey other otherTime r = (path == other && time == otherTime) := by
  obtain ⟨rfl, rfl⟩ := hasKey_iff.mp h
  rfl

@[simp] theorem hasKey_fillRow (r : FileRow) :
    hasKey path time (fillRow d r) = hasKey path time r := rfl

theorem contains_eq_false_iff : c.contains path time = false ↔ c.row? path time = none := by
  simp [contains]

/-! ## Storing -/

/-- The row that a descriptor is put into: the one there is, or a new one. -/
def target (c : Cache) (path : Path) (time : Timestamp) : FileRow :=
  (c.row? path time).getD
    { number := c.lastNumber + 1, path, modified := time, cells := fun _ => .null }

theorem put_number : (c.put path time d).2 = (c.target path time).number := by
  unfold put target
  cases c.row? path time <;> rfl

theorem put_lastNumber : (c.put path time d).1.lastNumber = c.lastNumber + 1 := by
  unfold put
  cases c.row? path time <;> rfl

/-- Filling the rows with a key is seen under that key alone. -/
theorem find?_map_fillRow (rows : List FileRow) :
    (rows.map fun r => if hasKey path time r then fillRow d r else r).find?
        (hasKey other otherTime) =
      (rows.find? (hasKey other otherTime)).map fun r =>
        if hasKey path time r then fillRow d r else r := by
  rw [List.find?_map]
  congr 2
  funext r
  by_cases h : hasKey path time r = true
  · simp [h]
  · simp [h]

/-- **Storing is seen under its own key**, as the filled row. -/
theorem row?_put_self :
    (c.put path time d).1.row? path time = some (fillRow d (c.target path time)) := by
  unfold put target
  cases h : c.row? path time with
  | none =>
    -- the new row comes last, and no row before it has the key
    have hold : c.rows.find? (hasKey path time) = none := h
    simp [row?, List.find?_append, hold, hasKey, fillRow]
  | some r =>
    have hfound : c.rows.find? (hasKey path time) = some r := h
    simp only [row?, find?_map_fillRow, hfound, Option.map_some, Option.getD_some]
    rw [if_pos (List.find?_some hfound)]

/-- **Storing is not seen under any other key.** -/
theorem row?_put_other (hother : ¬(path = other ∧ time = otherTime)) :
    (c.put path time d).1.row? other otherTime = c.row? other otherTime := by
  have hkey : (path == other && time == otherTime) = false := by
    simpa using fun h => fun h' => hother ⟨h, h'⟩
  unfold put
  cases h : c.row? path time with
  | none =>
    have hnew : hasKey other otherTime
        (fillRow d { number := c.lastNumber + 1, path, modified := time, cells := fun _ => .null })
        = false := hkey
    simp [row?, List.find?_append, hnew]
  | some r =>
    simp only [row?, find?_map_fillRow]
    cases hfound : c.rows.find? (hasKey other otherTime) with
    | none => rfl
    | some s =>
      have hs : hasKey path time s = false := by
        rw [hasKey_congr (List.find?_some hfound), ← hkey, Bool.beq_comm, Bool.beq_comm (a := time)]
      simp [hs]

/-! ## Dropping thumbnails and sweeping -/

/-- What dropping thumbnails does to one row. -/
def withoutRowThumbnail (r : FileRow) : FileRow :=
  if hasThumbnail r then { r with cells := withoutThumbnail r.cells } else r

@[simp] theorem hasKey_withoutRowThumbnail (r : FileRow) :
    hasKey path time (withoutRowThumbnail r) = hasKey path time r := by
  unfold withoutRowThumbnail
  split <;> rfl

theorem number_withoutRowThumbnail (r : FileRow) : (withoutRowThumbnail r).number = r.number := by
  unfold withoutRowThumbnail
  split <;> rfl

/-- **Dropping thumbnails is seen under every key.** -/
theorem row?_dropThumbnails :
    c.dropThumbnails.1.row? path time = (c.row? path time).map withoutRowThumbnail := by
  have hkey : hasKey path time ∘ withoutRowThumbnail = hasKey path time :=
    funext hasKey_withoutRowThumbnail
  show (c.rows.map withoutRowThumbnail).find? _ = _
  rw [List.find?_map, hkey]
  rfl

/-- Whether a sweep leaves the rows under a key. -/
def survives (modified : Path → Option Timestamp) (path : Path) (time : Timestamp) : Bool :=
  modified (physicalPath path) == some time

/-- **A sweep removes what is under a key or leaves it.** Only the time of the file that the key is
about decides which. -/
theorem row?_sweep (modified : Path → Option Timestamp) :
    (c.sweep modified).1.row? path time =
      if survives modified path time then c.row? path time else none := by
  show (c.rows.filter (isLive modified)).find? _ = _
  rw [List.find?_filter]
  -- all rows under one key are of the same file, so they go or stay together
  have hlive : ∀ r ∈ c.rows, (isLive modified r && hasKey path time r) =
      (survives modified path time && hasKey path time r) := by
    intro r _
    cases hkey : hasKey path time r with
    | false => simp
    | true =>
      obtain ⟨rfl, rfl⟩ := hasKey_iff.mp hkey
      rfl
  cases hsurvives : survives modified path time with
  | true =>
    rw [hsurvives] at hlive
    simpa [row?] using List.find?_congr hlive
  | false =>
    rw [hsurvives] at hlive
    simp only [Bool.false_eq_true, if_false, List.find?_eq_none]
    intro r hr
    have hgone := hlive r hr
    rw [Bool.false_and] at hgone
    simpa using hgone

/-! ## Reading -/

theorem get_of_row?_none (h : c.row? path time = none) : c.get path time = .ok none := by
  simp only [get, h]

/-- **What a row holds is read under its key.** -/
theorem get_of_holds {r : FileRow} (hrow : c.row? path time = some r) (h : Holds r d) :
    c.get path time = .ok (some d.stored) := by
  simp only [get, hrow, readRow_of_holds h]

/-- A new row holds what was put into it, and nothing of older tracks. -/
theorem holds_target (hfresh : c.contains path time = false) :
    Holds (fillRow d (c.target path time)) d := by
  rw [target, contains_eq_false_iff.mp hfresh]
  exact holds_fillRow_new rfl rfl d

/-- What is stored under a key that is not there yet is read back, as far as it can be stored. -/
theorem get_upsert_stored (hfresh : c.contains path time = false)
    (hroom : c.refusesAny path d = false) :
    ∃ c' number, c.upsert path time d = .ok (c', number) ∧
      c'.get path time = .ok (some d.stored) := by
  refine ⟨(c.put path time d).1, (c.put path time d).2, ?_, ?_⟩
  · rw [upsert, if_neg (by simp [hroom])]
  · exact get_of_holds row?_put_self (holds_target hfresh)

/-- **A descriptor is kept.** Under a key that the cache does not have, a descriptor is stored, and
it is then read back as it was, complete: equal in the sense of `Descriptor.Agrees`, and the very
same unless its duration is the zero with a sign. The duration has to be a number and the level has
to be one of the codec, since no other duration or level can be told from what is stored. -/
theorem get_upsert_fresh (hfresh : c.contains path time = false)
    (hroom : c.refusesAny path d = false)
    (hnumber : ∀ x ∈ d.duration, Number.isNotANumber x = false) (hfits : d.LevelFits) :
    ∃ c' number e, c.upsert path time d = .ok (c', number) ∧ c'.get path time = .ok (some e) ∧
      e.Agrees d.markParsed ∧ (d.duration ≠ some (-0.0) → e = d.markParsed) := by
  obtain ⟨c', number, hupsert, hget⟩ := get_upsert_stored hfresh hroom
  refine ⟨c', number, d.stored, hupsert, hget, ?_, ?_⟩
  · exact Descriptor.stored_agrees_iff.mpr ⟨hnumber, hfits⟩
  · exact Descriptor.stored_eq hnumber hfits

/-- A film with something in every part of the row. -/
def film : Descriptor :=
  { container := some .matroska, mediaType := .video, duration := some 5400.5
    size := some 0xfffffffffffffff0, width := some 1920, height := some 1080
    videoCodec := some .h264, videoLevel := some (.h264 .l4_1), scanType := some .progressive
    videoTrackCount := 1, thumbnail := some { data := ⟨#[0xff, 0xd8]⟩, mime := "image/png" }
    extras := Extras.empty.insert "encoder" "x264 \"core\""
    audioTracks :=
      [{ codec := some .flac, delay := some (-40) }, { number := 1, year := some 1999 }]
    subtitleTracks := [{ format := some .pgs, forced := true }] }

theorem get_upsert_fresh_film :
    empty.contains "/films/a.mkv" 1000 = false ∧
      empty.refusesAny "/films/a.mkv" film = false ∧ film.LevelFits ∧
      ∃ c' number e, empty.upsert "/films/a.mkv" 1000 film = .ok (c', number) ∧
        c'.get "/films/a.mkv" 1000 = .ok (some e) ∧ e.Agrees film.markParsed ∧
        (film.duration ≠ some (-0.0) → e = film.markParsed) := by
  have hfits : film.LevelFits := by decide
  have hnumber : ∀ x ∈ film.duration, Number.isNotANumber x = false := by
    intro x hx
    cases hx
    decide +kernel
  exact ⟨rfl, rfl, hfits, get_upsert_fresh rfl rfl hnumber hfits⟩

end MediaIndex.Cache
