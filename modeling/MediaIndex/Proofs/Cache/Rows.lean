import MediaIndex.Cache.Basic
import MediaIndex.Proofs.Cache.Cells

/-!
# A row holds a descriptor

The three tables together are one codec: a descriptor goes in as a row for the file and rows for its
tracks, and has to come out again. This file says what comes out of a single row.

> **`readRow_of_holds`**: a row that holds a descriptor is read as `Descriptor.stored` of it: the
> same descriptor, but for the level, which is read for the stored codec, and the duration, which
> is stored by its value.

> **`Descriptor.stored_agrees_iff`**: that is the descriptor itself, complete, exactly if the
> duration is a number and the level is of the family of the codec.

The rows of tracks are the reason to speak of *holding* and not of storing. A row that was stored
several times still has the tracks that were beyond the end of the later lists, so it holds a
descriptor that was never stored as such. What storing does to a row that holds a descriptor is
therefore said once, for all of them (`Holds.fillRow`): the new tracks lie over the old ones.
-/

set_option autoImplicit false

namespace MediaIndex

/-! ## Descriptors as they are read back -/

namespace Descriptor

/-- Whether the level, if there is one, is of the family of the video codec. -/
def LevelFits (d : Descriptor) : Prop :=
  ∀ level ∈ d.videoLevel, d.videoCodec.bind Format.levelFamily? = some level.family

instance (d : Descriptor) : Decidable d.LevelFits :=
  inferInstanceAs (Decidable (∀ level ∈ d.videoLevel, _))

/-- The level as the stored codec reads it. -/
def storedLevel? (d : Descriptor) : Option Level :=
  d.videoCodec.bind fun codec => (d.videoLevel.map (·.code)).bind (Level.ofToken? codec)

/-- A descriptor as it is read back. -/
def stored (d : Descriptor) : Descriptor :=
  { d with
    duration := d.duration.bind Cell.storedNumber?
    videoLevel := d.storedLevel? }.markParsed

/-- Two descriptors are equal in the sense in which numbers are: what is not a duration is the same,
and the durations are equal as numbers. -/
def Agrees (d e : Descriptor) : Prop :=
  (d.duration == e.duration) = true ∧ { d with duration := none } = { e with duration := none }

theorem storedLevel?_eq_iff {d : Descriptor} : d.storedLevel? = d.videoLevel ↔ d.LevelFits := by
  unfold storedLevel? LevelFits
  cases hlevel : d.videoLevel with
  | none => cases d.videoCodec <;> simp
  | some level =>
    cases hcodec : d.videoCodec with
    | none => simp
    | some codec => simp [Level.ofToken?_code_iff]

theorem stored_duration_beq_iff {d : Descriptor} :
    (d.duration.bind Cell.storedNumber? == d.duration) = true ↔
      ∀ x ∈ d.duration, Number.isNotANumber x = false := by
  cases hduration : d.duration with
  | none => simp
  | some x =>
    cases hx : Number.isNotANumber x with
    | false =>
      have hequal := Cell.storedNumber?_beq hx
      simpa [hx] using hequal
    | true =>
      have hmissing : Cell.storedNumber? x = none := by simp [Cell.storedNumber?, hx]
      simp [hmissing, hx]

/-- **What is read back agrees with what was stored** exactly for a duration that is a number and a
level that fits. -/
theorem stored_agrees_iff {d : Descriptor} :
    d.stored.Agrees d.markParsed ↔
      (∀ x ∈ d.duration, Number.isNotANumber x = false) ∧ d.LevelFits := by
  rw [← stored_duration_beq_iff, ← storedLevel?_eq_iff]
  -- besides the duration only the level is read back by other means than it was written
  refine and_congr_right fun _ => ⟨fun h => congrArg Descriptor.videoLevel h, fun h => ?_⟩
  simp only [stored, markParsed, h]

/-- Without a negative zero, what is read back is what was stored. -/
theorem stored_eq {d : Descriptor} (hnumber : ∀ x ∈ d.duration, Number.isNotANumber x = false)
    (hfits : d.LevelFits) (hzero : d.duration ≠ some (-0.0)) : d.stored = d.markParsed := by
  have hduration : d.duration.bind Cell.storedNumber? = d.duration := by
    cases h : d.duration with
    | none => rfl
    | some x =>
      have hx : x ≠ -0.0 := fun heq => hzero (by rw [h, heq])
      exact Cell.storedNumber?_eq (hnumber x h) hx
  simp only [stored, markParsed, hduration, storedLevel?_eq_iff.mpr hfits]

end Descriptor

/-! ## Cells -/

namespace FileCells

variable (d : Descriptor)

/-- A size comes back whole, although it is stored with a sign. -/
theorem readSize_ofDescriptor : (ofDescriptor d).readSize = .ok d.size := by
  unfold readSize ofDescriptor
  cases d.size with
  | none => rfl
  | some n =>
    have hbounds : Cell.least ≤ n.toInt64.toInt ∧ n.toInt64.toInt ≤ Cell.greatest := by
      have hlow := n.toInt64.le_toInt
      have hhigh := n.toInt64.toInt_lt
      unfold Cell.least Cell.greatest
      omega
    simp only [Cell.optional, Cell.readInt_integer _ hbounds, Except.map, Option.map_some,
      ofInt_toInt64]

theorem readThumbnail_ofDescriptor : (ofDescriptor d).readThumbnail = .ok d.thumbnail := by
  unfold readThumbnail readText readWord ofDescriptor
  cases d.thumbnail with
  | none => rfl
  | some t =>
    simp only [Cell.readBytes_blob, Cell.readText_text, Cell.readWord_word, Option.map_some,
      Option.bind_some, Option.getD_some, bind, Except.bind, pure, Except.pure]

theorem readExtras_ofDescriptor : (ofDescriptor d).readExtras = .ok d.extras := by
  unfold readExtras readText ofDescriptor
  cases hempty : d.extras.isEmpty with
  | true =>
    have hentries : d.extras.entries = [] := List.isEmpty_iff.mp hempty
    have hextras : d.extras = .empty := by
      rw [← Extras.ofList_entries d.extras, hentries]
      rfl
    simp [Cell.readText, Except.map, hextras, Extras.ofList]
  | false =>
    simp [Cell.readText, Except.map, Json.readTexts?_writeTexts, Extras.ofList_entries]

/-- **The row of a file is read as the descriptor that was put into it**, without the tracks. -/
theorem descriptor_ofDescriptor :
    (ofDescriptor d).descriptor =
      .ok { d.stored with audioTracks := [], subtitleTracks := [], parsed := false } := by
  unfold descriptor readName readText readWord readByte
  rw [readSize_ofDescriptor, readThumbnail_ofDescriptor, readExtras_ofDescriptor]
  simp only [ofDescriptor, Cell.readText_text, Cell.readWord_word, Cell.readByte_byte,
    Cell.readFloat_ofFloat, Cell.insist_ok, Cell.readMediaType_code, Except.map, bind, Except.bind,
    pure, Except.pure, bind_map_of_inverse Format.ofName?_name,
    bind_map_of_inverse RateMode.ofText?_name, bind_map_of_inverse ScanType.ofText?_name,
    bind_map_of_inverse ScanOrder.ofText?_name, Descriptor.stored, Descriptor.storedLevel?,
    Descriptor.markParsed]

end FileCells

theorem AudioCells.track_ofTrack (t : AudioTrack) : (AudioCells.ofTrack t).track = .ok t := by
  have hdelay : (AudioCells.ofTrack t).readDelay = .ok t.delay := by
    unfold readDelay ofTrack
    cases t.delay with
    | none => rfl
    | some n =>
      have hbounds : -0x80000000 ≤ n.toInt ∧ n.toInt ≤ 0x7fffffff := by
        have hlow := n.le_toInt
        have hhigh := n.toInt_lt
        omega
      simp only [Cell.optional, Cell.readInt_integer _ hbounds, Except.map, Option.map_some,
        Int32.ofInt_toInt]
  unfold track readText readWord
  rw [hdelay]
  simp only [ofTrack, Cell.readText_text, Cell.readWord_word, Cell.insist_ok, Except.map, bind,
    Except.bind, pure, Except.pure, bind_map_of_inverse Format.ofName?_name,
    bind_map_of_inverse RateMode.ofText?_name]

theorem SubtitleCells.track_ofTrack (t : SubtitleTrack) :
    (SubtitleCells.ofTrack t).track = .ok t := by
  unfold track
  simp only [ofTrack, Cell.readText_text, Cell.readWord_word, Cell.insist_ok, Cell.readBool_ofBool,
    Except.map, bind, Except.bind, pure, Except.pure,
    bind_map_of_inverse SubtitleFormat.ofName?_name]

/-! ## Tracks at their places -/

namespace Cache

/-- Rows of tracks at the places from one on, without a gap. -/
def rowsFrom {κ : Type} : (place : Int) → List (κ → Cell) → List (TrackRow κ)
  | _, [] => []
  | place, cells :: rest => ⟨place, cells⟩ :: rowsFrom (place + 1) rest

/-- A list laid over another one: it covers as many places as it has. -/
def overlay {α : Type} (new old : List α) : List α := new ++ old.drop new.length

theorem overlay_nil {α : Type} (new : List α) : overlay new [] = new := by
  simp [overlay]

theorem map_overlay {α β : Type} (f : α → β) (new old : List α) :
    (overlay new old).map f = overlay (new.map f) (old.map f) := by
  simp [overlay]

theorem getElem?_overlay {α : Type} (new old : List α) (i : Nat) :
    (overlay new old)[i]? = new[i]?.or old[i]? := by
  unfold overlay
  by_cases h : i < new.length
  · rw [List.getElem?_append_left h, List.getElem?_eq_getElem h, Option.some_or]
  · have hle := Nat.le_of_not_lt h
    rw [List.getElem?_append_right hle, List.getElem?_drop, Nat.add_sub_cancel' hle,
      List.getElem?_eq_none hle, Option.none_or]

variable {κ α : Type}

theorem placeTracks_cons (r : TrackRow κ) (rows : List (TrackRow κ)) (cells : List (κ → Cell))
    {place : Int} (h : r.place < place) :
    placeTracks place cells (r :: rows) = r :: placeTracks place cells rows := by
  induction cells generalizing place rows with
  | nil => rfl
  | cons first rest ih =>
    -- the first place lies behind this row, so writing goes on after it
    have hskip : placeTrack ⟨place, first⟩ (r :: rows) = r :: placeTrack ⟨place, first⟩ rows := by
      rw [placeTrack, if_neg (by simpa using Int.le_of_lt h),
        if_neg (by simpa using Int.ne_of_gt h)]
    rw [placeTracks, placeTracks, hskip]
    exact ih _ (Int.lt_trans h (Int.lt_succ place))

/-- **Tracks that are written place by place lie over the old ones.** -/
theorem placeTracks_rowsFrom (place : Int) (new old : List (κ → Cell)) :
    placeTracks place new (rowsFrom place old) = rowsFrom place (overlay new old) := by
  induction new generalizing place old with
  | nil => rfl
  | cons first rest ih =>
    have hplace : placeTrack ⟨place, first⟩ (rowsFrom place old) =
        ⟨place, first⟩ :: rowsFrom (place + 1) old.tail := by
      cases old with
      | nil => rfl
      | cons other others => simp [rowsFrom, placeTrack]
    rw [placeTracks, hplace, placeTracks_cons _ _ _ (Int.lt_succ place), ih]
    cases old with
    | nil => simp [overlay, rowsFrom]
    | cons other others => rfl

theorem length_rowsFrom (place : Int) (cells : List (κ → Cell)) :
    (rowsFrom place cells).length = cells.length := by
  induction cells generalizing place with
  | nil => rfl
  | cons first rest ih => rw [rowsFrom, List.length_cons, ih, List.length_cons]

theorem readTracks_rowsFrom {read : (κ → Cell) → Except CellFault α} {store : α → κ → Cell}
    (hread : ∀ t, read (store t) = .ok t) (place : Int) (tracks : List α) :
    readTracks read (rowsFrom place (tracks.map store)) = .ok tracks := by
  induction tracks generalizing place with
  | nil => rfl
  | cons t rest ih => simp only [List.map_cons, rowsFrom, readTracks, hread, ih, Except.map]

/-! ## Whole rows -/

/-- Whether a row holds a descriptor: in the cells of the file, and in rows for the tracks without a
gap between them. -/
structure Holds (r : FileRow) (d : Descriptor) : Prop where
  cells : r.cells = .ofDescriptor d
  audio : r.audio = rowsFrom 0 (d.audioTracks.map AudioCells.ofTrack)
  subtitles : r.subtitles = rowsFrom 0 (d.subtitleTracks.map SubtitleCells.ofTrack)

/-- Whatever is read from a row is complete. -/
theorem parsed_of_readRow {r : FileRow} {d : Descriptor} (h : readRow r = .ok d) :
    d.parsed = true := by
  unfold readRow at h
  cases hfile : r.cells.descriptor with
  | error fault => simp [hfile] at h
  | ok file =>
    cases haudio : readTracks AudioCells.track r.audio with
    | error fault => simp [hfile, haudio] at h
    | ok audio =>
      cases hsubtitles : readTracks SubtitleCells.track r.subtitles with
      | error fault => simp [hfile, haudio, hsubtitles, Except.map] at h
      | ok subtitles =>
        simp only [hfile, haudio, hsubtitles, Except.map, Except.ok.injEq] at h
        rw [← h]
        rfl

/-- **A row is read as the descriptor it holds**, as far as that can be stored. -/
theorem readRow_of_holds {r : FileRow} {d : Descriptor} (h : Holds r d) :
    readRow r = .ok d.stored := by
  unfold readRow
  rw [h.cells, h.audio, h.subtitles, FileCells.descriptor_ofDescriptor,
    readTracks_rowsFrom AudioCells.track_ofTrack, readTracks_rowsFrom SubtitleCells.track_ofTrack]
  rfl

end Cache

/-- A descriptor with its tracks laid over those of another one. -/
def Descriptor.over (d old : Descriptor) : Descriptor :=
  { d with
    audioTracks := Cache.overlay d.audioTracks old.audioTracks
    subtitleTracks := Cache.overlay d.subtitleTracks old.subtitleTracks }

namespace Cache

/-- **Storing into a row that holds a descriptor** leaves the tracks beyond the new ones. -/
theorem Holds.fillRow {r : FileRow} {old : Descriptor} (h : Holds r old) (d : Descriptor) :
    Holds (fillRow d r) (d.over old) where
  cells := rfl
  audio := by
    simp only [Cache.fillRow, h.audio, placeTracks_rowsFrom, Descriptor.over, map_overlay]
  subtitles := by
    simp only [Cache.fillRow, h.subtitles, placeTracks_rowsFrom, Descriptor.over, map_overlay]

theorem holds_fillRow_new {r : FileRow} (haudio : r.audio = []) (hsubtitles : r.subtitles = [])
    (d : Descriptor) : Holds (Cache.fillRow d r) d where
  cells := rfl
  audio := by
    rw [Cache.fillRow, haudio]
    exact (placeTracks_rowsFrom 0 _ []).trans (by rw [overlay_nil])
  subtitles := by
    rw [Cache.fillRow, hsubtitles]
    exact (placeTracks_rowsFrom 0 _ []).trans (by rw [overlay_nil])

/-- A row has a thumbnail exactly if its descriptor has one. -/
theorem Holds.hasThumbnail_eq {r : FileRow} {d : Descriptor} (h : Holds r d) :
    hasThumbnail r = d.thumbnail.isSome := by
  unfold hasThumbnail
  rw [h.cells]
  simp only [FileCells.ofDescriptor]
  cases d.thumbnail <;> rfl

/-- Dropping the thumbnail of a row drops the one of its descriptor. Where there is none, there is
also nothing that goes with it. -/
theorem Holds.dropThumbnail {r : FileRow} {d : Descriptor} (h : Holds r d) :
    Holds (if hasThumbnail r then { r with cells := Cache.withoutThumbnail r.cells } else r)
      d.withoutThumbnail := by
  have hcells : Cache.withoutThumbnail r.cells = .ofDescriptor d.withoutThumbnail := by
    rw [h.cells]
    funext k
    cases k <;> rfl
  have hpresent := h.hasThumbnail_eq
  cases hthumbnail : d.thumbnail with
  | some t =>
    rw [hpresent, hthumbnail]
    exact ⟨hcells, h.audio, h.subtitles⟩
  | none =>
    -- such a row is not touched, and its descriptor has nothing to lose
    rw [hpresent, hthumbnail, Descriptor.withoutThumbnail_eq_self hthumbnail]
    exact h

end Cache

end MediaIndex
