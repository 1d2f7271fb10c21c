import MediaIndex.Proofs.Indexing.Writes

/-!
# What a scan stores when nothing is refused

The other half of the rules for stores. They say what may be stored at most; here it is said what is
stored in any case, as long as the cache refuses nothing of it. A file that can be probed gets its
row, a track gets its row if its file has a time, and so does a sheet if that holds of all its
tracks (`Has`). What one step has stored is still there when the others are done (`foldl_stores`).
-/

set_option autoImplicit false

namespace MediaIndex

open Cache

namespace ScanState

variable {disk : Disk} {probe : Path → ProbeAnswer} {style : CompositionStyle} {force : Bool}
variable {s : ScanState}

theorem contains_storeAnswer {media : List Candidate} {x : Candidate} {d : Descriptor}
    (hwilling : s.cache.Willing (MediaRule probe media)) (hx : x ∈ media)
    (hanswer : probe x.path = .ok d) :
    (s.storeAnswer (x, probe x.path)).cache.contains x.path x.modified = true := by
  have hstep := answerStored s x (probe x.path)
  generalize s.storeAnswer (x, probe x.path) = next at hstep ⊢
  cases hstep with
  | failed failed => exact absurd (hanswer.symm.trans failed) (by simp)
  | refused ok refused =>
    exact absurd refused (upsert_ne_error (hwilling s.cache _ _ _ ⟨hx, ok⟩) _)
  | stored ok stored => exact (contains_upsert stored).mpr (Or.inr ⟨rfl, rfl⟩)

/-- What each step stores for its item is there at the end. -/
theorem foldl_stores {α : Type} {f : ScanState → α → ScanState} {items : List α}
    (allowed : StoreRule) (P : α → Cache → Prop)
    (hgrows : ∀ s, ∀ a ∈ items, Grows allowed s.cache (f s a).cache)
    (hstores : ∀ s, ∀ a ∈ items, s.cache.Willing allowed → P a (f s a).cache)
    (hkept : ∀ a c c', Grows allowed c c' → P a c → P a c')
    (hwilling : s.cache.Willing allowed) :
    ∀ a ∈ items, P a (items.foldl f s).cache := by
  induction items generalizing s with
  | nil => exact fun a ha => absurd ha (by simp)
  | cons a rest ih =>
    have hrest : ∀ s, ∀ b ∈ rest, Grows allowed s.cache (f s b).cache :=
      fun s b hb => hgrows s b (List.mem_cons_of_mem a hb)
    intro b hb
    rcases List.mem_cons.mp hb with rfl | hb
    · -- the later steps keep what the step has stored
      exact hkept b _ _ (grows_foldl hrest (f s b)) (hstores s b List.mem_cons_self hwilling)
    · exact ih hrest (fun s x hx => hstores s x (List.mem_cons_of_mem a hx))
        ((hgrows s a List.mem_cons_self).willing hwilling) b hb

theorem contains_probeMedia {media : List Candidate} {x : Candidate} {d : Descriptor}
    (hwilling : s.cache.Willing (MediaRule probe media)) (workers : Nat) (hx : x ∈ media)
    (hanswer : probe x.path = .ok d) :
    (s.probeMedia probe workers media).cache.contains x.path x.modified = true := by
  rw [probeMedia_eq, List.foldl_map]
  refine foldl_stores (MediaRule probe media)
    (fun x c => ∀ d, probe x.path = .ok d → c.contains x.path x.modified = true)
    ?_ ?_ ?_ hwilling x hx d hanswer
  · exact fun s x hx => grows_storeAnswer hx s
  · exact fun s x hx hwilling d hanswer => contains_storeAnswer hwilling hx hanswer
  · exact fun x c c' hgrows h d hanswer => hgrows.keeps (h d hanswer)

/-- Storing a track fails only if its file has no time. -/
theorem storeTrack_willing {tracks : List VirtualTrack} {t : VirtualTrack} (ht : t ∈ tracks)
    (hwilling : s.cache.Willing (TrackRule disk force tracks)) :
    ((s.storeTrack disk force t).2 = false ↔ ∃ time, disk.modified t.path = .ok time) ∧
    ∀ time, disk.modified t.path = .ok time →
      (s.storeTrack disk force t).1.cache.contains t.reference.text time = true := by
  have hstep := trackStored disk force s t
  generalize s.storeTrack disk force t = next at hstep ⊢
  cases hstep with
  | timeless modified => simp [modified]
  | skipped modified free there =>
    refine ⟨by simp [modified], fun time htime => ?_⟩
    obtain rfl := Except.ok.inj (modified.symm.trans htime)
    exact there
  | refused modified missing refused =>
    exact absurd refused (upsert_ne_error (hwilling s.cache _ _ _ (.mk ht modified missing)) _)
  | stored modified missing stored =>
    refine ⟨by simp [modified], fun time htime => ?_⟩
    obtain rfl := Except.ok.inj (modified.symm.trans htime)
    exact (contains_upsert stored).mpr (Or.inr ⟨rfl, rfl⟩)

theorem storeTracks_willing {all tracks : List VirtualTrack} (hall : ∀ t ∈ tracks, t ∈ all)
    (hwilling : s.cache.Willing (TrackRule disk force all)) :
    ((s.storeTracks disk force tracks).2 = 0 ↔
      ∀ t ∈ tracks, ∃ time, disk.modified t.path = .ok time) ∧
    ∀ t ∈ tracks, ∀ time, disk.modified t.path = .ok time →
      (s.storeTracks disk force tracks).1.cache.contains t.reference.text time = true := by
  induction tracks generalizing s with
  | nil => simp [storeTracks]
  | cons t rest ih =>
    obtain ⟨ht, hmore⟩ := List.forall_mem_cons.mp hall
    obtain ⟨hfailed, hstored⟩ := storeTrack_willing ht hwilling
    have hgrows : Grows (TrackRule disk force all) s.cache (s.storeTrack disk force t).1.cache :=
      grows_storeTrack ht s
    obtain ⟨hrest, hothers⟩ := ih hmore (hgrows.willing hwilling)
    have hlater : Grows (TrackRule disk force all) (s.storeTrack disk force t).1.cache _ :=
      grows_storeTracks disk force hmore (s.storeTrack disk force t).1
    refine ⟨?_, fun t' ht' time htime => ?_⟩
    · rw [List.forall_mem_cons, ← hfailed, ← hrest, storeTracks]
      dsimp only
      cases (s.storeTrack disk force t).2 <;> simp
    · rcases List.mem_cons.mp ht' with rfl | ht'
      · exact hlater.keeps (hstored time htime)
      · exact hothers t' ht' time htime

theorem afterTracks_willing {sheet : Candidate}
    (hwilling : s.cache.Willing (SheetRule disk probe style force sheet)) :
    ((s.afterTracks disk probe style force sheet.path).2 = 0 ↔
      ∀ t ∈ (CueSheet.composeFile disk style probe sheet.path).tracks,
        ∃ time, disk.modified t.path = .ok time) ∧
    ∀ t ∈ (CueSheet.composeFile disk style probe sheet.path).tracks, ∀ time,
      disk.modified t.path = .ok time →
      (s.afterTracks disk probe style force sheet.path).1.cache.contains t.reference.text time =
        true :=
  storeTracks_willing (fun _ h => h) (hwilling.mono fun _ _ _ _ => Or.inl)

/-- Whether a cache has all that can be stored of a sheet. -/
structure Has (disk : Disk) (probe : Path → ProbeAnswer) (style : CompositionStyle) (c : Cache)
    (sheet : Candidate) : Prop where
  tracks : ∀ t ∈ (CueSheet.composeFile disk style probe sheet.path).tracks, ∀ time,
    disk.modified t.path = .ok time → c.contains t.reference.text time = true
  mark : (∀ t ∈ (CueSheet.composeFile disk style probe sheet.path).tracks,
    ∃ time, disk.modified t.path = .ok time) → c.contains sheet.path sheet.modified = true

theorem Has.mono {allowed : StoreRule} {c c' : Cache} {sheet : Candidate}
    (h : Has disk probe style c sheet) (hgrows : Grows allowed c c') :
    Has disk probe style c' sheet :=
  ⟨fun t ht time htime => hgrows.keeps (h.tracks t ht time htime),
    fun htimes => hgrows.keeps (h.mark htimes)⟩

theorem has_composeSheet {sheet : Candidate}
    (hwilling : s.cache.Willing (SheetRule disk probe style force sheet)) :
    Has disk probe style (s.composeSheet disk probe style force sheet).cache sheet := by
  have hstep := sheetMarked disk probe style force s sheet
  obtain ⟨hfailed, hstored⟩ := afterTracks_willing hwilling
  have hlater := (grows_afterTracks disk probe style force s sheet).willing hwilling
  generalize s.afterTracks disk probe style force sheet.path = stored at *
  generalize s.composeSheet disk probe style force sheet = next at hstep ⊢
  cases hstep with
  | incomplete some =>
    exact ⟨hstored, fun htimes => absurd (hfailed.mpr htimes) (by omega)⟩
  | refused none refused =>
    exact absurd refused (upsert_ne_error (hlater s.cache _ _ _ (Or.inr ⟨rfl, rfl, rfl⟩)) _)
  | marked none marked =>
    refine ⟨fun t ht time htime => ?_, fun _ => (contains_upsert marked).mpr (Or.inr ⟨rfl, rfl⟩)⟩
    exact (contains_upsert marked).mpr (Or.inl (hstored t ht time htime))

end ScanState

end MediaIndex
