import MediaIndex.Cue.Composition

/-!
# What the sections of a sheet become

Composing goes over the sections one after the other and takes two things along: the number of the
next track and the file that is open. With both written down for each section (`opened`) the tracks
are those of the sections, one section after the other, and none depends on another.

> **`tracks_composeSections`**: the tracks are those of the sections, each with its own file.
> **`file_of_mem_opened`**: the file of a section is the one that the sheet names, probed and
> usable.
> **`length_tracks_compose`**: every track of the sheet is composed exactly if every section that
> has tracks has a file, as it does when all files that are named can be used
> (`complete_of_usable`).
-/

set_option autoImplicit false

namespace MediaIndex

namespace CueSheet

variable {s : CueSheet} {style : CompositionStyle} {directory : Path} {probe : Path → ProbeAnswer}

/-! ## One section -/

theorem getElem?_sectionTracks (path : Path) (file : Descriptor) (number : Nat)
    (tracks : List CueTrack) (i : Nat) :
    (s.sectionTracks style path file number tracks)[i]? =
      tracks[i]?.map fun t => s.virtualTrack style path file (number + i) t
        ((tracks[i + 1]?.map (·.start)).getD (Number.infinity false)) := by
  induction tracks generalizing number i with
  | nil => simp [sectionTracks]
  | cons t rest ih =>
    cases i with
    | zero => simp [sectionTracks, List.head?_eq_getElem?]
    | succ i =>
      simp only [sectionTracks, List.getElem?_cons_succ, ih]
      rw [Nat.add_right_comm, Nat.add_assoc number i 1]

theorem length_sectionTracks (path : Path) (file : Descriptor) (number : Nat)
    (tracks : List CueTrack) :
    (s.sectionTracks style path file number tracks).length = tracks.length := by
  induction tracks generalizing number with
  | nil => rfl
  | cons t rest ih => simp [sectionTracks, ih]

/-- A section as it is composed: with the number of its first track and the file that is open. -/
structure OpenedSection where
  content : CueSection
  number : Nat
  file : OpenFile

/-- The tracks of a section. -/
def OpenedSection.tracks (s : CueSheet) (style : CompositionStyle) (o : OpenedSection) :
    List VirtualTrack :=
  match o.file with
  | some (path, file) => s.sectionTracks style path file o.number o.content.tracks
  | none => []

theorem OpenedSection.length_tracks (o : OpenedSection) :
    (o.tracks s style).length = if o.file.isSome then o.content.tracks.length else 0 := by
  unfold tracks
  cases o.file with
  | none => rfl
  | some f => exact length_sectionTracks f.1 f.2 o.number o.content.tracks

/-! ## All sections -/

/-- The sections from one on, as they are composed. -/
def openedFrom (directory : Path) (probe : Path → ProbeAnswer) :
    OpenFile → Nat → List CueSection → List OpenedSection
  | _, _, [] => []
  | current, number, f :: rest =>
    let next := (openFile probe (Path.join directory f.file) current).1
    ⟨f, number, next⟩ :: openedFrom directory probe next (number + f.tracks.length) rest

theorem tracks_composeSections (current : OpenFile) (number : Nat) (sections : List CueSection) :
    (s.composeSections style directory probe current number sections).tracks =
      (openedFrom directory probe current number sections).flatMap (·.tracks s style) := by
  induction sections generalizing current number with
  | nil => rfl
  | cons f rest ih =>
    rw [openedFrom, List.flatMap_cons, ← ih, composeSections]
    rfl

theorem map_content_openedFrom (current : OpenFile) (number : Nat) (sections : List CueSection) :
    (openedFrom directory probe current number sections).map (·.content) = sections := by
  induction sections generalizing current number with
  | nil => rfl
  | cons f rest ih => simp [openedFrom, ih]

/-- Whether a file was probed and can be used. -/
def Usable (probe : Path → ProbeAnswer) (path : Path) (file : Descriptor) : Prop :=
  probe path = .ok file ∧ isUsableFile file = true

/-- What is open after a file was to be opened: a file with the same path that can be used. -/
theorem usable_openFile (path : Path) {current : OpenFile}
    (hcurrent : ∀ f ∈ current, Usable probe f.1 f.2) :
    ∀ f ∈ (openFile probe path current).1, Path.same f.1 path = true ∧ Usable probe f.1 f.2 := by
  intro f hf
  unfold openFile at hf
  split at hf
  · rename_i hsame
    obtain rfl : current = some f := hf
    exact ⟨by simpa using hsame, hcurrent f rfl⟩
  · split at hf
    · rename_i d hanswer
      split at hf
      · rename_i husable
        obtain rfl : (path, d) = f := Option.some.inj hf
        exact ⟨by simp [Path.same], hanswer, husable⟩
      · exact absurd hf (by simp)
    · exact absurd hf (by simp)

/-- A file that can be used is opened. -/
theorem isSome_openFile {path : Path} {file : Descriptor} (h : Usable probe path file)
    (current : OpenFile) : (openFile probe path current).1.isSome = true := by
  unfold openFile
  split
  · rename_i hsame
    cases current with
    | none => exact absurd hsame (by simp)
    | some f => rfl
  · simp [h.1, h.2]

/-- **The file of a section is the one that the sheet names**, if there is one. -/
theorem file_of_mem_openedFrom {current : OpenFile} {number : Nat} {sections : List CueSection}
    {o : OpenedSection} (hcurrent : ∀ f ∈ current, Usable probe f.1 f.2)
    (ho : o ∈ openedFrom directory probe current number sections) :
    (∀ f ∈ o.file,
      Path.same f.1 (Path.join directory o.content.file) = true ∧ Usable probe f.1 f.2) ∧
    ((∃ file, Usable probe (Path.join directory o.content.file) file) → o.file.isSome = true) := by
  induction sections generalizing current number with
  | nil => exact absurd ho (by simp [openedFrom])
  | cons f rest ih =>
    have hopened := usable_openFile (Path.join directory f.file) hcurrent
    rcases List.mem_cons.mp ho with rfl | ho
    · exact ⟨hopened, fun ⟨file, hfile⟩ => isSome_openFile hfile current⟩
    · exact ih (fun f hf => (hopened f hf).2) ho

/-! ## Whole sheets -/

/-- The sections of a sheet, as they are composed. -/
def opened (s : CueSheet) (directory : Path) (probe : Path → ProbeAnswer) : List OpenedSection :=
  openedFrom directory probe none 1 s.sections

theorem map_content_opened : (s.opened directory probe).map (·.content) = s.sections :=
  map_content_openedFrom none 1 s.sections

theorem tracks_compose :
    (s.compose style directory probe).tracks =
      (s.opened directory probe).flatMap (·.tracks s style) :=
  tracks_composeSections none 1 s.sections

theorem file_of_mem_opened {o : OpenedSection} (ho : o ∈ s.opened directory probe) :
    (∀ f ∈ o.file,
      Path.same f.1 (Path.join directory o.content.file) = true ∧ Usable probe f.1 f.2) ∧
    ((∃ file, Usable probe (Path.join directory o.content.file) file) → o.file.isSome = true) :=
  file_of_mem_openedFrom (fun f hf => absurd hf (by simp)) ho

theorem content_of_mem_opened {o : OpenedSection} (ho : o ∈ s.opened directory probe) :
    o.content ∈ s.sections := by
  rw [← map_content_opened]
  exact List.mem_map_of_mem ho

/-- Whether there is a file for every section that has tracks. -/
def Complete (s : CueSheet) (directory : Path) (probe : Path → ProbeAnswer) : Prop :=
  ∀ o ∈ s.opened directory probe, o.content.tracks ≠ [] → o.file.isSome = true

/-- A sheet is complete if all files that it names for tracks can be used. -/
theorem complete_of_usable
    (h : ∀ f ∈ s.sections, f.tracks ≠ [] →
      ∃ file, Usable probe (Path.join directory f.file) file) : s.Complete directory probe := by
  intro o ho htracks
  exact (file_of_mem_opened ho).2 (h o.content (content_of_mem_opened ho) htracks)

theorem length_flatMap_eq_iff {α β γ : Type} {f : α → List β} {g : α → List γ} {l : List α}
    (hle : ∀ a ∈ l, (f a).length ≤ (g a).length) :
    (l.flatMap f).length ≤ (l.flatMap g).length ∧
      ((l.flatMap f).length = (l.flatMap g).length ↔ ∀ a ∈ l, (f a).length = (g a).length) := by
  induction l with
  | nil => simp
  | cons a rest ih =>
    obtain ⟨ha, hrest⟩ := List.forall_mem_cons.mp hle
    obtain ⟨hless, hsame⟩ := ih hrest
    rw [List.flatMap_cons, List.flatMap_cons, List.length_append, List.length_append,
      List.forall_mem_cons, ← hsame]
    omega

/-- **Every track of a sheet is composed** exactly if the sheet is complete. -/
theorem length_tracks_compose :
    (s.compose style directory probe).tracks.length = s.trackCount ↔
      s.Complete directory probe := by
  have hcount : s.trackCount =
      ((s.opened directory probe).flatMap (·.content.tracks)).length := by
    rw [trackCount, ← map_content_opened, List.flatMap_map]
  have hsection : ∀ o : OpenedSection, (o.tracks s style).length = o.content.tracks.length ↔
      (o.content.tracks ≠ [] → o.file.isSome = true) := by
    intro o
    rw [OpenedSection.length_tracks, ← List.length_pos_iff]
    cases o.file.isSome with
    | true => simp
    | false => simp [eq_comm]
  have hle : ∀ o ∈ s.opened directory probe,
      (o.tracks s style).length ≤ o.content.tracks.length := by
    intro o _
    rw [OpenedSection.length_tracks]
    split <;> omega
  -- no section has too many tracks, so the lengths agree only if no section has too few
  rw [tracks_compose, hcount, (length_flatMap_eq_iff hle).2]
  exact forall₂_congr fun o _ => hsection o

/-- **What the virtual tracks of a sheet are**: one for each track of a section that has a file. -/
theorem mem_tracks_compose {v : VirtualTrack} :
    v ∈ (s.compose style directory probe).tracks ↔
      ∃ o ∈ s.opened directory probe, ∃ f ∈ o.file, ∃ i t, o.content.tracks[i]? = some t ∧
        v = s.virtualTrack style f.1 f.2 (o.number + i) t
          ((o.content.tracks[i + 1]?.map (·.start)).getD (Number.infinity false)) := by
  rw [tracks_compose, List.mem_flatMap]
  refine exists_congr fun o => and_congr_right fun _ => ?_
  rw [OpenedSection.tracks]
  cases o.file with
  | none => simp
  | some f =>
    rw [List.mem_iff_getElem?]
    constructor
    · rintro ⟨i, hi⟩
      rw [getElem?_sectionTracks] at hi
      obtain ⟨t, ht, rfl⟩ := Option.map_eq_some_iff.mp hi
      exact ⟨f, rfl, i, t, ht, rfl⟩
    · rintro ⟨f', hf', i, t, ht, rfl⟩
      obtain rfl : f = f' := Option.some.inj hf'
      refine ⟨i, ?_⟩
      rw [getElem?_sectionTracks, ht]
      rfl

/-! ## Probing -/

/-- The files that a sheet names. -/
def targets (s : CueSheet) (directory : Path) : List Path :=
  s.sections.map fun f => Path.join directory f.file

theorem probed_openFile {path : Path} {current : OpenFile} :
    ∀ p ∈ (openFile probe path current).2, p = path := by
  intro p hp
  unfold openFile at hp
  split at hp
  · exact absurd hp (by simp)
  · split at hp <;> simpa using hp

/-- Composing probes no files but those that the sheet names. -/
theorem probed_compose :
    ∀ p ∈ (s.compose style directory probe).probed, p ∈ s.targets directory := by
  have hsections : ∀ (sections : List CueSection) (current : OpenFile) (number : Nat),
      ∀ p ∈ (s.composeSections style directory probe current number sections).probed,
        p ∈ sections.map fun f => Path.join directory f.file := by
    intro sections
    induction sections with
    | nil => exact fun _ _ p hp => absurd hp (by simp [composeSections])
    | cons f rest ih =>
      intro current number p hp
      rcases List.mem_append.mp hp with hp | hp
      · exact List.mem_cons.mpr (Or.inl (probed_openFile p hp))
      · exact List.mem_cons_of_mem _ (ih _ _ p hp)
  exact hsections s.sections none 1

end CueSheet

end MediaIndex
