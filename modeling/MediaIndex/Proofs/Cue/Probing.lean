import Mathlib.Data.List.Nodup
import MediaIndex.Proofs.Cue.Composition

/-!
# How often the files of a sheet are probed

The file of a section stays open until the next section, and only if it could be used. So a file is
probed again if the sheet comes back to it after another one, and if it could not be used the time
before. Whether a section has tracks is not looked at before its file is probed.

> **`probedOnce_iff`**: a sheet has each of its files probed once, and none in vain, just if the
> sections of each file stand together and could open it (`Together`), and no section names a file
> for which the sheet has no tracks.
-/

set_option autoImplicit false

namespace MediaIndex

namespace CueSheet

variable {s : CueSheet} {style : CompositionStyle} {directory : Path} {probe : Path → ProbeAnswer}

/-! ## The probes of the sections -/

/-- The file that a section names: paths with the same components name the same. -/
def OpenedSection.target (directory : Path) (o : OpenedSection) : List String :=
  (Path.join directory o.content.file).components

/-- The file that is open. -/
def held? (current : OpenFile) : Option (List String) := current.map fun f => f.1.components

/-- The files that are probed for the sections from one on, if a given file is open before. -/
def probes (directory : Path) : Option (List String) → List OpenedSection → List (List String)
  | _, [] => []
  | held, o :: rest =>
    (if held = some (o.target directory) then [] else [o.target directory]) ++
      probes directory (held? o.file) rest

theorem probed_openFile_components (probe : Path → ProbeAnswer) (path : Path)
    (current : OpenFile) :
    (openFile probe path current).2.map Path.components =
      if held? current = some path.components then [] else [path.components] := by
  have hsame : (current.any fun f => Path.same f.1 path) = true ↔
      held? current = some path.components := by
    cases current <;> simp [held?, Path.same]
  unfold openFile
  split
  · rename_i hany
    rw [if_pos (hsame.mp hany)]
    rfl
  · rename_i hany
    rw [if_neg (hsame.not.mp hany)]
    split <;> rfl

theorem probed_composeSections (current : OpenFile) (number : Nat) (sections : List CueSection) :
    (s.composeSections style directory probe current number sections).probed.map Path.components =
      probes directory (held? current) (openedFrom directory probe current number sections) := by
  induction sections generalizing current number with
  | nil => rfl
  | cons f rest ih =>
    change List.map Path.components ((openFile probe (Path.join directory f.file) current).2 ++ _) =
      probes directory _ (⟨f, number, _⟩ :: _)
    rw [List.map_append, probed_openFile_components, probes, ← ih]
    rfl

/-! ## Files that are probed again -/

/-- Whether the file that a section opens, if it opens one, is the one that it names. -/
def OpenedSection.OpensTarget (directory : Path) (o : OpenedSection) : Prop :=
  held? o.file = if o.file.isSome then some (o.target directory) else none

theorem OpenedSection.OpensTarget.held?_ne {o : OpenedSection} {k : List String}
    (ho : o.OpensTarget directory) (hk : o.target directory ≠ k) : held? o.file ≠ some k := by
  rw [ho]
  split <;> simp [hk]

theorem opensTarget_of_mem_opened {o : OpenedSection} (ho : o ∈ s.opened directory probe) :
    o.OpensTarget directory := by
  have hsame := (file_of_mem_opened ho).1
  unfold OpenedSection.OpensTarget
  cases hfile : o.file with
  | none => rfl
  | some f => simpa [held?, Path.same, OpenedSection.target] using (hsame f hfile).1

/-- A file that is not open before a section is probed for it or for a later one, if they name
it. -/
theorem mem_probes_iff {k : List String} {os : List OpenedSection}
    (hos : ∀ o ∈ os, o.OpensTarget directory) {held : Option (List String)}
    (hheld : held ≠ some k) :
    k ∈ probes directory held os ↔ ∃ o ∈ os, o.target directory = k := by
  induction os generalizing held with
  | nil => simp [probes]
  | cons o rest ih =>
    obtain ⟨ho, hrest⟩ := List.forall_mem_cons.mp hos
    rw [probes, List.mem_append]
    by_cases hk : o.target directory = k
    · subst hk
      exact iff_of_true (Or.inl (by simp [hheld])) ⟨o, List.mem_cons_self, rfl⟩
    · have hhead : k ∉ (if held = some (o.target directory) then [] else [o.target directory]) := by
        split <;> simp [Ne.symm hk]
      rw [ih hrest (ho.held?_ne hk), List.exists_mem_cons_iff]
      simp [hhead, hk]

/-- Whether the sections of each file stand together: a file that a later section names is open
after each section that names it, and named by the next one. -/
def Together (directory : Path) : List OpenedSection → Prop
  | [] => True
  | o :: rest =>
    ((∃ later ∈ rest, later.target directory = o.target directory) →
      o.file.isSome = true ∧ ∃ next ∈ rest.head?, next.target directory = o.target directory) ∧
    Together directory rest

/-- What one section is probed for is not probed again just if the sections stand together. -/
theorem nodup_probes_iff {o : OpenedSection} {rest : List OpenedSection}
    (hos : ∀ o' ∈ o :: rest, o'.OpensTarget directory) :
    (o.target directory :: probes directory (held? o.file) rest).Nodup ↔
      Together directory (o :: rest) := by
  induction rest generalizing o with
  | nil => simp [probes, Together]
  | cons next rest ih =>
    obtain ⟨ho, hrest⟩ := List.forall_mem_cons.mp hos
    obtain ⟨hnext, hlater⟩ := List.forall_mem_cons.mp hrest
    rw [Together, ← ih hrest, probes]
    by_cases hsame : next.target directory = o.target directory
    · -- the next section finds its file open, unless it could not be used
      rw [hsame, ho]
      cases o.file.isSome with
      | true => simp [hsame]
      | false => simp [hsame]
    · -- the next section closes the file, so any later one that names it probes it again
      rw [if_neg (ho.held?_ne (Ne.symm hsame)), List.singleton_append, List.nodup_cons,
        List.mem_cons, mem_probes_iff hlater (hnext.held?_ne hsame)]
      simp [hsame, Ne.symm hsame]

/-! ## Whole sheets -/

theorem probed_compose_components :
    (s.compose style directory probe).probed.map Path.components =
      probes directory none (s.opened directory probe) :=
  probed_composeSections none 1 s.sections

theorem nodup_probed_iff :
    ((s.compose style directory probe).probed.map Path.components).Nodup ↔
      Together directory (s.opened directory probe) := by
  have hopens : ∀ o ∈ s.opened directory probe, o.OpensTarget directory :=
    fun _ => opensTarget_of_mem_opened
  rw [probed_compose_components]
  cases hopened : s.opened directory probe with
  | nil => simp [probes, Together]
  | cons o rest =>
    rw [hopened] at hopens
    simpa [probes] using nodup_probes_iff hopens

theorem countP_same_le_one_iff {l : List Path} :
    (∀ path, l.countP (Path.same path) ≤ 1) ↔ (l.map Path.components).Nodup := by
  have hcount : ∀ path : Path,
      (l.map Path.components).count path.components = l.countP (Path.same path) := by
    intro path
    rw [List.count, List.countP_map]
    refine List.countP_congr fun q _ => ?_
    rw [Function.comp, Path.same, beq_iff_eq, beq_iff_eq]
    exact eq_comm
  rw [List.nodup_iff_count_le_one]
  refine ⟨fun h k => ?_, fun h path => hcount path ▸ h path.components⟩
  by_cases hk : k ∈ l.map Path.components
  · obtain ⟨path, -, rfl⟩ := List.mem_map.mp hk
    exact hcount path ▸ h path
  · rw [List.count_eq_zero_of_not_mem hk]
    exact Nat.zero_le 1

/-- Whether a sheet has a track for a file. -/
def HasTracks (s : CueSheet) (directory path : Path) : Prop :=
  ∃ f ∈ s.sections, f.tracks ≠ [] ∧ Path.same path (Path.join directory f.file) = true

theorem HasTracks.of_same {path other : Path} (h : s.HasTracks directory path)
    (hsame : path.components = other.components) : s.HasTracks directory other := by
  unfold HasTracks Path.same at h ⊢
  rwa [← hsame]

/-- Whether composing a sheet probes its files as seldom as it can. -/
structure ProbedOnce (s : CueSheet) (style : CompositionStyle) (directory : Path)
    (probe : Path → ProbeAnswer) : Prop where
  once : ∀ path, s.HasTracks directory path →
    (s.compose style directory probe).probed.countP (Path.same path) ≤ 1
  needed : ∀ path ∈ (s.compose style directory probe).probed, s.HasTracks directory path

theorem exists_probed (style : CompositionStyle) (directory : Path) (probe : Path → ProbeAnswer)
    {f : CueSection} (hf : f ∈ s.sections) :
    ∃ path ∈ (s.compose style directory probe).probed,
      path.components = (Path.join directory f.file).components := by
  rw [← map_content_opened] at hf
  obtain ⟨o, ho, rfl⟩ := List.mem_map.mp hf
  have hmem : o.target directory ∈
      (s.compose style directory probe).probed.map Path.components := by
    rw [probed_compose_components,
      mem_probes_iff (fun _ => opensTarget_of_mem_opened) (by simp)]
    exact ⟨o, ho, rfl⟩
  exact List.mem_map.mp hmem

theorem needed_iff :
    (∀ path ∈ (s.compose style directory probe).probed, s.HasTracks directory path) ↔
      ∀ f ∈ s.sections, s.HasTracks directory (Path.join directory f.file) := by
  constructor
  · intro h f hf
    obtain ⟨path, hpath, hsame⟩ := exists_probed style directory probe hf
    exact (h path hpath).of_same hsame
  · intro h path hpath
    obtain ⟨f, hf, rfl⟩ := List.mem_map.mp (probed_compose path hpath)
    exact h f hf

/-- **When each file is probed once.** -/
theorem probedOnce_iff (s : CueSheet) (style : CompositionStyle) (directory : Path)
    (probe : Path → ProbeAnswer) :
    s.ProbedOnce style directory probe ↔
      Together directory (s.opened directory probe) ∧
      ∀ f ∈ s.sections, s.HasTracks directory (Path.join directory f.file) := by
  rw [← needed_iff, ← nodup_probed_iff, ← countP_same_le_one_iff]
  constructor
  · rintro ⟨honce, hneeded⟩
    refine ⟨fun path => ?_, hneeded⟩
    -- a file without tracks is not probed at all
    by_cases htracks : s.HasTracks directory path
    · exact honce path htracks
    · rw [List.countP_eq_zero.mpr fun q hq hsame => htracks ?_]
      · exact Nat.zero_le 1
      · exact (hneeded q hq).of_same (beq_iff_eq.mp hsame).symm
  · rintro ⟨honce, hneeded⟩
    exact ⟨fun path _ => honce path, hneeded⟩

/-- A sheet that goes from one file to another and back. -/
def roundTrip : CueSheet where
  sections := [⟨"a.flac", "WAVE", [⟨1, "AUDIO", {}, []⟩]⟩,
    ⟨"b.flac", "WAVE", [⟨2, "AUDIO", {}, []⟩]⟩, ⟨"a.flac", "WAVE", [⟨3, "AUDIO", {}, []⟩]⟩]

/-- A sheet of two sections for one file. -/
def twoParts : CueSheet where
  sections := [⟨"a.flac", "WAVE", [⟨1, "AUDIO", {}, []⟩]⟩,
    ⟨"a.flac", "WAVE", [⟨2, "AUDIO", {}, []⟩]⟩]

/-- A sheet that names a file and cuts nothing from it. -/
def uncut : CueSheet where
  sections := [⟨"a.flac", "WAVE", []⟩]

/-- A prober that knows every file. -/
def flacProbe (_ : Path) : ProbeAnswer := .ok { container := some .flac }

/-- A prober that knows none. -/
def noProbe (path : Path) : ProbeAnswer := .error (.unsupported path)

/-- A file is probed twice if the sheet comes back to it or if it cannot be used, and one without
tracks is probed too. -/
theorem probed_again :
    ((roundTrip.compose {} "m" flacProbe).probed = ["m/a.flac", "m/b.flac", "m/a.flac"] ∧
      ¬roundTrip.ProbedOnce {} "m" flacProbe) ∧
    ((twoParts.compose {} "m" noProbe).probed = ["m/a.flac", "m/a.flac"] ∧
      ¬twoParts.ProbedOnce {} "m" noProbe) ∧
    (uncut.compose {} "m" flacProbe).probed = ["m/a.flac"] ∧
      ¬uncut.ProbedOnce {} "m" flacProbe := by
  have hround : (roundTrip.compose {} "m" flacProbe).probed =
      ["m/a.flac", "m/b.flac", "m/a.flac"] := by decide +kernel
  have htwo : (twoParts.compose {} "m" noProbe).probed = ["m/a.flac", "m/a.flac"] := by
    decide +kernel
  have huncut : (uncut.compose {} "m" flacProbe).probed = ["m/a.flac"] := by decide +kernel
  refine ⟨⟨hround, fun h => ?_⟩, ⟨htwo, fun h => ?_⟩, huncut, fun h => ?_⟩
  · have honce := h.once "m/a.flac" ⟨_, List.mem_cons_self, by decide, by decide +kernel⟩
    rw [hround] at honce
    exact absurd honce (by decide +kernel)
  · have honce := h.once "m/a.flac" ⟨_, List.mem_cons_self, by decide, by decide +kernel⟩
    rw [htwo] at honce
    exact absurd honce (by decide +kernel)
  · obtain ⟨f, hf, htracks, -⟩ := h.needed "m/a.flac" (by rw [huncut]; exact List.mem_cons_self)
    obtain rfl := List.mem_singleton.mp hf
    exact htracks rfl

end CueSheet

end MediaIndex
