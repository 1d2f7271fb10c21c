import Mathlib.Data.List.Flatten
import MediaIndex.Proofs.Cue.Composition

/-!
# Every track of a sheet by itself

The composition of a sheet takes a file and a number along from one section to the next. What it
yields can be told without them: section by section, from the file that the section names and from
how many tracks stand in the sections before it.

> **`compose_law`**: a section whose file cannot be used yields nothing, and any other section one
> entry for each of its tracks, in order (`IsEntry`).

Two sections in a row may name one file in two ways, and the second is then not probed. So the law
holds for probers that answer alike for all names of a file (`AnswersByPath`).
-/

set_option autoImplicit false

namespace MediaIndex

namespace CueSheet

variable {s : CueSheet} {style : CompositionStyle} {directory : Path} {probe : Path → ProbeAnswer}

/-! ## Sections by their place -/

/-- The number of the first track of a section, counted through the whole sheet. -/
def firstNumber (s : CueSheet) (k : Nat) : Nat :=
  1 + ((s.sections.take k).flatMap (·.tracks)).length

theorem getElem?_openedFrom {current : OpenFile} {number k : Nat} {sections : List CueSection}
    {f : CueSection} (hf : sections[k]? = some f) :
    ∃ file, (openedFrom directory probe current number sections)[k]? =
      some ⟨f, number + ((sections.take k).flatMap (·.tracks)).length, file⟩ := by
  induction sections generalizing current number k with
  | nil => exact absurd hf (by simp)
  | cons g rest ih =>
    cases k with
    | zero =>
      obtain rfl : g = f := by simpa using hf
      exact ⟨_, rfl⟩
    | succ k =>
      obtain ⟨file, hfile⟩ := ih (by simpa using hf)
      refine ⟨file, ?_⟩
      rw [openedFrom, List.getElem?_cons_succ, hfile, List.take_succ_cons, List.flatMap_cons,
        List.length_append, Nat.add_assoc]

theorem getElem?_opened (directory : Path) (probe : Path → ProbeAnswer) {k : Nat}
    {f : CueSection} (hf : s.sections[k]? = some f) :
    ∃ file, (s.opened directory probe)[k]? = some ⟨f, s.firstNumber k, file⟩ :=
  getElem?_openedFrom hf

/-- No track has a higher number than there are tracks. -/
theorem number_le_trackCount {k i : Nat} {f : CueSection} (hf : s.sections[k]? = some f)
    (hi : i < f.tracks.length) : s.firstNumber k + i ≤ s.trackCount := by
  have hle := ((List.take_sublist (k + 1) s.sections).flatMap (·.tracks)).length_le
  rw [List.take_add_one, hf, List.flatMap_append, List.length_append] at hle
  simp only [Option.toList_some, List.flatMap_cons, List.flatMap_nil, List.append_nil] at hle
  rw [firstNumber, trackCount]
  omega

/-! ## Entries -/

/-- What the entry for the track at place `i` of a section has to be, given the file that the
section names, its descriptor, and the number of the track. -/
structure IsEntry (style : CompositionStyle) (path : Path) (file : Descriptor) (f : CueSection)
    (i number : Nat) (t : CueTrack) (v : VirtualTrack) : Prop where
  path : Path.same v.path path = true
  start : v.start = (t.indices.head?.map (·.position.inSeconds)).getD 0.0
  finish : v.finish = (f.tracks[i + 1]?.map (·.start)).getD (Number.infinity false)
  title : v.title = ((t.credits.title.map Text.trim).filter (· ≠ "")).getD
    (style.trackLabel ++ " #" ++ toString number)
  /-- The first audio track has the number, unless there is none. -/
  number : (v.descriptor.audioTracks.head?.bind (·.songNumber)).map (·.toNat) =
    file.audioTracks.head?.map fun _ => number
  player : v.player = if v.isPartial then some style.transcoder else none

theorem isEntry_virtualTrack {path path' : Path} {file : Descriptor} {f : CueSection}
    {i number : Nat} {t : CueTrack} (hpath : Path.same path' path = true)
    (hnumber : number < UInt32.size) :
    IsEntry style path file f i number t (s.virtualTrack style path' file number t
      ((f.tracks[i + 1]?.map (·.start)).getD (Number.infinity false))) where
  path := hpath
  start := by
    simp only [virtualTrack, CueTrack.start]
    cases t.indices <;> rfl
  finish := rfl
  title := by
    simp only [virtualTrack, trackTitle, present?]
    cases t.credits.title with
    | none => rfl
    | some title =>
      by_cases hblank : Text.trim title = "" <;> simp [Text.nonBlank?, Option.filter, hblank]
  number := by
    simp only [virtualTrack, Descriptor.modifyFirstAudio]
    cases file.audioTracks with
    | nil => rfl
    | cons a rest =>
      have hsong : (s.tagSong number (trackTitle style number t) t a).songNumber =
          some (UInt32.ofNat number) := by
        unfold tagSong
        split <;> rfl
      have hkept : (UInt32.ofNat number).toNat = number := by
        rw [UInt32.toNat_ofNat', Nat.mod_eq_of_lt hnumber]
      simp [hsong, hkept]
  player := rfl

/-! ## The law -/

/-- A prober that answers alike for all names of a file that it can probe. -/
def AnswersByPath (probe : Path → ProbeAnswer) : Prop :=
  ∀ p q d, Path.same p q = true → probe p = .ok d → probe q = .ok d

/-- What a section yields, given the number of its first track. -/
structure Yields (style : CompositionStyle) (directory : Path) (probe : Path → ProbeAnswer)
    (f : CueSection) (number : Nat) (entries : List VirtualTrack) : Prop where
  nothing : (∀ file, ¬Usable probe (Path.join directory f.file) file) → entries = []
  all : ∀ file, Usable probe (Path.join directory f.file) file →
    entries.length = f.tracks.length ∧
      ∀ i t v, f.tracks[i]? = some t → entries[i]? = some v →
        IsEntry style (Path.join directory f.file) file f i (number + i) t v

theorem yields_opened (hprobe : AnswersByPath probe) (hcount : s.trackCount < UInt32.size) {k : Nat}
    {f : CueSection} (hf : s.sections[k]? = some f) {file : OpenFile}
    (ho : (s.opened directory probe)[k]? = some ⟨f, s.firstNumber k, file⟩) :
    Yields style directory probe f (s.firstNumber k)
      (OpenedSection.tracks s style ⟨f, s.firstNumber k, file⟩) := by
  obtain ⟨hnamed, hsome⟩ := file_of_mem_opened (List.mem_of_getElem? ho)
  cases file with
  | none =>
    refine ⟨fun _ => rfl, fun file hfile => ?_⟩
    exact absurd (hsome ⟨file, hfile⟩) (by simp)
  | some opened =>
    obtain ⟨hsame, hopened, husable⟩ := hnamed opened rfl
    have hanswer := hprobe _ _ _ hsame hopened
    refine ⟨fun hnone => absurd ⟨hanswer, husable⟩ (hnone opened.2), fun file hfile => ?_⟩
    obtain rfl : opened.2 = file := Except.ok.inj (hanswer.symm.trans hfile.1)
    refine ⟨length_sectionTracks _ _ _ _, fun i t v ht hv => ?_⟩
    have hbound : s.firstNumber k + i < UInt32.size :=
      Nat.lt_of_le_of_lt (number_le_trackCount hf (List.getElem?_eq_some_iff.mp ht).1) hcount
    rw [OpenedSection.tracks, getElem?_sectionTracks, ht] at hv
    obtain rfl := Option.some.inj hv
    exact isEntry_virtualTrack hsame hbound

/-- **What a sheet is composed of**: its sections, in order, each by itself. -/
theorem compose_law (s : CueSheet) (style : CompositionStyle) (directory : Path)
    (probe : Path → ProbeAnswer) (hcount : s.trackCount < UInt32.size)
    (hprobe : AnswersByPath probe) :
    ∃ entries : List (List VirtualTrack),
      (s.compose style directory probe).tracks = entries.flatten ∧
      entries.length = s.sections.length ∧
      ∀ k f e, s.sections[k]? = some f → entries[k]? = some e →
        Yields style directory probe f (s.firstNumber k) e := by
  refine ⟨(s.opened directory probe).map (·.tracks s style), ?_, ?_, fun k f e hf he => ?_⟩
  · rw [tracks_compose, List.flatMap_def]
  · rw [List.length_map, ← List.length_map (·.content), opened, map_content_openedFrom]
  · obtain ⟨file, ho⟩ := getElem?_opened directory probe hf
    rw [List.getElem?_map, ho] at he
    obtain rfl := Option.some.inj he
    exact yields_opened hprobe hcount hf ho

/-- A sheet that names one of its files twice, differently, and one that is not there. -/
def patchwork : CueSheet where
  sections := [
    ⟨"a.flac", "WAVE", [⟨1, "AUDIO", { title := some " One " }, []⟩,
      ⟨2, "AUDIO", {}, [⟨0, ⟨3, 0, 0⟩⟩, ⟨1, ⟨3, 2, 0⟩⟩]⟩]⟩,
    ⟨"./a.flac", "WAVE", [⟨3, "AUDIO", {}, []⟩]⟩,
    ⟨"gone.flac", "WAVE", [⟨4, "AUDIO", {}, []⟩]⟩,
    ⟨"b.flac", "WAVE", [⟨5, "AUDIO", { title := some " " }, []⟩]⟩]

/-- A prober that knows two files. -/
def patchworkProbe (p : Path) : ProbeAnswer :=
  if p.components = ["m", "a.flac"] then .ok { audioTracks := [{ codec := some .flac }] }
  else if p.components = ["m", "b.flac"] then .ok { container := some .flac }
  else .error (.unsupported p)

theorem answersByPath_patchworkProbe : AnswersByPath patchworkProbe := by
  intro p q d hsame hanswer
  have hcomponents : p.components = q.components := by simpa [Path.same] using hsame
  simp only [patchworkProbe, ← hcomponents] at hanswer ⊢
  split at hanswer
  · rename_i hfirst
    rw [if_pos hfirst]
    exact hanswer
  · rename_i hfirst
    split at hanswer
    · rename_i hsecond
      rw [if_neg hfirst, if_pos hsecond]
      exact hanswer
    · exact absurd hanswer (by simp)

theorem compose_law_patchwork :
    patchwork.trackCount < UInt32.size ∧ AnswersByPath patchworkProbe ∧
    ∃ entries : List (List VirtualTrack),
      (patchwork.compose {} "m" patchworkProbe).tracks = entries.flatten ∧ entries.length = 4 ∧
      ∀ k f e, patchwork.sections[k]? = some f → entries[k]? = some e →
        Yields {} "m" patchworkProbe f (patchwork.firstNumber k) e :=
  have hcount : patchwork.trackCount < UInt32.size := by decide
  ⟨hcount, answersByPath_patchworkProbe,
    compose_law patchwork {} "m" patchworkProbe hcount answersByPath_patchworkProbe⟩

example : (patchwork.compose {} "m" patchworkProbe).tracks.map
      (fun v => (v.path, v.title, v.player)) =
    [("m/a.flac", "One", some "ffmpeg-audio"), ("m/a.flac", "Track #2", some "ffmpeg-audio"),
      ("m/a.flac", "Track #3", none), ("m/b.flac", "Track #5", none)] := by decide +kernel

end CueSheet

end MediaIndex
