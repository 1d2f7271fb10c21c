import MediaIndex.Proofs.Cue.Entries

/-!
# What a virtual track inherits

All tracks of a file are made from the one descriptor that its probe yielded. A track changes what
is not true of a part of the file, and what the sheet knows better about the song. Everything else
it inherits.

> **`inherits_law`**: an entry differs from its file in its size, its duration and the tags of the
> first audio track, and it is the same whatever the sheet says about the other tracks.

`Inherits` tells the difference field by field and leaves the rest to two frames, a descriptor
without its audio tracks and an audio track without its tags.
-/

set_option autoImplicit false

namespace MediaIndex

/-- What a descriptor says of every part of the file. -/
def Descriptor.inParts (d : Descriptor) : Descriptor :=
  { d with size := none, duration := none, audioTracks := [] }

namespace CueSheet

variable {s : CueSheet} {style : CompositionStyle} {directory : Path} {probe : Path → ProbeAnswer}

/-! ## One entry -/

/-- The first of some values that is not blank, without the blanks around it. -/
def firstPresent (values : List (Option String)) : Option String :=
  values.findSome? fun value => (value.map Text.trim).filter (· ≠ "")

theorem present?_eq (value : Option String) :
    present? value = (value.map Text.trim).filter (· ≠ "") := by
  cases value with
  | none => rfl
  | some text =>
    by_cases hblank : Text.trim text = "" <;>
      simp [present?, Text.nonBlank?, Option.filter, hblank]

theorem present?_eq_firstPresent (value : Option String) :
    present? value = firstPresent [value] := by
  rw [present?_eq, firstPresent, List.findSome?_singleton]

/-- Performers come before songwriters, and the track before the sheet. -/
theorem artist?_eq_firstPresent (t : CueTrack) :
    s.artist? t = firstPresent [t.credits.performer, s.credits.performer, t.credits.songwriter,
      s.credits.songwriter] := by
  simp only [artist?, present?_eq, firstPresent, List.findSome?_cons, List.findSome?_nil]
  cases (t.credits.performer.map Text.trim).filter (· ≠ "") <;>
    cases (s.credits.performer.map Text.trim).filter (· ≠ "") <;>
    cases (t.credits.songwriter.map Text.trim).filter (· ≠ "") <;>
    cases (s.credits.songwriter.map Text.trim).filter (· ≠ "") <;> rfl

/-- What the first audio track of a file has to be as a song of the sheet. -/
structure IsSong (s : CueSheet) (t : CueTrack) (number : Nat) (title : String)
    (file song : AudioTrack) : Prop where
  name : song.songName = some title
  artist : song.artist = firstPresent [t.credits.performer, s.credits.performer,
    t.credits.songwriter, s.credits.songwriter]
  number : song.songNumber = some (UInt32.ofNat number)
  album : song.album = if file.codec.isSome then firstPresent [s.credits.title] else file.album
  genre : song.genre = if file.codec.isSome then firstPresent [s.genre] else file.genre
  year : song.year = if file.codec.isSome then s.year? else file.year
  rest : song.untagged = file.untagged

theorem isSong_tagSong (t : CueTrack) (number : Nat) (title : String) (a : AudioTrack) :
    IsSong s t number title a (s.tagSong number title t a) := by
  have hartist := s.artist?_eq_firstPresent t
  have halbum := present?_eq_firstPresent s.credits.title
  have hgenre := present?_eq_firstPresent s.genre
  by_cases husable : a.isUsable = true
  · have hcodec : a.codec.isSome = true := husable
    unfold tagSong
    rw [if_pos husable]
    exact ⟨rfl, hartist, rfl, by rw [if_pos hcodec]; exact halbum,
      by rw [if_pos hcodec]; exact hgenre, by rw [if_pos hcodec], rfl⟩
  · have hcodec : ¬a.codec.isSome = true := husable
    unfold tagSong
    rw [if_neg husable]
    exact ⟨rfl, hartist, rfl, by rw [if_neg hcodec], by rw [if_neg hcodec], by rw [if_neg hcodec],
      rfl⟩

/-- What an entry has to be, given the descriptor of its file and its number. -/
structure Inherits (s : CueSheet) (t : CueTrack) (number : Nat) (file : Descriptor)
    (v : VirtualTrack) : Prop where
  size : v.descriptor.size = none
  duration : v.descriptor.duration = clipDuration v.start v.finish file.duration
  /-- There is a first audio track just if the file has one, and it is a song. -/
  first : Option.Rel (IsSong s t number v.title) file.audioTracks.head?
    v.descriptor.audioTracks.head?
  later : v.descriptor.audioTracks.tail = file.audioTracks.tail
  rest : v.descriptor.inParts = file.inParts

theorem inherits_virtualTrack (path : Path) (file : Descriptor) (number : Nat) (t : CueTrack)
    (finish : Float) :
    Inherits s t number file (s.virtualTrack style path file number t finish) := by
  simp only [virtualTrack, Descriptor.modifyFirstAudio]
  refine ⟨rfl, rfl, ?_, ?_, rfl⟩
  · cases file.audioTracks with
    | nil => exact .none
    | cons a rest => exact .some (isSong_tagSong t number _ a)
  · cases file.audioTracks <;> rfl

/-! ## All entries -/

/-- The virtual track for a track of a section, if the section has a file. -/
def composed? (s : CueSheet) (style : CompositionStyle) (directory : Path)
    (probe : Path → ProbeAnswer) (k i : Nat) : Option VirtualTrack :=
  ((s.opened directory probe)[k]?.map (·.tracks s style)).bind (·[i]?)

theorem inherits_entry {k i : Nat} {v : VirtualTrack}
    (hv : s.composed? style directory probe k i = some v) :
    ∃ f t file, s.sections[k]? = some f ∧ f.tracks[i]? = some t ∧
      Path.same v.path (Path.join directory f.file) = true ∧ probe v.path = .ok file ∧
      Inherits s t (s.firstNumber k + i) file v := by
  obtain ⟨entries, hentries, hi⟩ := Option.bind_eq_some_iff.mp hv
  obtain ⟨o, ho, rfl⟩ := Option.map_eq_some_iff.mp hentries
  have hf : s.sections[k]? = some o.content := by
    rw [← map_content_opened, List.getElem?_map, ho, Option.map_some]
  obtain ⟨opened, ho'⟩ := getElem?_opened directory probe hf
  have hnumber : o.number = s.firstNumber k :=
    congrArg OpenedSection.number (Option.some.inj (ho.symm.trans ho'))
  unfold OpenedSection.tracks at hi
  split at hi
  · rename_i path file hfile
    obtain ⟨hsame, hanswer, -⟩ :=
      (file_of_mem_opened (List.mem_of_getElem? ho)).1 (path, file) hfile
    rw [getElem?_sectionTracks, hnumber] at hi
    obtain ⟨t, ht, rfl⟩ := Option.map_eq_some_iff.mp hi
    exact ⟨_, t, file, hf, ht, hsame, hanswer, inherits_virtualTrack _ _ _ _ _⟩
  · exact absurd hi (by simp)

/-! ## What the sheet says about another track -/

/-- A track with other credits. -/
def withCredits (c : CueCredits) (t : CueTrack) : CueTrack := { t with credits := c }

/-- A section with other credits for one track. -/
def recreditTrack (i : Nat) (c : CueCredits) (f : CueSection) : CueSection :=
  { f with tracks := f.tracks.modify i (withCredits c) }

/-- A sheet that says something else about one track of a section. -/
def recredit (s : CueSheet) (k i : Nat) (c : CueCredits) : CueSheet :=
  { s with sections := s.sections.modify k (recreditTrack i c) }

/-- What a section is composed with depends on its file and on how many tracks it has. -/
theorem openedFrom_modify (g : CueSection → CueSection) (hfile : ∀ f, (g f).file = f.file)
    (hlength : ∀ f, (g f).tracks.length = f.tracks.length) (k : Nat) (current : OpenFile)
    (number : Nat) (sections : List CueSection) :
    openedFrom directory probe current number (sections.modify k g) =
      (openedFrom directory probe current number sections).modify k
        fun o => { o with content := g o.content } := by
  induction sections generalizing k current number with
  | nil => cases k <;> rfl
  | cons f rest ih =>
    cases k with
    | zero => simp only [List.modify_zero_cons, openedFrom, hfile, hlength]
    | succ k => simp only [List.modify_succ_cons, openedFrom, ih]

theorem opened_recredit (k i : Nat) (c : CueCredits) :
    (s.recredit k i c).opened directory probe =
      (s.opened directory probe).modify k fun o =>
        { o with content := recreditTrack i c o.content } :=
  openedFrom_modify (recreditTrack i c) (fun _ => rfl)
    (fun f => List.length_modify (withCredits c) f.tracks i) k none 1 s.sections

/-- The virtual tracks of a section depend on the sheet for what it says about the album only. -/
theorem sectionTracks_recredit (k i : Nat) (c : CueCredits) (path : Path) (file : Descriptor)
    (number : Nat) (tracks : List CueTrack) :
    (s.recredit k i c).sectionTracks style path file number tracks =
      s.sectionTracks style path file number tracks := by
  induction tracks generalizing number with
  | nil => rfl
  | cons t rest ih =>
    rw [sectionTracks, sectionTracks, ih]
    rfl

theorem tracks_recredit (k i : Nat) (c : CueCredits) (o : OpenedSection) :
    o.tracks (s.recredit k i c) style = o.tracks s style := by
  unfold OpenedSection.tracks
  split
  · exact sectionTracks_recredit ..
  · rfl

/-- Of another track of the same section only the start matters. -/
theorem getElem?_sectionTracks_modify {i j : Nat} (hij : i ≠ j) (c : CueCredits) (path : Path)
    (file : Descriptor) (number : Nat) (tracks : List CueTrack) :
    (s.sectionTracks style path file number (tracks.modify i (withCredits c)))[j]? =
      (s.sectionTracks style path file number tracks)[j]? := by
  have hstart : ∀ n : Nat, (tracks.modify i (withCredits c))[n]?.map CueTrack.start =
      tracks[n]?.map CueTrack.start := by
    intro n
    rw [List.getElem?_modify]
    cases tracks[n]? with
    | none => rfl
    | some t => by_cases hn : i = n <;> simp [hn, withCredits, CueTrack.start]
  have hother : (tracks.modify i (withCredits c))[j]? = tracks[j]? := by
    rw [List.getElem?_modify]
    simp only [if_neg hij, Option.map_eq_map, Option.map_id']
  rw [getElem?_sectionTracks, getElem?_sectionTracks, hother, hstart]

theorem getElem?_tracks_recredit {i j : Nat} (hij : i ≠ j) (c : CueCredits) (o : OpenedSection) :
    (OpenedSection.tracks s style { o with content := recreditTrack i c o.content })[j]? =
      (o.tracks s style)[j]? := by
  obtain ⟨content, number, file⟩ := o
  cases file with
  | none => rfl
  | some f => exact getElem?_sectionTracks_modify hij c f.1 f.2 number content.tracks

theorem composed?_recredit {k i k' i' : Nat} (hother : (k, i) ≠ (k', i')) (c : CueCredits) :
    (s.recredit k i c).composed? style directory probe k' i' =
      s.composed? style directory probe k' i' := by
  rw [composed?, composed?, opened_recredit, List.getElem?_modify]
  cases (s.opened directory probe)[k']? with
  | none => rfl
  | some o =>
    simp only [Option.map_eq_map, Option.map_some, Option.bind_some, tracks_recredit]
    by_cases hk : k = k'
    · have hi : i ≠ i' := fun hi => hother (by rw [hk, hi])
      rw [if_pos hk]
      exact getElem?_tracks_recredit hi c o
    · rw [if_neg hk]

/-! ## The law -/

/-- **What the virtual tracks of a sheet inherit.** -/
theorem inherits_law (s : CueSheet) (style : CompositionStyle) (directory : Path)
    (probe : Path → ProbeAnswer) :
    (∃ entries : List (List VirtualTrack),
      (s.compose style directory probe).tracks = entries.flatten ∧
      ∀ k i, entries[k]?.bind (·[i]?) = s.composed? style directory probe k i) ∧
    (∀ k i v, s.composed? style directory probe k i = some v →
      ∃ f t file, s.sections[k]? = some f ∧ f.tracks[i]? = some t ∧
        Path.same v.path (Path.join directory f.file) = true ∧ probe v.path = .ok file ∧
        Inherits s t (s.firstNumber k + i) file v) ∧
    ∀ k i k' i' credits, (k, i) ≠ (k', i') →
      (s.recredit k i credits).composed? style directory probe k' i' =
        s.composed? style directory probe k' i' := by
  refine ⟨⟨(s.opened directory probe).map (·.tracks s style), ?_, fun k i => ?_⟩,
    fun k i v hv => inherits_entry hv,
    fun k i k' i' credits hother => composed?_recredit hother credits⟩
  · rw [tracks_compose, List.flatMap_def]
  · rw [composed?, List.getElem?_map]

end CueSheet

end MediaIndex
