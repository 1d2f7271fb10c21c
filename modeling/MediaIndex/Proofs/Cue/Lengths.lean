import MediaIndex.Proofs.Cue.Clips
import MediaIndex.Proofs.Number.Differences

/-!
# Clips of less than no length

A sheet may give the positions of its tracks in any order. What a file has left after the start of
its last track is not taken below zero, but the distance from one track to the next is taken as it
is, and so a track that starts after the one that follows it has a negative length.

> **`zero_le_duration_iff`**: the durations of the virtual tracks are not negative just if the
> tracks of each section that has a file stand in the order of their positions (`InOrder`),
> whatever the durations of the files are.
-/

set_option autoImplicit false

namespace MediaIndex

open Number

/-! ## One clip -/

theorem le_of_isFinite_eq_false {start finish : Float} (hstart : sign? start = some .positive)
    (hfinish : sign? finish = some .positive) (hinfinite : isFinite finish = false) :
    start ≤ finish := by
  have hinfinity : finish.toModel.unpack = .infinity .positive := by
    rcases positive_cases hfinish with h | h | ⟨m, e, hm, h⟩
    · exact h
    all_goals
      refine absurd ((isFinite_iff_unpack finish).mpr ?_) (by simp [hinfinite])
      rw [h]
      rfl
  rw [le_iff_unpack, hinfinity]
  rcases positive_cases hstart with h | h | ⟨m, e, hm, h⟩ <;> rw [h] <;> rfl

/-- **A clip is not shorter than nothing** just if it does not start after its end. An end at zero
is as good as none. -/
theorem zero_le_clipDuration {start finish : Float} (hstart : sign? start = some .positive)
    (hfinish : sign? finish = some .positive) (fileDuration : Option Float) :
    (∀ x ∈ clipDuration start finish fileDuration, 0.0 ≤ x) ↔
      (finish == 0.0) = true ∨ start ≤ finish := by
  unfold clipDuration
  split
  · rename_i hbounded
    obtain ⟨hfinite, hnonzero⟩ := Bool.and_eq_true_iff.mp hbounded
    have hzero : (finish == 0.0) = false := by simpa [bne] using hnonzero
    simp [hzero, zero_le_sub_iff hfinite hfinish hstart]
  · rename_i hopen
    refine iff_of_true (fun x hx => ?_) ?_
    · obtain ⟨d, -, rfl⟩ := Option.map_eq_some_iff.mp hx
      dsimp only
      split
      · rename_i habove
        exact Number.le_of_lt habove
      · decide +kernel
    · by_cases hzero : (finish == 0.0) = true
      · exact Or.inl hzero
      · have hinfinite : isFinite finish = false := by simpa [bne, hzero] using hopen
        exact Or.inr (le_of_isFinite_eq_false hstart hfinish hinfinite)

/-! ## The clips of a sheet -/

/-- Whether a track does not start after the next one. That no track is after one that starts at
zero is how `clipDuration` takes such a start for no end at all. -/
def CueTrack.NotAfter (t next : CueTrack) : Prop :=
  (next.start == 0.0) = true ∨ t.start ≤ next.start

/-- Whether the tracks of a section stand in the order of their positions. -/
def InOrder (tracks : List CueTrack) : Prop := tracks.IsChain CueTrack.NotAfter

namespace CueSheet

/-- The length of a track depends on the next one alone: the last track has one that is not
negative. -/
theorem zero_le_duration_virtualTrack (s : CueSheet) (style : CompositionStyle) (path : Path)
    (file : Descriptor) (number : Nat) (t : CueTrack) (next? : Option CueTrack) :
    (∀ x ∈ (s.virtualTrack style path file number t
        ((next?.map (·.start)).getD (infinity false))).descriptor.duration, 0.0 ≤ x) ↔
      ∀ next ∈ next?, t.NotAfter next := by
  cases next? with
  | none =>
    have hinfinity : sign? (infinity false) = some .positive := rfl
    refine iff_of_true ?_ (by simp)
    exact (zero_le_clipDuration t.sign?_start hinfinity file.duration).mpr
      (Or.inr (le_of_isFinite_eq_false t.sign?_start hinfinity (by decide +kernel)))
  | some next =>
    refine (zero_le_clipDuration t.sign?_start next.sign?_start file.duration).trans ?_
    simp [CueTrack.NotAfter]

/-- **The durations of virtual tracks are not negative** just if the tracks of each section with a
file stand in the order of their positions. -/
theorem zero_le_duration_iff (s : CueSheet) (style : CompositionStyle) (directory : Path)
    (probe : Path → ProbeAnswer) :
    (∀ v ∈ (s.compose style directory probe).tracks, ∀ x ∈ v.descriptor.duration, 0.0 ≤ x) ↔
      ∀ o ∈ s.opened directory probe, o.file.isSome = true → InOrder o.content.tracks := by
  constructor
  · intro hlengths o ho hfile
    obtain ⟨f, hf⟩ := Option.isSome_iff_exists.mp hfile
    refine List.isChain_iff_getElem.mpr fun i hi => ?_
    have hlast : i < o.content.tracks.length := Nat.lt_of_succ_lt hi
    refine (zero_le_duration_virtualTrack s style f.1 f.2 (o.number + i) _ _).mp
      (hlengths _ (mem_tracks_compose.mpr ?_)) _ (List.getElem?_eq_getElem hi)
    exact ⟨o, ho, f, hf, i, _, List.getElem?_eq_getElem hlast, rfl⟩
  · intro horder v hv
    obtain ⟨o, ho, f, hf, i, t, ht, rfl⟩ := mem_tracks_compose.mp hv
    have hchain : InOrder o.content.tracks := horder o ho (Option.isSome_iff_exists.mpr ⟨f, hf⟩)
    obtain ⟨_, rfl⟩ := List.getElem?_eq_some_iff.mp ht
    refine (zero_le_duration_virtualTrack s style _ _ _ _ _).mpr fun next hnext => ?_
    obtain ⟨hi, rfl⟩ := List.getElem?_eq_some_iff.mp hnext
    exact List.isChain_iff_getElem.mp hchain i hi

/-- A sheet whose first track starts after the second one. -/
def turned : CueSheet where
  sections := [⟨"show.flac", "WAVE", [⟨1, "AUDIO", {}, [⟨1, ⟨5, 0, 0⟩⟩]⟩,
    ⟨2, "AUDIO", {}, [⟨1, ⟨3, 0, 0⟩⟩]⟩]⟩]

/-- A prober for which every file lasts ten minutes. -/
def tenMinutes (_ : Path) : ProbeAnswer :=
  .ok { container := some .flac, duration := some 600.0 }

/-- The first track of a sheet that can be read lasts minus two minutes. -/
theorem turned_negative :
    ofText "FILE show.flac WAVE\nTRACK 1 AUDIO\nINDEX 1 5:0:0\nTRACK 2 AUDIO\nINDEX 1 3:0:0" =
      .ok turned ∧
    (∀ path, ∃ d, tenMinutes path = .ok d ∧ ∀ x ∈ d.duration, 0.0 ≤ x) ∧
    (turned.compose {} "m" tenMinutes).tracks.map (·.descriptor.duration) =
      [some (-120.0), some 420.0] ∧
    ¬(0.0 : Float) ≤ -120.0 := by
  refine ⟨by decide +kernel, fun _ => ⟨_, rfl, fun x hx => ?_⟩, by decide +kernel,
    by decide +kernel⟩
  obtain rfl : (600.0 : Float) = x := Option.some.inj hx
  decide +kernel

end CueSheet

end MediaIndex
