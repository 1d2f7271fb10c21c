import MediaIndex.Level
import MediaIndex.Modes
import MediaIndex.SubtitleFormat

/-!
# Words name what they were written for

Whatever has a word is stored under that word, and a later run has only the word to go by. So each
vocabulary has to satisfy one law: **the word of a thing is read as that thing**. For the plain
vocabularies the law is a fact about a table. For levels it is not, because a code means nothing
outside its family: `4.1` is a level of two families. There the law needs the condition that the
codec the code is read for is of the level's own family (`Level.ofToken?_code`), and conversely no
token is ever read as a level of another family (`Level.family_of_ofToken?`).
-/

set_option autoImplicit false

namespace MediaIndex

/-! ## Plain words -/

theorem Format.mem_all (f : Format) : f ∈ Format.all := by
  cases f <;> decide

theorem Format.ofName?_name (f : Format) : Format.ofName? f.name = some f := by
  have h : ∀ f ∈ Format.all, Format.ofName? f.name = some f := by decide +kernel
  exact h f f.mem_all

theorem Format.name_injective : Function.Injective Format.name := by
  intro f g h
  have hname := f.ofName?_name
  rw [h, g.ofName?_name] at hname
  exact (Option.some.inj hname).symm

theorem SubtitleFormat.ofName?_name (f : SubtitleFormat) : ofName? f.name = some f := by
  cases f <;> decide

theorem RateMode.ofText?_name (m : RateMode) : ofText? m.name = some m := by
  cases m <;> decide

theorem ScanType.ofText?_name (t : ScanType) : ofText? t.name = some t := by
  cases t <;> decide

theorem ScanOrder.ofText?_name (o : ScanOrder) : ofText? o.name = some o := by
  cases o <;> decide

/-! ## Levels -/

/-- The families of codecs that have levels of their own. -/
inductive LevelFamily where
  | h264 | h265 | mpeg2 | mpeg4 | vc1
  deriving Repr, DecidableEq

/-- The family a level belongs to. -/
def Level.family : Level → LevelFamily
  | .h264 _ => .h264
  | .h265 _ => .h265
  | .mpeg2 _ => .mpeg2
  | .mpeg4 _ => .mpeg4
  | .vc1 _ => .vc1

/-- The family whose levels a codec has, if it has any. -/
def Format.levelFamily? : Format → Option LevelFamily
  | .h264 => some .h264
  | .h265 => some .h265
  | .mpeg1 | .mpeg2 => some .mpeg2
  | .mpeg4Visual | .divX => some .mpeg4
  | .vc1 => some .vc1
  | _ => none

namespace Level

theorem family_of_map {α : Type} (family : LevelFamily) {found : Option α} {wrap : α → Level}
    {level : Level} (hwrap : ∀ a, (wrap a).family = family) (h : found.map wrap = some level) :
    level.family = family := by
  obtain ⟨a, -, rfl⟩ := Option.map_eq_some_iff.mp h
  exact hwrap a

/-- **A token is only ever read as a level of the codec's own family.** -/
theorem family_of_ofToken? {codec : Format} {token : String} {level : Level}
    (h : ofToken? codec token = some level) : codec.levelFamily? = some level.family := by
  unfold ofToken? at h
  dsimp only at h
  split at h
  · rw [family_of_map .h264 (fun _ => rfl) h]; rfl
  · rw [family_of_map .h265 (fun _ => rfl) h]; rfl
  · rw [family_of_map .mpeg4 (fun _ => rfl) h]; rfl
  · rw [family_of_map .mpeg4 (fun _ => rfl) h]; rfl
  · rw [family_of_map .mpeg2 (fun _ => rfl) h]; rfl
  · rw [family_of_map .mpeg2 (fun _ => rfl) h]; rfl
  · rw [family_of_map .vc1 (fun _ => rfl) h]; rfl
  · exact absurd h (by simp)

/-- **The code of a level is read as that level** for every codec of its family. -/
theorem ofToken?_code {codec : Format} {level : Level}
    (h : codec.levelFamily? = some level.family) : ofToken? codec level.code = some level := by
  unfold Format.levelFamily? at h
  split at h
  · cases level with
    | h264 l => cases l <;> decide +kernel
    | _ => exact absurd h (by simp [family])
  · cases level with
    | h265 l => cases l <;> decide +kernel
    | _ => exact absurd h (by simp [family])
  · cases level with
    | mpeg2 l => cases l <;> decide +kernel
    | _ => exact absurd h (by simp [family])
  · cases level with
    | mpeg2 l => cases l <;> decide +kernel
    | _ => exact absurd h (by simp [family])
  · cases level with
    | mpeg4 l => cases l <;> decide +kernel
    | _ => exact absurd h (by simp [family])
  · cases level with
    | mpeg4 l => cases l <;> decide +kernel
    | _ => exact absurd h (by simp [family])
  · cases level with
    | vc1 l => cases l <;> decide +kernel
    | _ => exact absurd h (by simp [family])
  · exact absurd h (by simp)

theorem ofToken?_code_iff {codec : Format} {level : Level} :
    ofToken? codec level.code = some level ↔ codec.levelFamily? = some level.family :=
  ⟨family_of_ofToken?, ofToken?_code⟩

end Level

/-- The level of a profile text is one of the codec it was read for. -/
theorem ProfileLevel.family_ofText {codec : Option Format} {raw : String} {level : Level}
    (h : (ofText codec raw).level = some level) :
    codec.bind Format.levelFamily? = some level.family := by
  unfold ofText at h
  dsimp only at h
  split at h
  · split at h
    · rename_i hread
      obtain rfl := Option.some.inj h
      exact Level.family_of_ofToken? hread
    · exact absurd h (by simp)
  · exact absurd h (by simp)

theorem ProfileLevel.level_ofText_none (raw : String) : (ofText none raw).level = none := by
  cases h : (ofText none raw).level with
  | none => rfl
  | some level => exact absurd (family_ofText h) (by simp)

end MediaIndex
