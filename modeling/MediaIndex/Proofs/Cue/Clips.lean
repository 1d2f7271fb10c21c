import MediaIndex.Proofs.Cue.Composition
import MediaIndex.Proofs.Number.Arithmetic

/-!
# Lengths of clips

The bounds of a clip are computed from the positions that the sheet gives, and the end of the last
clip is infinite.

> **`duration_isNumber`**: whatever the sheet says and whatever durations its files have, the
> duration of a virtual track, if it has one, is a number.
-/

set_option autoImplicit false

namespace MediaIndex

open Number

theorem CueTime.sign?_inSeconds (t : CueTime) : sign? t.inSeconds = some .positive := by
  have hminutes : sign? (t.minutes.toFloat * 60.0) = some .positive :=
    sign?_mul (sign?_toFloat t.minutes) rfl
  have hframes : sign? (t.frames.toFloat / 100.0) = some .positive :=
    sign?_div (sign?_toFloat t.frames) rfl
  exact sign?_add (sign?_add hminutes (sign?_toFloat t.seconds)) hframes

theorem CueTrack.sign?_start (t : CueTrack) : sign? t.start = some .positive := by
  unfold start
  split
  · rfl
  · exact CueTime.sign?_inSeconds _

theorem isNumber_clipDuration {start finish : Float} {fileDuration : Option Float}
    (hstart : sign? start = some .positive)
    (hfinish : isFinite finish = true → sign? finish = some .positive) :
    ∀ x ∈ clipDuration start finish fileDuration, isNotANumber x = false := by
  intro x hx
  rw [← Bool.not_eq_true, isNotANumber_iff_sign?]
  unfold clipDuration at hx
  split at hx
  · rename_i hbounded
    have hfinite := (Bool.and_eq_true_iff.mp hbounded).1
    obtain rfl := Option.some.inj hx
    exact sign?_sub_ne_none hfinite (hfinish hfinite) hstart
  · obtain ⟨d, -, rfl⟩ := Option.map_eq_some_iff.mp hx
    dsimp only
    split
    · rename_i habove
      exact sign?_ne_none_of_lt habove
    · exact fun h => absurd h (by decide +kernel)

/-- **The durations of virtual tracks are numbers.** -/
theorem CueSheet.duration_isNumber {s : CueSheet} {style : CompositionStyle} {directory : Path}
    {probe : Path → ProbeAnswer} {v : VirtualTrack}
    (hv : v ∈ (s.compose style directory probe).tracks) :
    ∀ x ∈ v.descriptor.duration, isNotANumber x = false := by
  obtain ⟨o, -, f, -, i, t, -, rfl⟩ := mem_tracks_compose.mp hv
  intro x hx
  change x ∈ clipDuration t.start _ f.2.duration at hx
  refine isNumber_clipDuration t.sign?_start (fun hfinite => ?_) x hx
  cases hnext : o.content.tracks[i + 1]? with
  | none =>
    rw [hnext] at hfinite
    exact absurd hfinite (by decide +kernel)
  | some next => exact next.sign?_start

end MediaIndex
