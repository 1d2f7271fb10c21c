import MediaIndex.Proofs.Number.Reading
import MediaIndex.Proofs.Number.Vanishing
import MediaIndex.Proofs.Quantity.Numbers
import MediaIndex.Proofs.Text.Cuts

/-!
# Measures that are rounded to nothing

A measure that is zero is no measure, and none is taken for one: a count of zero and a rate of zero
are refused. A rate is looked at before it is rounded, though, and rounding can make a zero of what
is above zero.

> **`zeros_law`**: counts and sizes are never zero. A bit rate and a sampling rate are zero where
> the number read is above zero and below a half, a frame rate where it is above zero and at most a
> half of its last place.
-/

set_option autoImplicit false

namespace MediaIndex.Quantity

open Number

/-! ## Bounds -/

theorem value_zero : value 0.0 = 0 := rfl

theorem value_one : value 1.0 = 1 := by
  have hparts : Parts.ofFloat 1.0 = .finite false leadingBit (-52) := rfl
  rw [value_of_finite hparts, leadingBit]
  norm_num

theorem value_limit : value (Float.ofNat limit) = limit := by
  have hparts : Parts.ofFloat (Float.ofNat limit) = .finite false 9007199252643840 (-21) := rfl
  rw [value_of_finite hparts, limit]
  norm_num

theorem isFinite_zero : isFinite 0.0 = true := rfl

theorem isFinite_one : isFinite 1.0 = true := rfl

theorem isFinite_limit : isFinite (Float.ofNat limit) = true := rfl

/-! ## Whole measures -/

theorem ofNat_eq_zero_iff {n : Nat} (h : n ≤ limit) : UInt32.ofNat n = 0 ↔ n = 0 := by
  have hn : (UInt32.ofNat n).toNat = n := UInt32.toNat_ofNat_of_lt' (Nat.lt_succ_of_le h)
  rw [← UInt32.toNat_inj, hn]
  rfl

/-- The bound brings nothing to zero. -/
theorem ofNat_clamp_eq_zero (n : Nat) :
    UInt32.ofNat (clamp 0 limit (signed false n)).toNat = 0 ↔ n = 0 := by
  have hsome : 0 < limit := by decide
  have hbounded : (clamp 0 limit (signed false n)).toNat = min n limit := by
    unfold clamp signed
    simp only [Bool.false_eq_true, if_false]
    omega
  rw [hbounded, ofNat_eq_zero_iff (Nat.min_le_right _ _)]
  omega

variable {x : Float} {m : Nat} {q : Int}

theorem nearestWithin_eq_zero (h : Parts.ofFloat x = .finite false m q) :
    UInt32.ofNat (nearestWithin 0 limit x).toNat = 0 ↔ nearestNat m q = 0 := by
  rw [nearestWithin, h]
  exact ofNat_clamp_eq_zero _

theorem truncateWithin_eq_zero (h : Parts.ofFloat x = .finite false m q) :
    UInt32.ofNat (truncateWithin 0 limit x).toNat = 0 ↔ wholeNat m q = 0 := by
  rw [truncateWithin, h]
  exact ofNat_clamp_eq_zero _

/-- Which numbers are measures. -/
theorem wholeMeasure?_eq (hnumber : isNotANumber x = false) :
    wholeMeasure? x =
      if 0 < value x ∧ value x ≤ limit then
        some (UInt32.ofNat (nearestWithin 0 limit x).toNat)
      else none := by
  have hrefused : (decide (x ≤ 0.0) || decide (x > Float.ofNat limit)) = true ↔
      ¬(0 < value x ∧ value x ≤ limit) := by
    rw [Bool.or_eq_true, decide_eq_true_eq, decide_eq_true_eq, not_and_or, not_lt, not_le]
    cases hfinite : isFinite x with
    | true =>
      rw [le_iff_value hfinite isFinite_zero, gt_iff_lt, lt_iff_value isFinite_limit hfinite,
        value_zero, value_limit]
    | false =>
      exact iff_of_true (le_or_lt_of_infinite hnumber hfinite isFinite_zero isFinite_limit)
        (Or.inl (value_of_isFinite_eq_false hfinite).le)
  unfold wholeMeasure?
  by_cases h : 0 < value x ∧ value x ≤ limit
  · rw [if_pos h, if_neg (hrefused.not.mpr (not_not.mpr h))]
  · rw [if_neg h, if_pos (hrefused.mpr h)]

/-- **A measure of zero is what is above zero and below a half.** -/
theorem wholeMeasure?_eq_zero (hnumber : isNotANumber x = false) :
    wholeMeasure? x = some 0 ↔ 0 < value x ∧ value x < 1 / 2 := by
  rw [wholeMeasure?_eq hnumber]
  by_cases h : 0 < value x ∧ value x ≤ limit
  · obtain ⟨m, q, hparts, hvalue⟩ := exists_parts_of_value_pos h.1
    rw [if_pos h, Option.some_inj, nearestWithin_eq_zero hparts, nearestNat_eq_zero, ← hvalue,
      and_iff_right h.1]
  · rw [if_neg h]
    refine iff_of_false (by simp) fun hsmall => h ⟨hsmall.1, ?_⟩
    have : (1 : ℚ) ≤ limit := by norm_num [limit]
    linarith [hsmall.2]

/-! ## Numbers read -/

theorem isNotANumber_leadingNumber? {cs : List Char} (h : leadingNumber? cs = some x) :
    isNotANumber x = false := by
  unfold leadingNumber? at h
  obtain ⟨-, h⟩ := Option.ite_none_left_eq_some.mp h
  refine isNotANumber_of_readFloat? h fun c hc => ?_
  rw [String.toList_ofList] at hc
  have hpart := List.mem_takeWhile_imp (List.mem_of_mem_filter hc)
  simp only [isNumberPart, Bool.or_eq_true, beq_iff_eq] at hpart
  rcases hpart with (((hdigit | rfl) | rfl) | rfl) | rfl
  · rw [toLower_of_isAsciiDigit hdigit]
    rintro rfl
    exact absurd hdigit (by decide)
  all_goals decide

theorem value_thousand : 0 < value 1000.0 := by
  have hparts : Parts.ofFloat 1000.0 = .finite false 8796093022208000 (-43) := rfl
  exact value_pos hparts (by decide)

theorem value_million : 0 < value 1000000.0 := by
  have hparts : Parts.ofFloat 1000000.0 = .finite false 8589934592000000 (-33) := rfl
  exact value_pos hparts (by decide)

theorem isNotANumber_bitrateNumber? {text : String} (h : bitrateNumber? text = some x) :
    isNotANumber x = false := by
  unfold bitrateNumber? at h
  obtain ⟨n, hn, rfl⟩ := Option.map_eq_some_iff.mp h
  have hnumber := isNotANumber_leadingNumber? hn
  split
  · exact isNotANumber_mul hnumber value_million
  · split
    · exact isNotANumber_mul hnumber value_thousand
    · exact hnumber

theorem isNotANumber_sampleRateNumber? {text : String} (h : sampleRateNumber? text = some x) :
    isNotANumber x = false := by
  unfold sampleRateNumber? at h
  obtain ⟨n, hn, rfl⟩ := Option.map_eq_some_iff.mp h
  have hnumber := isNotANumber_leadingNumber? hn
  split
  · exact isNotANumber_mul hnumber value_thousand
  · exact hnumber

/-! ## Counts and sizes -/

theorem positiveCount?_ne_zero (s : String) : positiveCount? s ≠ some 0 := by
  intro h
  obtain ⟨n, hn, hzero⟩ := Option.map_eq_some_iff.mp h
  obtain ⟨hread, hpos⟩ := Option.filter_eq_some_iff.mp hn
  rw [ofNat_eq_zero_iff (le_of_readNat? hread)] at hzero
  exact absurd hzero (of_decide_eq_true hpos).ne'

theorem layoutChannels?_ne_zero (layout : String) : layoutChannels? layout ≠ some 0 := by
  unfold layoutChannels?
  split <;> decide

theorem channels?_ne_zero (text : String) : channels? text ≠ some 0 := by
  unfold channels?
  dsimp only
  split
  · rename_i n hn
    exact fun hzero => layoutChannels?_ne_zero _ (hn.trans hzero)
  · exact positiveCount?_ne_zero _

theorem bitsPerSample?_ne_zero (text : String) : bitsPerSample? text ≠ some 0 :=
  positiveCount?_ne_zero _

theorem dimension?_ne_zero (text : String) : dimension? text ≠ some 0 := by
  unfold dimension?
  split
  · simp
  · rename_i x _
    split
    · rename_i hbetween
      obtain ⟨hlow, hhigh⟩ := Bool.and_eq_true_iff.mp hbetween
      have hlow := of_decide_eq_true hlow
      have hhigh := of_decide_eq_true hhigh
      have hfinite := isFinite_of_between isFinite_one isFinite_limit hlow hhigh
      rw [le_iff_value isFinite_one hfinite, value_one] at hlow
      obtain ⟨m, q, hparts, hmagnitude⟩ := exists_parts_of_value_pos (one_pos.trans_le hlow)
      rw [ne_eq, Option.some_inj, truncateWithin_eq_zero hparts, wholeNat_eq_zero, ← hmagnitude]
      exact not_lt.mpr hlow
    · simp

/-! ## Frame rates -/

/-- What is left of zeros and a point is a zero only if there was nothing else. -/
theorem zero_or_point_of_mem {cs : List Char}
    (h : Text.dropEndText ['.'] (Text.dropEndText ['0'] cs) = ['0']) {c : Char} (hc : c ∈ cs) :
    c = '0' ∨ c = '.' := by
  rcases Text.mem_of_dropEndText ['0'] hc with hc | hc
  · rcases Text.mem_of_dropEndText ['.'] hc with hc | hc
    · rw [h] at hc
      exact Or.inl (List.mem_singleton.mp hc)
    · exact Or.inr (List.mem_singleton.mp hc)
  · exact Or.inl (List.mem_singleton.mp hc)

/-- **A frame rate is written as a zero** if it is at most half a thousandth. -/
theorem writtenRate_eq_zero (h : 0 < value x) :
    writtenRate x = ['0'] ↔ value x ≤ 1 / 2000 := by
  obtain ⟨m, q, hparts, hvalue⟩ := exists_parts_of_value_pos h
  rw [hvalue, ← thousandths_eq_zero, writtenRate, writeFixed_of_finite hparts]
  generalize thousandths m q = n
  constructor
  · intro hzero
    obtain ⟨ds, hdecimal, hdigits⟩ := isDecimal_writePositional (padNumber_ne_nil 4 n)
      (fun c hc => isAsciiDigit_of_mem_padNumber hc) (-3)
    have hnone := hdecimal.digitsValue_eq_zero fun c hc => zero_or_point_of_mem hzero hc
    rw [hnone, digitsValue_padNumber] at hdigits
    simpa using hdigits.symm
  · rintro rfl
    decide +kernel

theorem frameRate?_eq_zero (text : String) :
    frameRate? text = some "0" ↔
      ∃ x ∈ frameRateNumber? text, 0 < value x ∧ value x ≤ 1 / 2000 := by
  have hpositive (x : Float) : (0.0 < x && isFinite x) = true ↔ 0 < value x := by
    rw [Bool.and_eq_true, decide_eq_true_eq]
    cases hfinite : isFinite x with
    | true => rw [lt_iff_value isFinite_zero hfinite, value_zero]; simp
    | false => simp [value_of_isFinite_eq_false hfinite]
  have htext (x : Float) : String.ofList (writtenRate x) = "0" ↔ writtenRate x = ['0'] := by
    rw [← String.toList_inj, String.toList_ofList]
    rfl
  rw [frameRate?_eq]
  simp only [Option.map_eq_some_iff, Option.filter_eq_some_iff, hpositive, htext, Option.mem_def,
    and_assoc]
  refine exists_congr fun x => and_congr_right fun _ => and_congr_right fun h => ?_
  exact writtenRate_eq_zero h

/-- **Where a quantity is zero.** A count and a size never are; a rate is where it is above zero and
too small for what it is rounded to. -/
theorem zeros_law (text : String) :
    channels? text ≠ some 0 ∧ bitsPerSample? text ≠ some 0 ∧ dimension? text ≠ some 0 ∧
    (bitrate? text = some 0 ↔
      ∃ x ∈ bitrateNumber? text, 0 < value x ∧ value x < 1 / 2) ∧
    (sampleRate? text = some 0 ↔
      ∃ x ∈ sampleRateNumber? text, 0 < value x ∧ value x < 1 / 2) ∧
    (frameRate? text = some "0" ↔
      ∃ x ∈ frameRateNumber? text, 0 < value x ∧ value x ≤ 1 / 2000) := by
  refine ⟨channels?_ne_zero text, bitsPerSample?_ne_zero text, dimension?_ne_zero text, ?_, ?_,
    frameRate?_eq_zero text⟩
  · rw [bitrate?_eq, Option.bind_eq_some_iff]
    exact exists_congr fun x => and_congr_right fun hx =>
      wholeMeasure?_eq_zero (isNotANumber_bitrateNumber? hx)
  · rw [sampleRate?_eq, Option.bind_eq_some_iff]
    exact exists_congr fun x => and_congr_right fun hx =>
      wholeMeasure?_eq_zero (isNotANumber_sampleRateNumber? hx)

/-- Rates above zero that are taken for measures of zero, beside a size and rates that are not. -/
theorem fraction_rounded_away :
    bitrate? "0.3" = some 0 ∧ sampleRate? "0.4 Hz" = some 0 ∧ frameRate? "0.0001" = some "0" ∧
    dimension? "0.3" = none ∧ bitrate? "0" = none ∧ sampleRate? "0 Hz" = none ∧
    frameRate? "0" = none := by
  decide +kernel

end MediaIndex.Quantity
