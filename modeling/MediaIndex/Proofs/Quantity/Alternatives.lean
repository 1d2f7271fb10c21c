import MediaIndex.Proofs.Quantity.Numbers
import MediaIndex.Proofs.Text.Cuts
import MediaIndex.Proofs.Text.Lower

/-!
# Which alternative a quantity is read from

Where a report gives several values for one quantity, a slash between blanks separates them. Which
one is taken is a matter of the quantity; that the others do not count at all is what is shown here:
a text and the same text with an alternative more are read alike.

> **`alternatives_law`**: all quantities but one are read from what stands before the first ` / `,
> the bits of a sample from what stands behind the last.

The slash is also a part of `b/s`, of `n/a` and of fractions. The unit of a bit rate is respelled
before the text is cut, so a text may have any number of these (`UnitSlashes`). A frame rate is cut
at the whole separator. There the text that is cut may itself end with a blank and a slash, and the
two slashes share a blank; but then the slash is not in the first word, or it is the first word and
no number.
-/

set_option autoImplicit false

namespace MediaIndex.Quantity

open Text

/-! ## The first alternative and the last -/

variable {a : List Char}

theorem firstAlternative_append (h : '/' ∉ a) (rest : List Char) :
    firstAlternative (a ++ ' ' :: '/' :: rest) = firstAlternative a := by
  have hfront : '/' ∉ a ++ [' '] := by simpa using h
  have hblank : ∀ c ∈ [' '], isBlank c = true := by simp [isBlank]
  rw [firstAlternative, firstAlternative, beforeChar, beforeChar, takeWhile_open h,
    List.append_cons, takeWhile_closed hfront, trimChars_append_blanks hblank]

theorem lastAlternative_append (h : '/' ∉ a) (front : List Char) :
    lastAlternative (front ++ ' ' :: '/' :: ' ' :: a) = lastAlternative a := by
  have hblank : trimChars (' ' :: a) = trimChars a := by
    rw [trimChars, List.dropWhile_cons_of_pos (by decide), trimChars]
  rw [lastAlternative, lastAlternative, afterLastChar_open h, ← hblank, List.append_cons,
    afterLastChar_closed (by simpa using h)]

/-! ## Units with a slash -/

/-- A text in which each slash is that of a unit `b/s`, in any letter case. -/
inductive UnitSlashes : List Char → Prop
  | nil : UnitSlashes []
  | char {c : Char} {rest : List Char} (plain : c ≠ '/') (more : UnitSlashes rest) :
      UnitSlashes (c :: rest)
  | unit {b s : Char} {rest : List Char} (first : b = 'b' ∨ b = 'B') (last : s = 's' ∨ s = 'S')
      (more : UnitSlashes rest) : UnitSlashes (b :: '/' :: s :: rest)

/-- A blank is in no unit, so respelling may be cut there. -/
theorem respellUnit_append (cs rest : List Char) :
    respellUnit (cs ++ ' ' :: rest) = respellUnit cs ++ ' ' :: respellUnit rest := by
  fun_induction respellUnit cs with
  | case1 cs ih => simp [respellUnit, ih]
  | case2 c cs hunit ih =>
    rw [List.cons_append, respellUnit, ih, List.cons_append]
    rintro tail rfl htail
    -- the unit would lie before the blank, or the blank in it
    cases cs with
    | nil => simp at htail
    | cons d cs =>
      cases cs with
      | nil => simp at htail
      | cons e cs =>
        simp only [List.cons_append, List.cons.injEq] at htail
        obtain ⟨rfl, rfl, -⟩ := htail
        exact hunit cs rfl rfl
  | case3 => simp [respellUnit]

theorem notMem_respellUnit_append {front tail : List Char} (hfront : '/' ∉ front)
    (htail : '/' ∉ respellUnit tail) : '/' ∉ respellUnit (front ++ tail) := by
  induction front with
  | nil => exact htail
  | cons c front ih =>
    obtain ⟨hc, hfront⟩ := not_or.mp (List.mem_cons.not.mp hfront)
    have ih := ih hfront
    rw [List.cons_append]
    generalize front ++ tail = cs at ih ⊢
    -- a unit that begins here leaves a slash behind it, but there is none
    rw [respellUnit]
    · simpa using ⟨hc, ih⟩
    · rintro rest rfl rfl
      exact ih (by simp [respellUnit])

theorem notMem_respellUnit (h : UnitSlashes a) (before : List Char) :
    '/' ∉ respellUnit (lowerAfter before a) := by
  induction h generalizing before with
  | nil => simp [lowerAfter, respellUnit]
  | @char c rest plain more ih =>
    rw [lowerAfter_cons]
    exact notMem_respellUnit_append (notMem_lowerImage plain before rest) (ih _)
  | @unit b s rest first last more ih =>
    have hb : lowerImage before b ('/' :: s :: rest) = ['b'] := by
      rcases first with rfl | rfl <;> exact lowerImage_ascii (by decide) _ _
    have hslash : lowerImage (b :: before) '/' (s :: rest) = ['/'] :=
      lowerImage_ascii (by decide) _ _
    have hs : lowerImage ('/' :: b :: before) s rest = ['s'] := by
      rcases last with rfl | rfl <;> exact lowerImage_ascii (by decide) _ _
    rw [lowerAfter_cons, lowerAfter_cons, lowerAfter_cons, hb, hslash, hs]
    simpa [respellUnit] using ih _

/-- What a bit rate is read from. -/
theorem firstAlternative_respellUnit (h : UnitSlashes a) (rest : List Char) :
    firstAlternative (respellUnit (lowerAfter [] (a ++ ' ' :: '/' :: rest))) =
      firstAlternative (respellUnit (lowerAfter [] a)) := by
  have hblank (before : List Char) : lowerImage before ' ' ('/' :: rest) = [' '] :=
    lowerImage_ascii (by decide) _ _
  have hslash (before : List Char) : lowerImage before '/' rest = ['/'] :=
    lowerImage_ascii (by decide) _ _
  rw [lowerAfter_append (by decide +kernel), lowerAfter_cons, lowerAfter_cons, hblank, hslash,
    List.singleton_append, List.singleton_append, respellUnit_append, respellUnit]
  · exact firstAlternative_append (notMem_respellUnit h []) _
  · simp

/-! ## Fractions -/

/-- The text before the separator, where one more stands at the end: either it is what it was, or
the text ends with a half of a separator, and that is cut off. -/
theorem beforeText_append (a b : List Char) :
    beforeText [' ', '/', ' '] (a ++ ' ' :: '/' :: ' ' :: b) = beforeText [' ', '/', ' '] a ∨
      ∃ front, a = front ++ [' ', '/'] ∧ beforeText [' ', '/', ' '] a = a ∧
        beforeText [' ', '/', ' '] (a ++ ' ' :: '/' :: ' ' :: b) = front := by
  induction a with
  | nil => exact Or.inl (by simp [beforeText])
  | cons c a ih =>
    have hstep (cs : List Char) : beforeText [' ', '/', ' '] (c :: cs) =
        if [' ', '/', ' '].isPrefixOf (c :: cs) then []
        else c :: beforeText [' ', '/', ' '] cs := rfl
    rw [List.cons_append, hstep, hstep]
    by_cases hhere : [' ', '/', ' '].isPrefixOf (c :: a) = true
    · have hthere : [' ', '/', ' '].isPrefixOf (c :: (a ++ ' ' :: '/' :: ' ' :: b)) = true := by
        rw [List.isPrefixOf_iff_prefix] at hhere ⊢
        exact hhere.trans (List.prefix_append (c :: a) _)
      exact Or.inl (by rw [if_pos hhere, if_pos hthere])
    · rw [if_neg hhere]
      by_cases hthere : [' ', '/', ' '].isPrefixOf (c :: (a ++ ' ' :: '/' :: ' ' :: b)) = true
      · -- the separator begins in the text and ends behind it
        have hhalf : c = ' ' ∧ a = ['/'] := by
          match a with
          | [] => simp at hthere
          | [d] =>
            obtain ⟨rfl, rfl⟩ : ' ' = c ∧ '/' = d := by simpa using hthere
            exact ⟨rfl, rfl⟩
          | d :: e :: a =>
            obtain ⟨rfl, rfl, rfl⟩ : ' ' = c ∧ '/' = d ∧ ' ' = e := by simpa using hthere
            exact absurd hhere (by simp)
        obtain ⟨rfl, rfl⟩ := hhalf
        exact Or.inr ⟨[], rfl, rfl, rfl⟩
      · rw [if_neg hthere]
        rcases ih with heq | ⟨front, rfl, hself, hcut⟩
        · exact Or.inl (by rw [heq])
        · exact Or.inr ⟨c :: front, rfl, by rw [hself], by rw [hcut]⟩

theorem toList_alternatives (a b : String) :
    (a ++ " / " ++ b).toList = a.toList ++ ' ' :: '/' :: ' ' :: b.toList := by
  simp [String.toList_append]

theorem frameRateNumber?_append (a b : String) :
    frameRateNumber? (a ++ " / " ++ b) = frameRateNumber? a := by
  unfold frameRateNumber? firstSpacedAlternative
  rw [toList_alternatives, head?_wordChars_trimChars, head?_wordChars_trimChars]
  rcases beforeText_append a.toList b.toList with heq | ⟨front, ha, hself, hcut⟩
  · rw [heq]
  · have hblank : isBlank ' ' = true := by simp [isBlank]
    rw [hcut, hself, ha]
    by_cases hsome : front.dropWhile isBlank = []
    · -- a slash alone is no fraction
      have hnone : (wordChars front).head? = none := by rw [head?_wordChars, hsome]; rfl
      have hslash : (wordChars (front ++ [' ', '/'])).head? = some ['/'] := by
        rw [head?_wordChars, List.dropWhile_append_of_pos (List.dropWhile_eq_nil_iff.mp hsome)]
        decide
      rw [hnone, hslash]
      decide
    · rw [head?_wordChars_append hsome hblank]

/-! ## Durations that are not available -/

theorem sameLetters_eq_false {s t : String} {c : Char} (hs : c ∈ s.toList)
    (ht : c.toLower ∉ t.toList.map Char.toLower) : sameLetters s t = false := by
  rw [sameLetters, beq_eq_false_iff_ne]
  intro heq
  rw [← heq] at ht
  exact ht (List.mem_map_of_mem hs)

theorem sameLetters_of_notMem {s t : String} (hs : '/' ∉ s.toList) (ht : '/' ∈ t.toList) :
    sameLetters (trim s) t = false := by
  rw [sameLetters, beq_eq_false_iff_ne]
  intro heq
  have hslash : '/' ∈ (trim s).toList.map Char.toLower := by
    rw [heq]
    exact List.mem_map.mpr ⟨'/', ht, by decide⟩
  obtain ⟨c, hc, hlower⟩ := List.mem_map.mp hslash
  have hc' : c ∈ s.toList := by
    rw [trim, String.toList_ofList] at hc
    exact (List.dropWhile_sublist _).subset ((List.rdropWhile_prefix isBlank _).subset hc)
  exact toLower_ne_slash (fun heq => hs (heq ▸ hc')) hlower

/-- What is not available is written without blanks. -/
theorem sameLetters_alternatives (a b : String) :
    sameLetters (trim (a ++ " / " ++ b)) "n/a" = false := by
  have htext : (trim (a ++ " / " ++ b)).toList =
      (a.toList ++ [' ']).dropWhile isBlank ++
        '/' :: dropEndWhile isBlank (' ' :: b.toList) := by
    rw [trim, String.toList_ofList, toList_alternatives, List.append_cons,
      trimChars_append_cons (by decide)]
  rw [List.dropWhile_append] at htext
  split at htext
  · rw [sameLetters, beq_eq_false_iff_ne, htext]
    simp [isBlank]
  · have hmem : ' ' ∈ (trim (a ++ " / " ++ b)).toList := by
      rw [htext]
      simp
    exact sameLetters_eq_false hmem (by decide)

theorem duration?_append {a : String} (h : '/' ∉ a.toList) (b : String) :
    duration? (a ++ " / " ++ b) = duration? a := by
  unfold duration?
  rw [sameLetters_alternatives, sameLetters_of_notMem h (by decide), toList_alternatives,
    firstAlternative_append h]

/-! ## All quantities -/

/-- **A quantity is read from one alternative**, the first or, for the bits of a sample, the last:
with another one beside it a text is read as it is without. That a text gives one alternative is,
for a bit rate, that it has no slash but in its units; a frame rate may be a fraction. -/
theorem alternatives_law (a b : String) :
    ('/' ∉ a.toList →
      sampleRate? (a ++ " / " ++ b) = sampleRate? a ∧
      channels? (a ++ " / " ++ b) = channels? a ∧
      delay? (a ++ " / " ++ b) = delay? a ∧
      duration? (a ++ " / " ++ b) = duration? a ∧
      dimension? (a ++ " / " ++ b) = dimension? a ∧
      bitsPerSample? (b ++ " / " ++ a) = bitsPerSample? a) ∧
    (UnitSlashes a.toList → bitrate? (a ++ " / " ++ b) = bitrate? a) ∧
    frameRate? (a ++ " / " ++ b) = frameRate? a := by
  refine ⟨fun h => ?_, fun h => ?_, ?_⟩
  · have hfirst : firstAlternative (a ++ " / " ++ b).toList = firstAlternative a.toList := by
      rw [toList_alternatives, firstAlternative_append h]
    have hlast : lastAlternative (b ++ " / " ++ a).toList = lastAlternative a.toList := by
      rw [toList_alternatives, lastAlternative_append h]
    unfold sampleRate? channels? delay? dimension? bitsPerSample?
    rw [hfirst, hlast, duration?_append h]
    exact ⟨rfl, rfl, rfl, rfl, rfl, rfl⟩
  · have hrespelled : firstAlternative (respellUnit (lower (a ++ " / " ++ b)).toList) =
        firstAlternative (respellUnit (lower a).toList) := by
      rw [lower, lower, String.toList_ofList, String.toList_ofList, toList_alternatives,
        firstAlternative_respellUnit h]
    unfold bitrate?
    rw [hrespelled]
  · rw [frameRate?_eq, frameRate?_eq, frameRateNumber?_append]

/-- Alternatives whose unit has a slash, in front of what is no alternative at all. -/
theorem alternatives_law_rates :
    (UnitSlashes "1.5 Mb/S".toList ∧ bitrate? ("1.5 Mb/S" ++ " / " ++ "n/a") = some 1500000) ∧
    ('/' ∉ "24 bits".toList ∧ bitsPerSample? ("n/a" ++ " / " ++ "24 bits") = some 24) ∧
    ('/' ∉ "44.1 kHz".toList ∧ sampleRate? ("44.1 kHz" ++ " / " ++ "22050") = some 44100) ∧
    frameRate? ("30000/1001 /" ++ " / " ++ "25") = some "29.97" := by
  have hunit : UnitSlashes "1.5 Mb/S".toList :=
    .char (by decide) (.char (by decide) (.char (by decide) (.char (by decide) (.char (by decide)
      (.unit (.inl rfl) (.inr rfl) .nil)))))
  have hbits : '/' ∉ "24 bits".toList := by decide
  have hkilo : '/' ∉ "44.1 kHz".toList := by decide
  obtain ⟨-, hbitrate, -⟩ := alternatives_law "1.5 Mb/S" "n/a"
  obtain ⟨hlast, -, -⟩ := alternatives_law "24 bits" "n/a"
  obtain ⟨hfirst, -, -⟩ := alternatives_law "44.1 kHz" "22050"
  obtain ⟨-, -, hframes⟩ := alternatives_law "30000/1001 /" "25"
  obtain ⟨-, -, -, -, -, hdepth⟩ := hlast hbits
  exact ⟨⟨hunit, (hbitrate hunit).trans (by decide +kernel)⟩,
    ⟨hbits, hdepth.trans (by decide +kernel)⟩,
    ⟨hkilo, (hfirst hkilo).1.trans (by decide +kernel)⟩, hframes.trans (by decide +kernel)⟩

end MediaIndex.Quantity
