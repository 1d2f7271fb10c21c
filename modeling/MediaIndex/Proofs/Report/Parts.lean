import Mathlib.Data.List.Infix
import MediaIndex.Report.StreamSummary

/-!
# The parts of a stream line

The description of a stream is cut at its commas, but a comma inside of brackets belongs to the part
around it. The cutting counts brackets as it goes. What it comes to is said here by places: of every
comma the text in front of it tells whether it is a cut (`commasAfter`), and the parts are what
stands between the cuts (`partsBetween`).

> **`cutTopLevel_eq`**: the cuts are the commas in front of which as many brackets are closed as
> opened, whatever the text is.
>
> **`topLevelParts_law`**: where no bracket is closed before it is opened, these are the commas with
> no bracket open.

A bracket that is closed too early is not forgotten: a comma behind it is no cut until another one
has been opened.
-/

set_option autoImplicit false

namespace MediaIndex

/-! ## Brackets -/

/-- Whether a character opens a bracket of either kind. -/
def isOpening (c : Char) : Bool := c == '(' || c == '['

/-- Whether a character closes a bracket of either kind. -/
def isClosing (c : Char) : Bool := c == ')' || c == ']'

/-- How many brackets are open at the end of a text, both kinds together. Closing one where none is
open does nothing. -/
def openBrackets (cs : List Char) : Nat :=
  cs.foldl (fun n c => if isOpening c then n + 1 else if isClosing c then n - 1 else n) 0

/-- How many more brackets a text opens than it closes. -/
def balance (cs : List Char) : Int := cs.countP isOpening - cs.countP isClosing

/-- A text that closes no bracket before it has opened one. -/
def ClosesOpened (cs : List Char) : Prop :=
  ∀ front ∈ cs.inits, front.countP isClosing ≤ front.countP isOpening

instance (cs : List Char) : Decidable (ClosesOpened cs) :=
  inferInstanceAs (Decidable (∀ front ∈ cs.inits, _))

theorem ClosesOpened.of_prefix {front cs : List Char} (h : ClosesOpened cs)
    (hfront : front <+: cs) : ClosesOpened front := fun f hf =>
  h f ((List.mem_inits f cs).mpr (((List.mem_inits f front).mp hf).trans hfront))

theorem isClosing_of_isOpening {c : Char} (h : isOpening c = true) : isClosing c = false := by
  simp only [isOpening, isClosing, Bool.or_eq_true, beq_iff_eq] at h ⊢
  rcases h with rfl | rfl <;> decide

theorem balance_append (cs ds : List Char) : balance (cs ++ ds) = balance cs + balance ds := by
  unfold balance
  rw [List.countP_append, List.countP_append]
  omega

/-- What one character counts, as the cutting says it. -/
theorem balance_singleton (c : Char) :
    balance [c] = if c = '(' ∨ c = '[' then 1 else if c = ')' ∨ c = ']' then -1 else 0 := by
  have hopening : isOpening c = true ↔ c = '(' ∨ c = '[' := by simp [isOpening]
  have hclosing : isClosing c = true ↔ c = ')' ∨ c = ']' := by simp [isClosing]
  rw [balance, List.countP_singleton, List.countP_singleton]
  by_cases ho : isOpening c = true
  · rw [if_pos ho, isClosing_of_isOpening ho, if_pos (hopening.mp ho)]
    rfl
  · rw [if_neg ho, if_neg (hopening.not.mp ho)]
    by_cases hc : isClosing c = true
    · rw [if_pos hc, if_pos (hclosing.mp hc)]
      rfl
    · rw [if_neg hc, if_neg (hclosing.not.mp hc)]
      rfl

/-- **Where no bracket is closed too early, the balance is the number of open brackets.** -/
theorem openBrackets_eq {cs : List Char} (h : ClosesOpened cs) :
    (openBrackets cs : Int) = balance cs := by
  induction cs using List.reverseRecOn with
  | nil => rfl
  | append_singleton cs c ih =>
    have ih := ih (h.of_prefix (List.prefix_append cs [c]))
    have hlast : openBrackets (cs ++ [c]) =
        if isOpening c then openBrackets cs + 1
        else if isClosing c then openBrackets cs - 1 else openBrackets cs := by
      rw [openBrackets, List.foldl_append]
      rfl
    have hwhole := h (cs ++ [c]) ((List.mem_inits _ _).mpr List.prefix_rfl)
    rw [List.countP_append, List.countP_append, List.countP_singleton,
      List.countP_singleton] at hwhole
    unfold balance at ih ⊢
    rw [hlast, List.countP_append, List.countP_append, List.countP_singleton,
      List.countP_singleton]
    by_cases ho : isOpening c = true
    · have hc := isClosing_of_isOpening ho
      simp only [ho, hc, if_true, Bool.false_eq_true, if_false]
      omega
    · by_cases hc : isClosing c = true
      · -- one that is closed is open, since no more are closed than opened
        simp only [ho, hc, if_true, Bool.false_eq_true, if_false] at hwhole ⊢
        omega
      · simp only [ho, hc, Bool.false_eq_true, if_false]
        omega

/-! ## Places -/

/-- The places of the commas of a text that are told by what stands in front of them. -/
def commasAfter (p : List Char → Bool) (cs : List Char) : List Nat :=
  (List.range cs.length).filter fun i => cs[i]? == some ',' && p (cs.take i)

/-- What stands between places in ascending order, from `start` on. The characters at those places
are left out. -/
def partsBetween (cs : List Char) : (start : Nat) → (places : List Nat) → List (List Char)
  | start, [] => [cs.drop start]
  | start, place :: places => (cs.take place).drop start :: partsBetween cs (place + 1) places

theorem commasAfter_cons (p : List Char → Bool) (c : Char) (cs : List Char) :
    commasAfter p (c :: cs) =
      (if c = ',' ∧ p [] = true then [0] else []) ++
        (commasAfter (fun front => p (c :: front)) cs).map (· + 1) := by
  unfold commasAfter
  rw [List.length_cons, List.range_succ_eq_map, List.filter_cons, List.filter_map]
  have hfirst : ((c :: cs)[0]? == some ',' && p ((c :: cs).take 0)) = true ↔
      c = ',' ∧ p [] = true := by simp
  by_cases hc : c = ',' ∧ p [] = true
  · rw [if_pos (hfirst.mpr hc), if_pos hc]
    rfl
  · rw [if_neg (hfirst.not.mpr hc), if_neg hc]
    rfl

theorem length_partsBetween (cs : List Char) (start : Nat) (places : List Nat) :
    (partsBetween cs start places).length = places.length + 1 := by
  induction places generalizing start with
  | nil => rfl
  | cons place places ih => rw [partsBetween, List.length_cons, ih, List.length_cons]

/-- Behind a first character all places are one further on. -/
theorem partsBetween_cons_succ (c : Char) (cs : List Char) (start : Nat) (places : List Nat) :
    partsBetween (c :: cs) (start + 1) (places.map (· + 1)) = partsBetween cs start places := by
  induction places generalizing start with
  | nil => rfl
  | cons place places ih =>
    rw [List.map_cons, partsBetween, partsBetween, ih, List.take_succ_cons, List.drop_succ_cons]

/-- A first character that is no cut belongs to the first part. -/
theorem partsBetween_cons_zero (c : Char) (cs : List Char) (places : List Nat) :
    ∃ part parts, partsBetween cs 0 places = part :: parts ∧
      partsBetween (c :: cs) 0 (places.map (· + 1)) = (c :: part) :: parts := by
  cases places with
  | nil => exact ⟨_, _, rfl, rfl⟩
  | cons place places =>
    refine ⟨_, _, rfl, ?_⟩
    rw [List.map_cons, partsBetween, partsBetween_cons_succ]
    rfl

/-- Whichever commas are cuts, with commas between them the parts are the text. -/
theorem intercalate_partsBetween (p : List Char → Bool) (cs : List Char) :
    [','].intercalate (partsBetween cs 0 (commasAfter p cs)) = cs := by
  induction cs generalizing p with
  | nil => rfl
  | cons c cs ih =>
    have ih := ih fun front => p (c :: front)
    rw [commasAfter_cons]
    generalize commasAfter (fun front => p (c :: front)) cs = places at ih ⊢
    obtain ⟨part, parts, hparts, hfirst⟩ := partsBetween_cons_zero c cs places
    split
    · rename_i hcut
      rw [List.singleton_append, partsBetween, partsBetween_cons_succ, hparts,
        List.intercalate_cons_cons, ← hparts, ih, hcut.1]
      rfl
    · rw [List.nil_append, hfirst]
      rw [hparts] at ih
      cases parts with
      | nil => simpa using ih
      | cons next parts =>
        rw [List.intercalate_cons_cons] at ih ⊢
        rw [List.cons_append, List.cons_append, ih]

/-! ## Cuts -/

/-- **The cuts of a text** are the commas in front of which the brackets are balanced, those that
were open before counted in. -/
theorem cutTopLevel_eq (depth : Int) (cs : List Char) :
    cutTopLevel depth cs =
      partsBetween cs 0 (commasAfter (fun front => depth + balance front == 0) cs) := by
  induction cs generalizing depth with
  | nil => rfl
  | cons c cs ih =>
    have hstep : (if c = '(' ∨ c = '[' then depth + 1
        else if c = ')' ∨ c = ']' then depth - 1 else depth) = depth + balance [c] := by
      rw [balance_singleton]
      split
      · rfl
      · split
        · rfl
        · exact (Int.add_zero depth).symm
    have hfronts : (fun front => depth + balance (c :: front) == 0) =
        fun front => depth + balance [c] + balance front == 0 := by
      funext front
      rw [← List.singleton_append, balance_append, Int.add_assoc]
    have hiff : c = ',' ∧ (depth + balance [] == 0) = true ↔ c = ',' ∧ depth = 0 := by
      simp [balance]
    have ih := ih (depth + balance [c])
    rw [cutTopLevel, hstep, commasAfter_cons, hfronts]
    generalize commasAfter (fun front => depth + balance [c] + balance front == 0) cs = places
      at ih ⊢
    by_cases hcut : c = ',' ∧ depth = 0
    · have hcomma : depth + balance [c] = depth := by
        rw [hcut.1]
        exact Int.add_zero depth
      rw [if_pos hcut, if_pos (hiff.mpr hcut), List.singleton_append, partsBetween,
        partsBetween_cons_succ, ← ih, hcomma]
      rfl
    · obtain ⟨part, parts, hparts, hfirst⟩ := partsBetween_cons_zero c cs places
      rw [if_neg hcut, if_neg (hiff.not.mpr hcut), List.nil_append, hfirst]
      dsimp only
      rw [ih, hparts]

/-- Behind a bracket that is closed too early the brackets are balanced when one more is open. -/
example : cutTopLevel 0 "),a(,b".toList = ["),a(".toList, "b".toList] := by decide

/-- The commas of a text that are outside of all brackets. -/
def outerCommas (cs : List Char) : List Nat := commasAfter (openBrackets · == 0) cs

theorem outerCommas_eq {cs : List Char} (h : ClosesOpened cs) :
    outerCommas cs = commasAfter (fun front => 0 + balance front == 0) cs := by
  refine List.filter_congr fun i _ => ?_
  have hopen := openBrackets_eq (h.of_prefix (List.take_prefix i cs))
  have hzero : (openBrackets (cs.take i) == 0) = (0 + balance (cs.take i) == 0) := by
    rw [Int.zero_add, ← hopen, Bool.eq_iff_iff, beq_iff_eq, beq_iff_eq, Int.natCast_eq_zero]
  exact congrArg (cs[i]? == some ',' && ·) hzero

/-- **A description is cut at the commas outside of all brackets**, and nothing but them is lost:
there is one part more than there are such commas, and with commas between them the parts, before
they are trimmed, are the description. -/
theorem topLevelParts_law {cs : List Char} (h : ClosesOpened cs) :
    topLevelParts cs = (partsBetween cs 0 (outerCommas cs)).map
        (fun part => Text.trim (String.ofList part)) ∧
      (partsBetween cs 0 (outerCommas cs)).length = (outerCommas cs).length + 1 ∧
      [','].intercalate (partsBetween cs 0 (outerCommas cs)) = cs := by
  refine ⟨?_, length_partsBetween cs 0 _, intercalate_partsBetween _ cs⟩
  rw [topLevelParts, cutTopLevel_eq, ← outerCommas_eq h]
  refine List.map_congr_left fun part _ => ?_
  rw [Text.trim, String.toList_ofList]

/-- A description with brackets inside of brackets. -/
def described : List Char := "h264 (High, [avc1, 4:2:0]), yuv420p(tv, bt709), 25 fps".toList

/-- Two of five commas are outside of all brackets. -/
theorem topLevelParts_law_described :
    ClosesOpened described ∧ outerCommas described = [26, 46] ∧
      topLevelParts described =
        ["h264 (High, [avc1, 4:2:0])", "yuv420p(tv, bt709)", "25 fps"] := by
  have hcloses : ClosesOpened described := by decide +kernel
  obtain ⟨hparts, -, -⟩ := topLevelParts_law hcloses
  exact ⟨hcloses, by decide +kernel, hparts.trans (by decide +kernel)⟩

end MediaIndex
