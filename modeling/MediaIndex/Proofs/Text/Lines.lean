import MediaIndex.Proofs.Text.Cuts

/-!
# Texts cut between two lines

Texts are read line by line, but what is handed on is the text itself. A text can be cut between two
lines (`takeLines`, `dropLines`), and a line can be put in there (`insertLine`); nothing else is
touched.

> **`lines_takeLines`**, **`lines_dropLines`**: the lines of the two parts are those of the text, up
> to the cut and from it on.
>
> **`map_lines_insertLine`**: with a line put in, the lines are the same and that one between them,
> but for a carriage return that may be taken for a part of the line end.

A line that is closed is cut off by itself, whatever follows it (`lineChars_closed`). Only the last
one need not be closed, and behind it there is nothing to be cut (`length_lineChars_open`). It is
closed if a line is put in behind it, and that is where a carriage return can get lost.
-/

set_option autoImplicit false

namespace MediaIndex.Text

variable {line cs : List Char}

/-- What stands behind the first line end, if there is one. -/
def afterLine (cs : List Char) : List Char := (cs.dropWhile (· != '\n')).drop 1

/-- The characters from a line on, lines being counted from 0. -/
def dropLineChars : (n : Nat) → List Char → List Char
  | 0, cs => cs
  | n + 1, cs => dropLineChars n (afterLine cs)

/-- The characters above a line. -/
def takeLineChars : (n : Nat) → List Char → List Char
  | 0, _ => []
  | n + 1, cs =>
    cs.takeWhile (· != '\n') ++ (cs.dropWhile (· != '\n')).take 1 ++
      takeLineChars n (afterLine cs)

/-- The characters with a line put in below some lines, the last of which is closed if it is not. -/
def insertLineChars (line : List Char) : (n : Nat) → List Char → List Char
  | n + 1, c :: cs =>
    (c :: cs).takeWhile (· != '\n') ++ '\n' :: insertLineChars line n (afterLine (c :: cs))
  | _, cs => line ++ '\n' :: cs

/-- A text up to a line. -/
def takeLines (n : Nat) (s : String) : String := String.ofList (takeLineChars n s.toList)

/-- A text from a line on. -/
def dropLines (n : Nat) (s : String) : String := String.ofList (dropLineChars n s.toList)

/-- A text with a line put in below its first lines. -/
def insertLine (n : Nat) (line s : String) : String :=
  String.ofList (insertLineChars line.toList n s.toList)

/-! ## Single lines -/

theorem cutWhere_open (h : '\n' ∉ cs) : cutWhere (· == '\n') cs = [cs] :=
  cutWhere_of_none fun c hc => by simpa using bne_of_notMem h c hc

theorem lineChars_closed (h : '\n' ∉ line) (rest : List Char) :
    lineChars (line ++ '\n' :: rest) = dropReturn line :: lineChars rest := by
  have hcut : cutWhere (· == '\n') (line ++ '\n' :: rest) =
      line :: cutWhere (· == '\n') rest := by
    rw [cutWhere_append (by simp), cutWhere_open h, List.singleton_append]
  obtain ⟨piece, pieces, hrest⟩ :=
    List.exists_cons_of_ne_nil (cutWhere_ne_nil (p := (· == '\n')) rest)
  simp only [lineChars, hcut, hrest, List.dropLast_cons_cons, List.map_cons,
    List.getLast?_cons_cons]
  cases (piece :: pieces).getLast? with
  | none => rfl
  | some last => cases last <;> rfl

theorem lineChars_open (h : '\n' ∉ cs) (hsome : cs ≠ []) : lineChars cs = [cs] := by
  obtain ⟨c, rest, rfl⟩ := List.exists_cons_of_ne_nil hsome
  simp [lineChars, cutWhere_open h]

theorem length_lineChars_open (h : '\n' ∉ cs) : (lineChars cs).length ≤ 1 := by
  cases cs with
  | nil => exact Nat.zero_le 1
  | cons c rest => rw [lineChars_open h (List.cons_ne_nil c rest), List.length_singleton]

theorem dropWhile_closed (h : '\n' ∉ line) (rest : List Char) :
    (line ++ '\n' :: rest).dropWhile (· != '\n') = '\n' :: rest := by
  rw [List.dropWhile_append_of_pos (bne_of_notMem h)]
  rfl

theorem afterLine_closed (h : '\n' ∉ line) (rest : List Char) :
    afterLine (line ++ '\n' :: rest) = rest := by
  rw [afterLine, dropWhile_closed h, List.drop_one, List.tail_cons]

theorem afterLine_open (h : '\n' ∉ cs) : afterLine cs = [] := by
  rw [afterLine, List.dropWhile_eq_nil_iff.mpr (bne_of_notMem h), List.drop_nil]

/-- The first line is where the text begins. -/
theorem prefix_of_mem_head?_lineChars : ∀ l ∈ (lineChars cs).head?, l <+: cs := by
  by_cases hclosed : '\n' ∈ cs
  · obtain ⟨first, rest, rfl, hfirst⟩ := List.eq_append_cons_of_mem hclosed
    rw [lineChars_closed hfirst]
    rintro l ⟨⟩
    exact (prefix_dropReturn first).trans (List.prefix_append _ _)
  · cases cs with
    | nil => simp [show lineChars [] = [] from rfl]
    | cons c cs => simp [lineChars_open hclosed]

/-- A character in front of a text is in front of its first line. -/
theorem lineChars_cons {c : Char} (hend : c ≠ '\n') (hreturn : c ≠ '\r') (cs : List Char) :
    lineChars (c :: cs) =
      match lineChars cs with
      | [] => [[c]]
      | first :: rest => (c :: first) :: rest := by
  have hc (hopen : '\n' ∉ cs) : '\n' ∉ c :: cs := by
    simpa using ⟨hend.symm, hopen⟩
  by_cases hclosed : '\n' ∈ cs
  · obtain ⟨first, rest, rfl, hfirst⟩ := List.eq_append_cons_of_mem hclosed
    have hfirst' : '\n' ∉ c :: first := by
      simpa using ⟨hend.symm, hfirst⟩
    rw [← List.cons_append, lineChars_closed hfirst, lineChars_closed hfirst',
      dropReturn_cons hreturn]
  · rw [lineChars_open (hc hclosed) (List.cons_ne_nil c cs)]
    cases cs with
    | nil => rfl
    | cons d cs => rw [lineChars_open hclosed (List.cons_ne_nil d cs)]

/-! ## Two parts -/

theorem dropLineChars_nil (n : Nat) : dropLineChars n [] = [] := by
  induction n with
  | zero => rfl
  | succ n ih => exact ih

theorem takeLineChars_append_dropLineChars (n : Nat) (cs : List Char) :
    takeLineChars n cs ++ dropLineChars n cs = cs := by
  induction n generalizing cs with
  | zero => rfl
  | succ n ih =>
    rw [takeLineChars, dropLineChars, List.append_assoc, ih, afterLine, List.append_assoc,
      List.take_append_drop, List.takeWhile_append_dropWhile]

theorem lineChars_parts (n : Nat) (cs : List Char) :
    lineChars (takeLineChars n cs) = (lineChars cs).take n ∧
      lineChars (dropLineChars n cs) = (lineChars cs).drop n := by
  induction n generalizing cs with
  | zero => exact ⟨rfl, rfl⟩
  | succ n ih =>
    by_cases hclosed : '\n' ∈ cs
    · -- the first line is cut off by itself, and the others are those of the rest
      obtain ⟨line, rest, rfl, hline⟩ := List.eq_append_cons_of_mem hclosed
      obtain ⟨htaken, hleft⟩ := ih rest
      have hfirst : takeLineChars (n + 1) (line ++ '\n' :: rest) =
          line ++ '\n' :: takeLineChars n rest := by
        rw [takeLineChars, takeWhile_closed hline, dropWhile_closed hline, afterLine_closed hline,
          List.append_assoc]
        rfl
      rw [hfirst, dropLineChars, afterLine_closed hline, lineChars_closed hline,
        lineChars_closed hline]
      exact ⟨by rw [htaken, List.take_succ_cons], hleft⟩
    · have hone : (lineChars cs).length ≤ n + 1 :=
        (length_lineChars_open hclosed).trans (Nat.le_add_left 1 n)
      have hnone : dropLineChars (n + 1) cs = [] := by
        rw [dropLineChars, afterLine_open hclosed, dropLineChars_nil]
      have hall := takeLineChars_append_dropLineChars (n + 1) cs
      rw [hnone, List.append_nil] at hall
      rw [hall, hnone, List.take_of_length_le hone, List.drop_of_length_le hone]
      exact ⟨rfl, rfl⟩

theorem takeLines_append_dropLines (n : Nat) (s : String) :
    takeLines n s ++ dropLines n s = s := by
  rw [takeLines, dropLines, ← String.ofList_append, takeLineChars_append_dropLineChars,
    String.ofList_toList]

/-- **The lines of a text up to a line.** -/
theorem lines_takeLines (n : Nat) (s : String) : lines (takeLines n s) = (lines s).take n := by
  rw [lines, lines, takeLines, String.toList_ofList, (lineChars_parts n s.toList).1, List.map_take]

/-- **The lines of a text from a line on.** -/
theorem lines_dropLines (n : Nat) (s : String) : lines (dropLines n s) = (lines s).drop n := by
  rw [lines, lines, dropLines, String.toList_ofList, (lineChars_parts n s.toList).2, List.map_drop]

/-! ## A line put in -/

/-- Below its first line a text begins as it did. -/
theorem head?_insertLineChars (line : List Char) (n : Nat) (c : Char) (cs : List Char) :
    (insertLineChars line (n + 1) (c :: cs)).head? = some c := by
  rw [insertLineChars]
  by_cases hc : c = '\n' <;> simp [hc]

section

variable {α : Type} {f : List Char → α}

/-- Whatever does not see a carriage return at the end of a line sees the lines as they were, and
the new one between them. -/
theorem map_lineChars_insertLineChars (hf : ∀ l, f (dropReturn l) = f l) (h : '\n' ∉ line)
    (n : Nat) (cs : List Char) :
    (lineChars (insertLineChars line n cs)).map f =
      ((lineChars cs).take n ++ line :: (lineChars cs).drop n).map f := by
  induction n generalizing cs with
  | zero =>
    rw [insertLineChars, lineChars_closed h]
    · simp [hf]
    · simp
  | succ n ih =>
    cases cs with
    | nil =>
      have hnone : lineChars [] = [] := rfl
      rw [insertLineChars, lineChars_closed h, hnone]
      · simp [hf]
      · simp
    | cons c cs =>
      generalize hall : c :: cs = all
      have hstep : insertLineChars line (n + 1) all =
          all.takeWhile (· != '\n') ++ '\n' :: insertLineChars line n (afterLine all) := by
        rw [← hall, insertLineChars]
      rw [hstep]
      by_cases hclosed : '\n' ∈ all
      · obtain ⟨first, rest, rfl, hfirst⟩ := List.eq_append_cons_of_mem hclosed
        rw [takeWhile_closed hfirst, afterLine_closed hfirst, lineChars_closed hfirst,
          lineChars_closed hfirst, List.map_cons, ih]
        simp
      · -- the last line is closed now, and there it may lose a carriage return
        have hnone : lineChars [] = [] := rfl
        rw [takeWhile_open hclosed, afterLine_open hclosed, lineChars_closed hclosed,
          lineChars_open hclosed (hall ▸ List.cons_ne_nil c cs), List.map_cons, ih [], hf, hnone]
        simp

end

/-- **The lines of a text with a line put in**, for whatever does not see a carriage return at the
end of a line. -/
theorem map_lines_insertLine {α : Type} {f : String → α} {line : String}
    (hf : ∀ l : List Char, f (String.ofList (dropReturn l)) = f (String.ofList l))
    (h : '\n' ∉ line.toList) (n : Nat) (s : String) :
    (lines (insertLine n line s)).map f = ((lines s).take n ++ line :: (lines s).drop n).map f := by
  have hchars := map_lineChars_insertLineChars (f := f ∘ String.ofList) hf h n s.toList
  rw [lines, lines, insertLine, String.toList_ofList, List.map_map, hchars]
  simp [List.map_take, List.map_drop]

end MediaIndex.Text
