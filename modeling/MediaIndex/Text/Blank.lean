/-!
# Blanks — what may be cut off the ends of a text, and what separates its words

Reports pad their values, and sheets are indented by hand. A blank is a character with the property
"white space" of the character standard, in every script and not only in ASCII: the no-break space
that some tools put between thousands is one, the zero-width space is none.

Texts are cut as lists of characters. `trim` and `words` are the forms on `String` that the rest of
the library calls.
-/

set_option autoImplicit false

namespace MediaIndex.Text

/-- White space in every script. -/
def isBlank (c : Char) : Bool :=
  let n := c.toNat
  (9 ≤ n && n ≤ 13) || n == 0x20 || n == 0x85 || n == 0xA0 || n == 0x1680 ||
    (0x2000 ≤ n && n ≤ 0x200A) || n == 0x2028 || n == 0x2029 || n == 0x202F || n == 0x205F ||
    n == 0x3000

/-- Cuts a run of characters off the end of a list. -/
def dropEndWhile (p : Char → Bool) (cs : List Char) : List Char :=
  (cs.reverse.dropWhile p).reverse

/-- Cuts the blanks off both ends of a list of characters. -/
def trimChars (cs : List Char) : List Char :=
  dropEndWhile isBlank (cs.dropWhile isBlank)

/-- A text without the blanks at its ends. -/
def trim (s : String) : String :=
  String.ofList (trimChars s.toList)

/-- The trimmed text, unless nothing is left of it. -/
def nonBlank? (s : String) : Option String :=
  let t := trim s
  if t.isEmpty then none else some t

/-- The words of a text: its longest runs without a blank. -/
def wordChars (cs : List Char) : List (List Char) :=
  match _h : cs.dropWhile isBlank with
  | [] => []
  | c :: rest =>
    (c :: rest.takeWhile (!isBlank ·)) :: wordChars (rest.dropWhile (!isBlank ·))
termination_by cs.length
decreasing_by
  have h1 := (rest.dropWhile_sublist (!isBlank ·)).length_le
  have h2 := (cs.dropWhile_sublist isBlank).length_le
  rw [_h] at h2
  simp only [List.length_cons] at h2
  omega

/-- The words of a text, in order. -/
def words (s : String) : List String :=
  (wordChars s.toList).map String.ofList

end MediaIndex.Text
