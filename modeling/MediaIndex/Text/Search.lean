import MediaIndex.Text.Blank

/-!
# Searching and cutting texts

The tests that token rules are made of (`startsWith`, `endsWith`, `contains`) and the cuts that
split a report: at a character, before the first occurrence of a text, into lines. Each is a plain
recursion over the characters, with its form on `String` beside it.
-/

set_option autoImplicit false

namespace MediaIndex.Text

/-! ## Tests -/

/-- Whether a text begins with another. -/
def startsWith (lead s : String) : Bool :=
  lead.toList.isPrefixOf s.toList

/-- Whether a text ends with another. -/
def endsWith (tail s : String) : Bool :=
  tail.toList.isSuffixOf s.toList

/-- Whether one list of characters occurs inside another. -/
def occursIn (part : List Char) : List Char → Bool
  | [] => part.isEmpty
  | c :: cs => part.isPrefixOf (c :: cs) || occursIn part cs

/-- Whether a text occurs inside another. -/
def contains (part s : String) : Bool :=
  occursIn part.toList s.toList

/-- What follows a given beginning. -/
def afterLead? (lead s : String) : Option String :=
  if startsWith lead s then some (String.ofList (s.toList.drop lead.toList.length)) else none

/-- What precedes a given end. -/
def beforeTail? (tail s : String) : Option String :=
  if endsWith tail s then
    some (String.ofList (s.toList.take (s.toList.length - tail.toList.length)))
  else none

/-! ## Cuts -/

/-- The pieces between the characters that satisfy `p`; one more than there are such
characters. -/
def cutWhere (p : Char → Bool) : List Char → List (List Char)
  | [] => [[]]
  | c :: cs =>
    if p c then [] :: cutWhere p cs
    else
      match cutWhere p cs with
      | [] => [[c]]
      | piece :: pieces => (c :: piece) :: pieces

/-- The pieces of a text between the occurrences of a character. -/
def pieces (sep : Char) (s : String) : List String :=
  (cutWhere (· == sep) s.toList).map String.ofList

/-- The characters before the first occurrence of `sep`, or all of them. -/
def beforeChar (sep : Char) (cs : List Char) : List Char :=
  cs.takeWhile (· != sep)

/-- The characters after the last occurrence of `sep`, or all of them. -/
def afterLastChar (sep : Char) (cs : List Char) : List Char :=
  (cs.reverse.takeWhile (· != sep)).reverse

/-- The characters before the first occurrence of a text, or all of them. -/
def beforeText (part : List Char) : List Char → List Char
  | [] => []
  | c :: cs => if part.isPrefixOf (c :: cs) then [] else c :: beforeText part cs

/-- Cuts a text off the end as often as it stands there. `part` is not to be empty. -/
def dropEndText (part cs : List Char) : List Char :=
  if _h : part.isSuffixOf cs ∧ 0 < part.length ∧ 0 < cs.length then
    dropEndText part (cs.take (cs.length - part.length))
  else cs
termination_by cs.length
decreasing_by
  simp only [List.length_take]
  omega

/-- A line without the carriage return that ends it, if one does. -/
def dropReturn (cs : List Char) : List Char :=
  match cs.reverse with
  | '\r' :: rest => rest.reverse
  | _ => cs

/-- The lines of a text. A line end closes its line, so a text that ends with one has no empty line
after it; a carriage return before a line end belongs to the line end. -/
def lineChars (cs : List Char) : List (List Char) :=
  let cut := cutWhere (· == '\n') cs
  let closed := cut.dropLast.map dropReturn
  match cut.getLast? with
  | none | some [] => closed
  | some last => closed ++ [last]

/-- The lines of a text. -/
def lines (s : String) : List String :=
  (lineChars s.toList).map String.ofList

end MediaIndex.Text
