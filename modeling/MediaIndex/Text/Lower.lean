import MediaIndex.Text.WordTable
import MediaIndex.Text.CaseTable

/-!
# Letter case — comparing what tools and people spell differently

Tokens are compared in lower case. The lower case of a text is not taken letter by letter: a capital
sigma at the end of a word becomes the final form, and a dotted capital I becomes two characters.
Both rules are those of the character standard.

Keywords and level codes are plain ASCII and are compared with `sameLetters`, for which a letter
outside ASCII is only ever equal to itself.
-/

set_option autoImplicit false

namespace MediaIndex.Text

/-- The small letter of a capital, where that is one character and does not depend on the
neighbours. Everything else is its own lower case. -/
def lowerChar (c : Char) : Char :=
  if c.toNat < 128 then c.toLower
  else
    match lowerRuns.find? fun r =>
        r.first ≤ c.toNat && c.toNat ≤ r.last && (c.toNat - r.first) % r.step == 0 with
    | some r => Char.ofNat (r.image + (c.toNat - r.first))
    | none => c

/-- Whether a letter with a case comes next, apart from characters that are passed over. -/
def meetsCased (cs : List Char) : Bool :=
  match cs.dropWhile fun c => inRanges caseIgnorableRanges c.toNat with
  | [] => false
  | c :: _ => inRanges casedRanges c.toNat

/-- The lower case of the rest of a text. `before` is what precedes it, nearest character first: a
capital sigma is final when a letter precedes it and none follows. -/
def lowerAfter : (before : List Char) → List Char → List Char
  | _, [] => []
  | before, c :: rest =>
    let image :=
      if c.toNat = 0x3A3 then
        [if meetsCased before && !meetsCased rest then Char.ofNat 0x3C2 else Char.ofNat 0x3C3]
      else if c.toNat = 0x130 then ['i', Char.ofNat 0x307]
      else [lowerChar c]
    image ++ lowerAfter (c :: before) rest

/-- A text in lower case. -/
def lower (s : String) : String :=
  String.ofList (lowerAfter [] s.toList)

/-- Whether two texts differ at most in the case of their ASCII letters. -/
def sameLetters (a b : String) : Bool :=
  a.toList.map Char.toLower == b.toList.map Char.toLower

/-- A text with its ASCII letters in upper case. -/
def asciiUpper (s : String) : String :=
  String.ofList (s.toList.map Char.toUpper)

end MediaIndex.Text
