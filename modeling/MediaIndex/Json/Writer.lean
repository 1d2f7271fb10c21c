import MediaIndex.Json.Value

/-!
# Writing JSON

Only texts are ever written: objects whose members are all texts. The form is compact, and of all
characters only those are escaped that have to be.
-/

set_option autoImplicit false

namespace MediaIndex.Json

/-- A digit of a hexadecimal number, in small letters. -/
def hexDigit (n : Nat) : Char := Nat.digitChar n

/-- A character inside quotes. -/
def escapedChar (c : Char) : List Char :=
  match c with
  | '"' => ['\\', '"']
  | '\\' => ['\\', '\\']
  | '\n' => ['\\', 'n']
  | '\r' => ['\\', 'r']
  | '\t' => ['\\', 't']
  | _ =>
    if c.toNat = 8 then ['\\', 'b']
    else if c.toNat = 12 then ['\\', 'f']
    else if c.toNat < 0x20 then
      ['\\', 'u', '0', '0', hexDigit (c.toNat / 16), hexDigit (c.toNat % 16)]
    else [c]

/-- A text between quotes. -/
def quoted (s : String) : List Char := '"' :: (s.toList.flatMap escapedChar ++ ['"'])

/-- An object whose members are texts. -/
def writeTexts (members : List (String × String)) : String :=
  let items := members.map fun m => quoted m.1 ++ ':' :: quoted m.2
  String.ofList ('\x7b' :: (List.intercalate [','] items ++ ['\x7d']))

/-- Reads an object whose members are texts. Of several members with one key the last counts. -/
def textsOf? : List (List Piece × Tree) → Option (List (String × String))
  | [] => some []
  | (key, .string value) :: rest =>
    match stringText? key, stringText? value, textsOf? rest with
    | some key, some value, some rest => some ((key, value) :: rest)
    | _, _, _ => none
  | _ :: _ => none

/-- Reads the text of such an object. -/
def readTexts? (s : String) : Option (List (String × String)) :=
  match Tree.ofText? s with
  | some (.object members) => textsOf? members
  | _ => none

end MediaIndex.Json
