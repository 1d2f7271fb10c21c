/-!
# Decoding bytes — the text of a tool's output and of a sheet

A tool's output is decoded leniently: each maximal run of bytes that begins a character but does not
complete one becomes a single replacement character, and reading goes on after it. A cue sheet is
decoded strictly: one bad byte and there is no text at all. Both read the bytes by the same step,
`takeChar`, so they differ only in what they do with a failure.
-/

set_option autoImplicit false

namespace MediaIndex.Text

/-- The character that stands for undecodable bytes. -/
def replacement : Char := Char.ofNat 0xFFFD

/-- The bytes that may follow the first byte of a character of more than one byte: how many there
are, and the range of the one right behind it. Overlong forms, surrogates and code points beyond
the last one are shut out by narrowing that range. -/
def followers? (first : Nat) : Option (Nat × Nat × Nat) :=
  if 0xC2 ≤ first && first ≤ 0xDF then some (1, 0x80, 0xBF)
  else if first == 0xE0 then some (2, 0xA0, 0xBF)
  else if first == 0xED then some (2, 0x80, 0x9F)
  else if 0xE1 ≤ first && first ≤ 0xEF then some (2, 0x80, 0xBF)
  else if first == 0xF0 then some (3, 0x90, 0xBF)
  else if 0xF1 ≤ first && first ≤ 0xF3 then some (3, 0x80, 0xBF)
  else if first == 0xF4 then some (3, 0x80, 0x8F)
  else none

/-- Reads up to `count` continuation bytes, the first of them from `lo` to `hi`. Answers the number
of bytes read, their value on top of `acc`, and whether all were there. -/
def takeFollowers : (count lo hi acc read : Nat) → List UInt8 → Nat × Nat × Bool
  | 0, _, _, acc, read, _ => (read, acc, true)
  | _ + 1, _, _, acc, read, [] => (read, acc, false)
  | count + 1, lo, hi, acc, read, b :: bs =>
    if lo ≤ b.toNat && b.toNat ≤ hi then
      takeFollowers count 0x80 0xBF (acc * 64 + (b.toNat - 0x80)) (read + 1) bs
    else (read, acc, false)

/-- The payload bits of a first byte, by the number of bytes that follow it. -/
def leadBits (first count : Nat) : Nat :=
  if count = 1 then first - 0xC0 else if count = 2 then first - 0xE0 else first - 0xF0

/-- Reads one character: the character, or `none` for bytes that form none, and how many bytes
behind the first one belong to it. -/
def takeChar (first : UInt8) (rest : List UInt8) : Option Char × Nat :=
  if first.toNat < 0x80 then (some (Char.ofNat first.toNat), 0)
  else
    match followers? first.toNat with
    | none => (none, 0)
    | some (count, lo, hi) =>
      match takeFollowers count lo hi (leadBits first.toNat count) 0 rest with
      | (read, code, true) => (some (Char.ofNat code), read)
      | (read, _, false) => (none, read)

/-- Decodes bytes, with a replacement character for what does not decode. -/
def decodeLossyChars : List UInt8 → List Char
  | [] => []
  | b :: bs =>
    let step := takeChar b bs
    step.1.getD replacement :: decodeLossyChars (bs.drop step.2)
termination_by bs => bs.length
decreasing_by simp only [List.length_drop, List.length_cons]; omega

/-- Decodes bytes if all of them decode. -/
def decodeChars? : List UInt8 → Option (List Char)
  | [] => some []
  | b :: bs =>
    let step := takeChar b bs
    match step.1 with
    | none => none
    | some c => (decodeChars? (bs.drop step.2)).map (c :: ·)
termination_by bs => bs.length
decreasing_by simp only [List.length_drop, List.length_cons]; omega

/-- The text of a tool's output. -/
def decodeLossy (bytes : ByteArray) : String :=
  String.ofList (decodeLossyChars bytes.toList)

/-- The text of a file that has to be well formed. -/
def decode? (bytes : ByteArray) : Option String :=
  (decodeChars? bytes.toList).map String.ofList

end MediaIndex.Text
