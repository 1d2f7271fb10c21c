import MediaIndex.Format
import MediaIndex.Text.Lower
import MediaIndex.Text.Search
import MediaIndex.Number.Decimal

/-!
# Levels — how demanding a video stream is, per codec family

A level belongs to the family of a codec and means nothing outside it: `4.1` is a level of two
families and no level of three others. So a level is a family's own enumeration under a constructor
for the family, and reading one (`Level.ofToken?`) always takes the codec it is read for.

Each family has one table of codes. The first code of a level is the one that is written
(`Level.code`); the others are spellings that tools use. Codes are compared without regard to the
case of ASCII letters.
-/

set_option autoImplicit false

namespace MediaIndex

/-! ## The families -/

inductive H264Level where
  | l1 | l1b | l1_1 | l1_2 | l1_3 | l2 | l2_1 | l2_2 | l3 | l3_1 | l3_2 | l4 | l4_1 | l4_2
  | l5 | l5_1 | l5_2 | l6 | l6_1 | l6_2
  deriving Repr, DecidableEq

inductive H265Level where
  | l1 | l2 | l2_1 | l3 | l3_1 | l4 | l4_1 | l5 | l5_1 | l5_2 | l6 | l6_1 | l6_2
  deriving Repr, DecidableEq

inductive Mpeg2Level where
  | low | main | high1440 | high | highP
  deriving Repr, DecidableEq

inductive Mpeg4Level where
  | l0 | l0b | l1 | l2 | l3 | l3b | l4 | l4a | l5 | l6
  deriving Repr, DecidableEq

inductive Vc1Level where
  | low | medium | high | l0 | l1 | l2 | l3 | l4
  deriving Repr, DecidableEq

def H264Level.codes : List (String × H264Level) :=
  [("1", .l1), ("1b", .l1b), ("1.1", .l1_1), ("1.2", .l1_2), ("1.3", .l1_3), ("2", .l2),
   ("2.1", .l2_1), ("2.2", .l2_2), ("3", .l3), ("3.1", .l3_1), ("3.2", .l3_2), ("4", .l4),
   ("4.1", .l4_1), ("4.2", .l4_2), ("5", .l5), ("5.1", .l5_1), ("5.2", .l5_2), ("6", .l6),
   ("6.1", .l6_1), ("6.2", .l6_2)]

def H265Level.codes : List (String × H265Level) :=
  [("1", .l1), ("2", .l2), ("2.1", .l2_1), ("3", .l3), ("3.1", .l3_1), ("4", .l4),
   ("4.1", .l4_1), ("5", .l5), ("5.1", .l5_1), ("5.2", .l5_2), ("6", .l6), ("6.1", .l6_1),
   ("6.2", .l6_2)]

def Mpeg2Level.codes : List (String × Mpeg2Level) :=
  [("ll", .low), ("low", .low), ("ml", .main), ("main", .main), ("h14", .high1440),
   ("high 1440", .high1440), ("high1440", .high1440), ("hl", .high), ("high", .high),
   ("highp", .highP), ("high p", .highP)]

def Mpeg4Level.codes : List (String × Mpeg4Level) :=
  [("0", .l0), ("0b", .l0b), ("1", .l1), ("2", .l2), ("3", .l3), ("3b", .l3b), ("4", .l4),
   ("4a", .l4a), ("5", .l5), ("6", .l6)]

/-- The named levels of VC-1, which the simple and main profiles use. -/
def Vc1Level.names : List (String × Vc1Level) :=
  [("ll", .low), ("low", .low), ("ml", .medium), ("main", .medium), ("medium", .medium),
   ("hl", .high), ("high", .high)]

/-- The numbered levels of VC-1, which the advanced profile uses. -/
def Vc1Level.numbers : List (String × Vc1Level) :=
  [("0", .l0), ("1", .l1), ("2", .l2), ("3", .l3), ("4", .l4)]

/-- A level, under the family that gives it its meaning. -/
inductive Level where
  | h264 (level : H264Level)
  | h265 (level : H265Level)
  | mpeg2 (level : Mpeg2Level)
  | mpeg4 (level : Mpeg4Level)
  | vc1 (level : Vc1Level)
  deriving Repr, DecidableEq

namespace Level

/-- The level a code stands for, whatever the case of its letters. -/
def lookUp {α : Type} (codes : List (String × α)) (code : String) : Option α :=
  (codes.find? fun entry => Text.sameLetters entry.1 code).map (·.2)

/-- The first code of a level. -/
def firstCode {α : Type} [DecidableEq α] (codes : List (String × α)) (level : α) : String :=
  match codes.find? fun entry => entry.2 = level with
  | some entry => entry.1
  | none => "?"

/-- A token without the letter that introduces a numbered level; a token where no digit follows
the letter is left as it is. -/
def dropLetter (token : String) : String :=
  match token.toList with
  | 'l' :: d :: rest => if Number.isAsciiDigit d then String.ofList (d :: rest) else token
  | 'L' :: d :: rest => if Number.isAsciiDigit d then String.ofList (d :: rest) else token
  | _ => token

/-- Reads a level token for a codec: the spelling of a report (`L4.1`, `ML`) or the one that
`Level.code` writes. Codecs without levels have none to read. -/
def ofToken? (codec : Format) (token : String) : Option Level :=
  let token := Text.trim token
  match codec with
  | .h264 => (lookUp H264Level.codes (dropLetter token)).map .h264
  | .h265 => (lookUp H265Level.codes (dropLetter token)).map .h265
  | .mpeg4Visual | .divX => (lookUp Mpeg4Level.codes (dropLetter token)).map .mpeg4
  | .mpeg1 | .mpeg2 => (lookUp Mpeg2Level.codes token).map .mpeg2
  | .vc1 =>
    ((lookUp Vc1Level.names token).or (lookUp Vc1Level.numbers (dropLetter token))).map .vc1
  | _ => none

/-- The code a level is stored and shown under. -/
def code : Level → String
  | .h264 l => firstCode H264Level.codes l
  | .h265 l => firstCode H265Level.codes l
  | .mpeg2 l => firstCode Mpeg2Level.codes l
  | .mpeg4 l => firstCode Mpeg4Level.codes l
  | .vc1 l => firstCode (Vc1Level.names ++ Vc1Level.numbers) l

end Level

/-! ## Profile and level together -/

/-- A profile, with its level where one could be read. -/
structure ProfileLevel where
  profile : String
  level : Option Level
  deriving Repr, DecidableEq

/-- Splits a `profile@level` text for a codec. Of several alternatives the first counts, and a
second `@` introduces a tier, which does not bear on the level. Where no level can be read, the
whole text is the profile. -/
def ProfileLevel.ofText (codec : Option Format) (raw : String) : ProfileLevel :=
  let unread : ProfileLevel := ⟨Text.trim raw, none⟩
  let first := Text.trimChars (Text.beforeChar '/' raw.toList)
  match Text.cutWhere (· == '@') first, codec with
  | profile :: level :: _, some codec =>
    match Level.ofToken? codec (Text.trim (String.ofList level)) with
    | some level => ⟨Text.trim (String.ofList profile), some level⟩
    | none => unread
  | _, _ => unread

end MediaIndex
