import MediaIndex.Text.WordTable
import MediaIndex.Survey

/-!
# Stream summaries — the console report that lists inputs and streams

The report is meant for people. It is read line by line: a line is recognised by its shape alone
(`SummaryLine.ofText`), and what a recognised line means depends on the lines before it, which is
the state `SummaryState`. Each line turns into survey events (`SummaryState.step`).

Nothing counts before the first input line. A metadata block belongs to the input or to the stream
above it, and ends with the first line that is no entry.
-/

set_option autoImplicit false

namespace MediaIndex

/-! ## Small recognisers

Each answers what it recognised and what follows, or `none`. -/

namespace Scan

/-- A decimal digit of any script. -/
def isDigit (c : Char) : Bool :=
  if c.toNat < 128 then Number.isAsciiDigit c else Text.inRanges Text.digitRanges c.toNat

/-- A character of a word. -/
def isWordChar (c : Char) : Bool :=
  if c.toNat < 128 then c.isAlphanum || c == '_' else Text.inRanges Text.wordRanges c.toNat

/-- Whether a word may end here: what follows does not continue it. -/
def atWordEnd : List Char → Bool
  | [] => true
  | c :: _ => !isWordChar c

/-- What follows a given text. -/
def after? (lead : String) (cs : List Char) : Option (List Char) :=
  if lead.toList.isPrefixOf cs then some (cs.drop lead.toList.length) else none

/-- A run of characters that is not empty. -/
def run? (p : Char → Bool) (cs : List Char) : Option (List Char × List Char) :=
  match cs.takeWhile p with
  | [] => none
  | found => some (found, cs.dropWhile p)

/-- The first place in a text where a recogniser succeeds. The recogniser sees the character before
that place. -/
def first? {α : Type} (find : Option Char → List Char → Option α) :
    Option Char → List Char → Option α
  | before, [] => find before []
  | before, c :: cs =>
    match find before (c :: cs) with
    | some found => some found
    | none => first? find (some c) cs

end Scan

/-! ## Lines -/

/-- The types of streams that a summary names. -/
inductive SummaryStream where
  | video | audio | subtitle | data | attachment
  deriving Repr, DecidableEq

/-- A line of a summary, by its shape. -/
inductive SummaryLine where
  /-- An input begins; of its format names the first. -/
  | input (format : String)
  | duration (length : String) (bitrate : Option String)
  | stream (index : String) (language : Option String) (type : SummaryStream)
      (rest : List Char)
  | metadataHeading
  | entry (key value : String)
  | other

namespace SummaryLine

open Scan

/-- Whether the names of an input are closed by the word `from`, directly or after more names. -/
def closesNames (cs : List Char) : Bool :=
  (after? ", from" cs).isSome ||
    match cs with
    | ',' :: rest =>
      (rest.takeWhile (· != ' ')).getLast? == some ',' &&
        (after? " from" (rest.dropWhile (· != ' '))).isSome
    | _ => false

/-- An input line: `Input #0, name,name, from …`. -/
def input? (cs : List Char) : Option SummaryLine := do
  let cs ← after? "Input #" cs
  let (_, cs) ← run? isDigit cs
  let cs ← after? ", " cs
  let (name, cs) ← run? (· != ',') cs
  if closesNames cs then some (.input (String.ofList name)) else none

/-- The bit rate of a duration line. -/
def bitrate? (cs : List Char) : Option String := do
  let cs ← after? ", bitrate: " cs
  let (digits, cs) ← run? isDigit cs
  let _ ← after? " kb/s" cs
  return String.ofList (digits ++ " kb/s".toList)

/-- What follows the start of a duration line, where one is given. -/
def dropStart (cs : List Char) : List Char :=
  match (after? ", start: " cs).bind (run? (· != ',')) with
  | some (_, rest) => rest
  | none => cs

/-- A duration line: `Duration: 00:01:00.00, start: 0.0, bitrate: 128 kb/s`. -/
def duration? (cs : List Char) : Option SummaryLine := do
  let cs ← after? "Duration: " (cs.dropWhile Text.isBlank)
  let (length, cs) ← run? (· != ',') cs
  return .duration (String.ofList length) (bitrate? (dropStart cs))

/-- What follows the hexadecimal identifier of a stream, where one is given. -/
def dropIdentifier (cs : List Char) : List Char :=
  let isHex (c : Char) : Bool :=
    Number.isAsciiDigit c || ('a' ≤ c && c ≤ 'f') || ('A' ≤ c && c ≤ 'F')
  match ((after? "[0x" cs).bind (run? isHex)).bind fun r => after? "]" r.2 with
  | some rest => rest
  | none => cs

/-- The language of a stream, where one is given, and what follows. -/
def takeLanguage (cs : List Char) : Option String × List Char :=
  let isLetter (c : Char) : Bool := ('a' ≤ c && c ≤ 'z') || ('A' ≤ c && c ≤ 'Z')
  match (after? "(" cs).bind (run? isLetter) with
  | some (letters, ')' :: rest) => (some (String.ofList letters), rest)
  | _ => (none, cs)

/-- The words for the types of streams. -/
def streamWords : List (String × SummaryStream) :=
  [("Video: ", .video), ("Audio: ", .audio), ("Subtitle: ", .subtitle), ("Data: ", .data),
   ("Attachment: ", .attachment)]

/-- A stream line: `Stream #0:1[0x2](eng): Audio: …`. -/
def stream? (cs : List Char) : Option SummaryLine := do
  let cs ← after? "Stream #" (cs.dropWhile Text.isBlank)
  let (_, cs) ← run? isDigit cs
  let cs ← after? ":" cs
  let (index, cs) ← run? isDigit cs
  let (language, cs) := takeLanguage (dropIdentifier cs)
  let cs ← after? ": " cs
  streamWords.findSome? fun word =>
    (after? word.1 cs).map fun rest => .stream (String.ofList index) language word.2 rest

/-- The characters a metadata key begins with. -/
def isKeyStart (c : Char) : Bool :=
  ('a' ≤ c && c ≤ 'z') || ('A' ≤ c && c ≤ 'Z') || c == '_'

/-- The characters of a metadata key. -/
def isKeyChar (c : Char) : Bool := isKeyStart c || Number.isAsciiDigit c || c == '-'

/-- A metadata entry: indented, `key : value`. -/
def entry? (cs : List Char) : Option SummaryLine := do
  let (_, cs) ← run? Text.isBlank cs
  match cs with
  | c :: rest =>
    if isKeyStart c then
      let key := c :: rest.takeWhile isKeyChar
      let value ← after? ": " ((rest.dropWhile isKeyChar).dropWhile Text.isBlank)
      some (.entry (String.ofList key) (String.ofList value))
    else none
  | [] => none

/-- Recognises a line. -/
def ofText (line : String) : SummaryLine :=
  let cs := line.toList
  ((((input? cs).or (duration? cs)).or (stream? cs)).or
    (if Text.trim line == "Metadata:" then some .metadataHeading else entry? cs)).getD .other

end SummaryLine

/-! ## Streams -/

/-- Cuts a text at the commas outside all brackets. `depth` is the number of brackets open; of both
kinds together. -/
def cutTopLevel : (depth : Int) → List Char → List (List Char)
  | _, [] => [[]]
  | depth, c :: cs =>
    if c = ',' ∧ depth = 0 then [] :: cutTopLevel depth cs
    else
      let depth :=
        if c = '(' ∨ c = '[' then depth + 1 else if c = ')' ∨ c = ']' then depth - 1 else depth
      match cutTopLevel depth cs with
      | [] => [[c]]
      | piece :: pieces => (c :: piece) :: pieces

/-- The parts of a stream's description, trimmed. -/
def topLevelParts (cs : List Char) : List String :=
  (cutTopLevel 0 cs).map fun part => String.ofList (Text.trimChars part)

/-- The codec at the beginning of a part. -/
def codecWord (part : String) : String := (Text.words part).headD ""

/-- The profile in the first parentheses of a part; a pair of codes between blanks and a slash is
none. -/
def codecProfile? (part : String) : Option String :=
  match (part.toList.dropWhile (· != '(')).drop 1 with
  | [] => none
  | rest =>
    if rest.contains ')' then
      let inside := Text.beforeChar ')' rest
      if Text.occursIn " / ".toList inside then none else some (String.ofList inside)
    else none

open Scan in
/-- The frame size in a part: two numbers of two to five digits with an x between them. -/
def frameSize? (part : String) : Option (String × String) :=
  let at? (before : Option Char) (cs : List Char) : Option (String × String) := do
    if before.any isWordChar then none
    else
      let (w, cs) ← run? isDigit cs
      let cs ← after? "x" cs
      let (h, cs) ← run? isDigit cs
      if 2 ≤ w.length && w.length ≤ 5 && 2 ≤ h.length && h.length ≤ 5 && atWordEnd cs then
        some (String.ofList w, String.ofList h)
      else none
  first? at? none part.toList

open Scan in
/-- The display aspect ratio in a part. -/
def aspect? (part : String) : Option String :=
  let at? (_ : Option Char) (cs : List Char) : Option String := do
    let cs ← after? "DAR " cs
    let (w, cs) ← run? isDigit cs
    let cs ← after? ":" cs
    let (h, _) ← run? isDigit cs
    some (String.ofList (w ++ ':' :: h))
  first? at? none part.toList

open Scan in
/-- The bit depth in the name of a pixel format: two digits between a p and the byte order. -/
def pixelDepth? (part : String) : Option String :=
  let at? (_ : Option Char) (cs : List Char) : Option String :=
    match cs with
    | 'p' :: a :: b :: rest =>
      if isDigit a && isDigit b &&
          ((after? "le" rest).any atWordEnd || (after? "be" rest).any atWordEnd) then
        some (String.ofList [a, b])
      else none
    | _ => none
  first? at? none part.toList

open Scan in
/-- A remark on the bits in use, behind a sample format. -/
def usedBits? (cs : List Char) : Option String := do
  let cs ← after? " (" cs
  let (digits, cs) ← run? isDigit cs
  if cs = " bit)".toList then some (String.ofList digits) else none

/-- What follows the letter that marks a planar sample format, where it is there. -/
def dropPlanar (cs : List Char) : List Char :=
  match cs with
  | 'p' :: rest => rest
  | _ => cs

/-- The bit depth of a part that is a sample format: the bits in use, where they are remarked on,
else the number in the name. The formats of floating numbers have none in their name. -/
def sampleDepth? (part : String) : Option String :=
  let cs := part.toList
  let named : Option (Option String × List Char) :=
    match cs with
    | c :: a :: b :: rest =>
      if (c = 's' ∨ c = 'u') ∧ Scan.isDigit a ∧ Scan.isDigit b then
        some (some (String.ofList [a, b]), dropPlanar rest)
      else if [c, a, b] = "flt".toList ∨ [c, a, b] = "dbl".toList then
        some (none, dropPlanar rest)
      else none
    | _ => none
  match named with
  | none => none
  | some (bits, rest) => if rest.isEmpty then bits else usedBits? rest

/-- An event for a field. -/
def reported (kind : StreamKind) (name : FieldName) (value : String) : SurveyEvent :=
  .field kind name value

/-- The events for codec and profile, which stand in the first part. -/
def codecEvents (kind : StreamKind) (part : String) : List SurveyEvent :=
  reported kind .format (codecWord part) ::
    ((codecProfile? part).map (reported kind .formatProfile)).toList

/-- The events for a further part of a video stream. -/
def videoPartEvents (part : String) : List SurveyEvent :=
  let word := Text.lower part
  let video := reported .video
  let shape :=
    match frameSize? part with
    | some (w, h) =>
      [video .width w, video .height h] ++ ((aspect? part).map (video .aspect)).toList
    | none =>
      match Text.beforeTail? " fps" word with
      | some rate => [video .frameRate rate]
      | none =>
        if Text.contains "progressive" word then [video .scanType "progressive"]
        else if Text.contains "top first" word then
          [video .scanType "interlaced", video .scanOrder "tff"]
        else if Text.contains "bottom first" word then
          [video .scanType "interlaced", video .scanOrder "bff"]
        else []
  shape ++ ((pixelDepth? part).map (video .bitDepth)).toList

/-- The events of a video stream. -/
def videoEvents (parts : List String) : List SurveyEvent :=
  .begin .video :: codecEvents .video (parts.headD "") ++ parts.tail.flatMap videoPartEvents

/-- The bit depth in the name of a codec of plain samples. -/
def plainSampleDepth? (codec : String) : Option String :=
  match (Text.afterLead? "pcm_" codec).map String.toList with
  | some (c :: a :: b :: _) =>
    if c.toNat < 128 ∧ Number.isAsciiDigit a ∧ Number.isAsciiDigit b then
      some (String.ofList [a, b])
    else none
  | _ => none

/-- The events for the further parts of an audio stream. The part behind the sampling rate is the
loudspeaker layout. -/
def audioPartEvents : (afterRate : Bool) → List String → List SurveyEvent
  | _, [] => []
  | afterRate, part :: rest =>
    if Text.endsWith " Hz" part then
      reported .audio .samplingRate part :: audioPartEvents true rest
    else if afterRate then reported .audio .channels part :: audioPartEvents false rest
    else if Text.contains " kb/s" part then
      reported .audio .bitrate part :: audioPartEvents false rest
    else
      ((sampleDepth? part).map (reported .audio .bitDepth)).toList ++ audioPartEvents false rest

/-- The events of an audio stream. -/
def audioEvents (parts : List String) : List SurveyEvent :=
  let first := parts.headD ""
  .begin .audio :: codecEvents .audio first ++
    ((plainSampleDepth? (codecWord first)).map (reported .audio .bitDepth)).toList ++
    audioPartEvents false parts.tail

/-- The events of a subtitle stream. -/
def subtitleEvents (parts : List String) (rest : List Char) : List SurveyEvent :=
  [.begin .text, reported .text .format (codecWord (parts.headD ""))] ++
    (if Text.occursIn "(forced)".toList rest then [reported .text .forced "yes"] else []) ++
    (if Text.occursIn "(default)".toList rest then [reported .text .default "yes"] else [])

/-! ## Reading a summary -/

/-- What the lines below belong to. -/
inductive SummaryScope where
  | ignored
  | input
  | stream (kind : StreamKind)
  deriving Repr, DecidableEq

/-- The state between two lines. -/
structure SummaryState where
  scope : SummaryScope := .ignored
  inMetadata : Bool := false
  seenInput : Bool := false
  /-- The stream of the cover picture. -/
  cover : Option UInt32 := none
  deriving Repr, DecidableEq

namespace SummaryState

/-- The field of the file that a metadata key of an input stands for; any other key is a remark. -/
def inputField (key : String) : FieldName :=
  match Text.lower key with
  | "major_brand" => .codecId
  | "title" => .title
  | "album" => .album
  | "artist" | "album_artist" => .performer
  | "genre" => .genre
  | "date" | "year" => .recordedDate
  | "track" => .trackPosition
  | _ => .extra key

/-- Takes in a stream line. A cover picture is no stream of the file, and neither are data and
attachments; what is written below them is passed over. -/
def streamStep (s : SummaryState) (index : String) (language : Option String)
    (type : SummaryStream) (rest : List Char) : SummaryState × List SurveyEvent :=
  let s := { s with inMetadata := false }
  let parts := topLevelParts rest
  let begun (kind : StreamKind) (events : List SurveyEvent) : SummaryState × List SurveyEvent :=
    ({ s with scope := .stream kind },
      events ++ (language.map (reported kind .language)).toList)
  match type with
  | .video =>
    if Text.occursIn "(attached pic)".toList rest then
      ({ s with
          scope := .ignored
          cover := (Number.readNat? Quantity.limit index).map UInt32.ofNat }, [])
    else begun .video (videoEvents parts)
  | .audio => begun .audio (audioEvents parts)
  | .subtitle => begun .text (subtitleEvents parts rest)
  | .data | .attachment => ({ s with scope := .ignored }, [])

/-- Takes in a metadata entry: a field or a remark of the input, or the title of a stream. -/
def entryEvents (s : SummaryState) (key value : String) : List SurveyEvent :=
  match s.scope with
  | .input => [reported .general (inputField key) value]
  | .stream kind => if Text.sameLetters key "title" then [reported kind .title value] else []
  | .ignored => []

/-- Takes in a line. -/
def step (s : SummaryState) (line : SummaryLine) : SummaryState × List SurveyEvent :=
  match line with
  | .input format =>
    ({ s with seenInput := true, scope := .input, inMetadata := false },
      [.begin .general, reported .general .format format])
  | line =>
    if !s.seenInput then (s, [])
    else
      match line with
      | .input _ => (s, [])
      | .duration length bitrate =>
        ({ s with inMetadata := false },
          reported .general .duration length ::
            (bitrate.map (reported .general .overallBitrate)).toList)
      | .stream index language type rest => s.streamStep index language type rest
      | .metadataHeading => ({ s with inMetadata := true }, [])
      | .entry key value => (s, if s.inMetadata then s.entryEvents key value else [])
      | .other => ({ s with inMetadata := false }, [])

/-- Takes in a row of lines. -/
def run (s : SummaryState) : List SummaryLine → SummaryState × List SurveyEvent
  | [] => (s, [])
  | line :: rest =>
    let (s, events) := s.step line
    let (s, later) := run s rest
    (s, events ++ later)

end SummaryState

/-- What a summary yields: the descriptor, and the stream of the cover picture. -/
structure StreamSummary where
  descriptor : Descriptor
  cover : Option UInt32

namespace StreamSummary

/-- Reads a summary; a text without an input line is none. -/
def ofText? (text : String) : Option StreamSummary :=
  let (s, events) := SummaryState.run {} ((Text.lines text).map SummaryLine.ofText)
  if s.seenInput then some ⟨(Survey.start.run events).finish, s.cover⟩ else none

end StreamSummary

end MediaIndex
