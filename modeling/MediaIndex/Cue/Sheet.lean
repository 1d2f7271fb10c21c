import MediaIndex.LastItem
import MediaIndex.Number.Decimal
import MediaIndex.Text.Lower
import MediaIndex.Text.Search

/-!
# Cue sheets — text files that cut audio files into tracks

A sheet is read line by line, and a line in two steps. `CueLine.ofText` tells what a line says by
itself; what is wrong with it alone is found there. `CueSheet.add` puts it into the sheet, and
refuses what makes no sense at that place. Lines with other commands than the ones known here are
passed over.

A title, a performer or a songwriter belongs to the track above it, or to the whole sheet if there
is none. A new file closes the track.
-/

set_option autoImplicit false

namespace MediaIndex

/-! ## Sheets -/

/-- A position in a file: minutes, seconds, and frames. -/
structure CueTime where
  minutes : UInt32
  seconds : UInt32
  frames : UInt32
  deriving Repr, DecidableEq

/-- A position in seconds. A frame counts as a hundredth of a second, which is what every reference
that was ever stored is computed with. -/
def CueTime.inSeconds (t : CueTime) : Float :=
  t.minutes.toFloat * 60.0 + t.seconds.toFloat + t.frames.toFloat / 100.0

/-- A numbered position in a track. -/
structure CueIndex where
  number : UInt32
  position : CueTime
  deriving Repr, DecidableEq

/-- Who made what: the fields that both a sheet and a track have. -/
structure CueCredits where
  title : Option String := none
  performer : Option String := none
  songwriter : Option String := none
  deriving Repr, DecidableEq

/-- The names of those fields. -/
inductive CueCredit where
  | title | performer | songwriter
  deriving Repr, DecidableEq

/-- Sets one of the fields. -/
def CueCredits.set (c : CueCredits) (field : CueCredit) (value : Option String) : CueCredits :=
  match field with
  | .title => { c with title := value }
  | .performer => { c with performer := value }
  | .songwriter => { c with songwriter := value }

/-- A track of a sheet. -/
structure CueTrack where
  number : UInt32
  dataType : String
  credits : CueCredits := {}
  indices : List CueIndex := []
  deriving Repr, DecidableEq

/-- Where a track starts: at the index listed first, or else at the beginning of the file. -/
def CueTrack.start (t : CueTrack) : Float :=
  match t.indices with
  | [] => 0.0
  | index :: _ => index.position.inSeconds

/-- A section of a sheet: a file, and the tracks it is cut into. -/
structure CueSection where
  /-- As written, in general relative to the place of the sheet. -/
  file : String
  fileType : String
  tracks : List CueTrack := []
  deriving Repr, DecidableEq

/-- A cue sheet. -/
structure CueSheet where
  credits : CueCredits := {}
  genre : Option String := none
  date : Option String := none
  sections : List CueSection := []
  deriving Repr, DecidableEq

namespace CueSheet

/-- How many tracks all sections have together. -/
def trackCount (s : CueSheet) : Nat := (s.sections.flatMap (·.tracks)).length

/-- The year of the date, if the date begins with one: with four digits and not more. -/
def year? (s : CueSheet) : Option UInt32 :=
  s.date.bind fun date =>
    let digits := date.toList.takeWhile Number.isAsciiDigit
    if digits.length = 4 then some (UInt32.ofNat (Number.digitsValue digits)) else none

end CueSheet

/-! ## Lines -/

/-- What can be wrong with a line. -/
inductive CueFault where
  | openQuote
  | missingArgument
  | trackNumber
  | trackBeforeFile
  | indexNumber
  | indexPosition
  | indexOutsideTrack
  deriving Repr, DecidableEq

/-- The text of a fault. -/
def CueFault.message : CueFault → String
  | .openQuote => "unterminated quote"
  | .missingArgument => "missing argument"
  | .trackNumber => "track number is not a number"
  | .trackBeforeFile => "TRACK before any FILE"
  | .indexNumber => "index number is not a number"
  | .indexPosition => "index position is not mm:ss:ff"
  | .indexOutsideTrack => "INDEX outside a TRACK"

/-- What a line says. -/
inductive CueLine where
  | file (path type : String)
  | track (number : UInt32) (dataType : String)
  | index (index : CueIndex)
  | credit (field : CueCredit) (value : Option String)
  | genre (value : Option String)
  | date (value : Option String)
  | other
  deriving Repr, DecidableEq

namespace CueLine

/-- The words of a line. Quotes hold a word together, and one that is not closed is a fault; inside
a word that began without one a quote has no meaning. -/
def words? (cs : List Char) : Option (List (List Char)) :=
  match _h : cs.dropWhile Text.isBlank with
  | [] => some []
  | c :: rest =>
    if c = '"' then
      match _q : rest.dropWhile (· != '"') with
      | [] => none
      | _ :: after => (words? after).map (rest.takeWhile (· != '"') :: ·)
    else
      (words? (rest.dropWhile (!Text.isBlank ·))).map
        ((c :: rest.takeWhile (!Text.isBlank ·)) :: ·)
termination_by cs.length
decreasing_by
  all_goals
    have h1 := (cs.dropWhile_sublist Text.isBlank).length_le
    rw [_h] at h1
    simp only [List.length_cons] at h1
  · have h2 := (rest.dropWhile_sublist (· != '"')).length_le
    rw [_q] at h2
    simp only [List.length_cons] at h2
    omega
  · have h2 := (rest.dropWhile_sublist (!Text.isBlank ·)).length_le
    omega

/-- Reads a count. -/
def number? (word : String) : Option UInt32 :=
  (Number.readNat? 0xffffffff word).map UInt32.ofNat

/-- Reads a position: minutes, seconds and frames between colons. -/
def time? (word : String) : Option CueTime :=
  match Text.pieces ':' word with
  | [m, s, f] =>
    match number? m, number? s, number? f with
    | some m, some s, some f => some ⟨m, s, f⟩
    | _, _, _ => none
  | _ => none

/-- The words of a text value, joined again; a blank value counts as none. -/
def value? (words : List String) : Option String := Text.nonBlank? (" ".intercalate words)

/-- Reads the arguments of a track. -/
def track? : List String → Except CueFault CueLine
  | [] => .error .missingArgument
  | number :: more =>
    match number? number with
    | none => .error .trackNumber
    | some n => .ok (.track n (more.headD ""))

/-- Reads the arguments of an index. -/
def index? : List String → Except CueFault CueLine
  | [] => .error .missingArgument
  | number :: more =>
    match number? number, more.head?.bind time? with
    | none, _ => .error .indexNumber
    | some _, none => .error .indexPosition
    | some n, some t => .ok (.index ⟨n, t⟩)

/-- Reads a remark. Two of them say something about the album. -/
def remark : List String → CueLine
  | [] => .other
  | topic :: more =>
    match Text.asciiUpper topic with
    | "GENRE" => .genre (value? more)
    | "DATE" => .date (value? more)
    | _ => .other

/-- Reads a command with its arguments. -/
def ofWords : List String → Except CueFault CueLine
  | [] => .ok .other
  | command :: arguments =>
    match Text.asciiUpper command with
    | "FILE" =>
      match arguments with
      | [] => .error .missingArgument
      | path :: more => .ok (.file path (more.headD ""))
    | "TRACK" => track? arguments
    | "INDEX" => index? arguments
    | "TITLE" => .ok (.credit .title (value? arguments))
    | "PERFORMER" => .ok (.credit .performer (value? arguments))
    | "SONGWRITER" => .ok (.credit .songwriter (value? arguments))
    | "REM" => .ok (remark arguments)
    | _ => .ok .other

/-- Reads a line. -/
def ofText (line : String) : Except CueFault CueLine :=
  match words? line.toList with
  | none => .error .openQuote
  | some words => ofWords (words.map String.ofList)

end CueLine

/-! ## Reading sheets -/

/-- A fault, and the line that has it, counted from one. -/
structure CueError where
  line : Nat
  fault : CueFault
  deriving Repr, DecidableEq

/-- The text of an error. -/
def CueError.message (e : CueError) : String :=
  "line " ++ toString e.line ++ ": " ++ e.fault.message

namespace CueSheet

/-- Whether a track is open. -/
def inTrack (s : CueSheet) : Bool := s.sections.getLast?.any fun f => !f.tracks.isEmpty

/-- Changes the file that is open. -/
def modifyFile (s : CueSheet) (f : CueSection → CueSection) : CueSheet :=
  { s with sections := modifyLast f s.sections }

/-- Changes the track that is open. -/
def modifyTrack (s : CueSheet) (f : CueTrack → CueTrack) : CueSheet :=
  s.modifyFile fun file => { file with tracks := modifyLast f file.tracks }

/-- Adds a line. -/
def add (s : CueSheet) : CueLine → Except CueFault CueSheet
  | .file path type => .ok { s with sections := s.sections ++ [⟨path, type, []⟩] }
  | .track number dataType =>
    if s.sections.isEmpty then .error .trackBeforeFile
    else .ok (s.modifyFile fun f => { f with tracks := f.tracks ++ [⟨number, dataType, {}, []⟩] })
  | .index index =>
    if s.inTrack then .ok (s.modifyTrack fun t => { t with indices := t.indices ++ [index] })
    else .error .indexOutsideTrack
  | .credit field value =>
    if s.inTrack then .ok (s.modifyTrack fun t => { t with credits := t.credits.set field value })
    else .ok { s with credits := s.credits.set field value }
  | .genre value => .ok { s with genre := value }
  | .date value => .ok { s with date := value }
  | .other => .ok s

/-- Reads a line and adds it. -/
def addText (s : CueSheet) (line : String) : Except CueFault CueSheet :=
  (CueLine.ofText line).bind s.add

/-- Adds the lines from one with a given number on. -/
def addLines (s : CueSheet) (number : Nat) : List String → Except CueError CueSheet
  | [] => .ok s
  | line :: rest =>
    match s.addText line with
    | .ok s => s.addLines (number + 1) rest
    | .error fault => .error ⟨number, fault⟩

/-- A text without the mark that some editors put in front to tell the order of the bytes. -/
def dropByteOrderMark (text : String) : String :=
  (Text.afterLead? "\ufeff" text).getD text

/-- Reads a sheet. -/
def ofText (text : String) : Except CueError CueSheet :=
  addLines {} 1 (Text.lines (dropByteOrderMark text))

end CueSheet

end MediaIndex
