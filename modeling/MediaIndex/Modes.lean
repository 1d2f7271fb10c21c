import MediaIndex.Text.Lower
import MediaIndex.Text.Search

/-!
# Modes — the small vocabularies of a descriptor

What a file holds (`MediaType`), whether a rate varies (`RateMode`), how frames are scanned
(`ScanType`, `ScanOrder`). Each has a word for the cache and for reports, and a reader that accepts
that word and the spellings of the tools, whatever their case and the blanks around them.
-/

set_option autoImplicit false

namespace MediaIndex

/-- The form in which mode words are compared. -/
def modeWord (value : String) : String := Text.lower (Text.trim value)

/-! ## What a file holds -/

inductive MediaType where
  | audio | image | video | unknown
  deriving Repr, DecidableEq

namespace MediaType

/-- The number a media type is stored under. -/
def code : MediaType → Int
  | .audio => 1
  | .image => 2
  | .video => 4
  | .unknown => 8

/-- The media type stored under a number; a number that no type is stored under is an unknown
type. -/
def ofCode (code : Int) : MediaType :=
  if code = 1 then .audio else if code = 2 then .image else if code = 4 then .video else .unknown

def name : MediaType → String
  | .audio => "audio"
  | .image => "image"
  | .video => "video"
  | .unknown => "unknown"

end MediaType

/-! ## Rates -/

/-- Whether a bit rate or a frame rate is the same throughout. -/
inductive RateMode where
  | constant | variable
  deriving Repr, DecidableEq

namespace RateMode

def name : RateMode → String
  | .constant => "cbr"
  | .variable => "vbr"

def ofText? (value : String) : Option RateMode :=
  match modeWord value with
  | "cbr" | "cfr" | "constant" => some .constant
  | "vbr" | "vfr" | "variable" => some .variable
  | _ => none

end RateMode

/-! ## Scanning -/

/-- Whether frames come whole or as two fields. -/
inductive ScanType where
  | progressive | interlaced | mbaff | paff | mixed
  deriving Repr, DecidableEq

namespace ScanType

def name : ScanType → String
  | .progressive => "progressive"
  | .interlaced => "interlaced"
  | .mbaff => "mbaff"
  | .paff => "paff"
  | .mixed => "mixed"

def ofText? (value : String) : Option ScanType :=
  match modeWord value with
  | "progressive" => some .progressive
  | "interlaced" => some .interlaced
  | "mbaff" => some .mbaff
  | "paff" => some .paff
  | "mixed" => some .mixed
  | _ => none

end ScanType

/-- Which of the two fields of a frame comes first, or the cadence of a film on video. -/
inductive ScanOrder where
  | topFirst | bottomFirst | pulldown | bottomThenTop | topThenBottom
  deriving Repr, DecidableEq

namespace ScanOrder

def name : ScanOrder → String
  | .topFirst => "tff"
  | .bottomFirst => "bff"
  | .pulldown => "pulldown"
  | .bottomThenTop => "bff/tff"
  | .topThenBottom => "tff/bff"

/-- Any mention of a pulldown is one; it is written with its cadence in front. -/
def ofText? (value : String) : Option ScanOrder :=
  let word := modeWord value
  if Text.contains "pulldown" word then some .pulldown
  else
    match word with
    | "tff" | "top field first" => some .topFirst
    | "bff" | "bottom field first" => some .bottomFirst
    | "bff/tff" => some .bottomThenTop
    | "tff/bff" => some .topThenBottom
    | _ => none

end ScanOrder

end MediaIndex
