import MediaIndex.Json.Value
import MediaIndex.Survey

/-!
# Track lists — the JSON report that describes a file stream by stream

The report holds one object for the file and one for each stream, each with its kind under `@type`
and with fields that carry the names a survey understands. `TrackList.ofText?` reads the objects and
`TrackList.events` turns them into survey events.

Two things need care. What a field means may depend on another one, so the format fields of a track
come first and its codec identifier last. And some fields of a survey are spread over several here:
a profile, its level and its tier are put together, and a delay is given in seconds.
-/

set_option autoImplicit false

namespace MediaIndex.TrackList

open MediaIndex.Json

/-- The members of one track, in ascending order of their keys. -/
abbrev Track : Type := List (String × Value)

/-! ## Reading -/

/-- How many brackets may be nested in a report: three of them enclose a track. -/
def nestingLimit : Nat := 127

/-- Reads one track. -/
def track? (tree : Tree) : Option Track :=
  match tree.value? (nestingLimit - 3) with
  | some (.object members) => some members
  | _ => none

/-- Decodes the keys of an object of which single members are wanted. -/
def decodedKeys? : List (List Piece × Tree) → Option (List (String × Tree))
  | [] => some []
  | (key, value) :: rest =>
    match stringText? key, decodedKeys? rest with
    | some key, some rest => some ((key, value) :: rest)
    | _, _ => none

/-- The member under a key, which may not stand there twice. The outer answer is `none` for a
malformed object, the inner one where there is no such member. -/
def soleMember? (key : String) (members : List (List Piece × Tree)) : Option (Option Tree) :=
  match decodedKeys? members with
  | none => none
  | some members =>
    match members.filter fun m => m.1 == key with
    | [] => some none
    | [m] => some (some m.2)
    | _ => none

/-- Reads an array of tracks. -/
def trackArray? : Tree → Option (List Track)
  | .array items => items.mapM track?
  | _ => none

/-- Reads the part of a report that describes the file. It may be missing altogether, and so may
its tracks; an array may stand in place of an object, with the members by position. -/
def media? : Tree → Option (List Track)
  | .null => some []
  | .object members =>
    match soleMember? "track" members with
    | none => none
    | some none => some []
    | some (some tracks) => trackArray? tracks
  | .array [] => some []
  | .array [tracks] => trackArray? tracks
  | _ => none

/-- Reads the whole report. -/
def report? : Tree → Option (List Track)
  | .object members =>
    match soleMember? "media" members with
    | none => none
    | some none => some []
    | some (some media) => media? media
  | .array [media] => media? media
  | _ => none

/-- Reads the text of a report. -/
def ofText? (text : String) : Option (List Track) :=
  (Tree.ofText? text).bind report?

/-! ## Events -/

/-- The kind of stream that a track describes; a track of any other kind is passed over. -/
def kind? (track : Track) : Option StreamKind :=
  match member? track "@type" with
  | some (.string "General") => some .general
  | some (.string "Video") => some .video
  | some (.string "Audio") => some .audio
  | some (.string "Image") => some .image
  | some (.string "Text") => some .text
  | _ => none

/-- The text of a field. -/
def fieldText? (track : Track) (key : String) : Option String :=
  (member? track key).bind Value.text?

/-- Puts a profile, a level and a tier together. A level that begins with a digit is introduced by
the letter L; a tier without a level is dropped. -/
def assembleProfile (profile : String) (level tier : Option String) : String :=
  match level with
  | none => profile
  | some level =>
    profile ++ (if (level.toList.head?).any Number.isAsciiDigit then "@L" else "@") ++ level ++
      (match tier with
        | some tier => "@" ++ tier
        | none => "")

/-- The profile of a track with its level and tier. -/
def profile? (track : Track) : Option String :=
  (fieldText? track "Format_Profile").map fun profile =>
    assembleProfile profile (fieldText? track "Format_Level") (fieldText? track "Format_Tier")

/-- The fields that come first, in this order. -/
def leadingKeys : List String :=
  ["Format", "Format_Version", "Format_Profile", "Format_AdditionalFeatures"]

/-- The fields that are used for others, and do not count by themselves. -/
def partKeys : List String := ["Format_Level", "Format_Tier", "Video_Delay", "Delay", "extra"]

/-- Whether a field counts by itself and has no place of its own in the order. -/
def isPlainKey (key : String) : Bool :=
  !Text.startsWith "@" key && key != "CodecID" && !leadingKeys.contains key &&
    !partKeys.contains key

/-- The event for a field that has a text. -/
def fieldEvent (kind : StreamKind) (name : String) (value : Option String) : List SurveyEvent :=
  (value.map fun v => .field kind (.ofText name) v).toList

/-- The delay in milliseconds, where one is given in seconds. -/
def delayText? (track : Track) : Option String :=
  ((fieldText? track "Video_Delay").bind Number.readFloat?).map fun seconds =>
    Number.writeFloat (Number.roundWhole (seconds * 1000.0))

/-- The remarks of a track. -/
def remarks (track : Track) : Track :=
  match member? track "extra" with
  | some (.object members) => members
  | _ => []

/-- The events of a track of a kind. -/
def kindEvents (kind : StreamKind) (track : Track) : List SurveyEvent :=
  .begin kind ::
    (leadingKeys.flatMap fun key =>
      fieldEvent kind key
        (if key == "Format_Profile" then profile? track else fieldText? track key)) ++
    ((track.filter fun m => isPlainKey m.1).flatMap fun m => fieldEvent kind m.1 m.2.text?) ++
    fieldEvent kind "Delay" (delayText? track) ++
    ((remarks track).flatMap fun m =>
      fieldEvent kind (FieldName.extraMark ++ m.1) m.2.text?) ++
    fieldEvent kind "CodecID" (fieldText? track "CodecID")

/-- The events of a track. -/
def trackEvents (track : Track) : List SurveyEvent :=
  match kind? track with
  | none => []
  | some kind => kindEvents kind track

/-- The events of a report. -/
def events (tracks : List Track) : List SurveyEvent := tracks.flatMap trackEvents

/-- The descriptor that the text of a report yields. -/
def describe? (text : String) : Option Descriptor :=
  (ofText? text).map fun tracks => (Survey.start.run (events tracks)).finish

end MediaIndex.TrackList
