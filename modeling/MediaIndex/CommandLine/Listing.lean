import MediaIndex.Cache.Stats
import MediaIndex.Cache.Sweep
import MediaIndex.Indexing.Scan

/-!
# Listings — what is shown to people

Every listing is a list of lines. What is not known is shown as `unknown` or `?`, or as the value
that is acted on in its place.
-/

set_option autoImplicit false

namespace MediaIndex

/-! ## Columns -/

/-- A text moved to the right of a column. -/
def padLeft (width : Nat) (s : String) : String :=
  String.ofList (List.replicate (width - s.length) ' ') ++ s

/-- A text at the left of a column. -/
def padRight (width : Nat) (s : String) : String :=
  s ++ String.ofList (List.replicate (width - s.length) ' ')

/-- A text, or the word for what is not known. -/
def orUnknown (v : Option String) : String := v.getD "unknown"

/-! ## Descriptors -/

namespace Descriptor

/-- The lines about the file. -/
def fileLines (d : Descriptor) : List String :=
  ["Type:        " ++ d.mediaType.name,
   "Container:   " ++ orUnknown (d.container.map (·.name)),
   "Duration:    " ++ orUnknown d.durationText?,
   "Bitrate:     " ++ toString d.effectiveBitrate.toNat ++ " bps"] ++
  (d.size.map fun n => "Size:        " ++ toString n.toNat ++ " bytes").toList

/-- The line about the profile, with the level where there is one. -/
def profileLine? (d : Descriptor) : Option String :=
  d.videoProfile.map fun profile =>
    "  Profile:   " ++ profile ++ ((d.videoLevel.map fun l => "@" ++ l.code).getD "")

/-- The line about the size of the frame. -/
def frameLine? (d : Descriptor) : Option String :=
  match d.width, d.height with
  | some w, some h => some ("  Size:      " ++ toString w.toNat ++ "x" ++ toString h.toNat)
  | _, _ => none

/-- The lines about the video, if there is any. -/
def videoLines (d : Descriptor) : List String :=
  match d.videoCodec with
  | none => []
  | some codec =>
    ["", "Video:       " ++ codec.name] ++ d.profileLine?.toList ++ d.frameLine?.toList ++
    (d.effectiveAspect?.map ("  Aspect:    " ++ ·)).toList ++
    ["  Frames:    " ++ d.effectiveFrameRate ++ " fps (" ++ d.effectiveFrameRateMode.name ++ ")",
     "  Depth:     " ++ toString d.effectiveVideoBitDepth.toNat ++ " bit"] ++
    (d.stereoLayout?.map fun l => "  3D:        " ++ l.name).toList

/-- The lines about the thumbnail, if there is one. -/
def thumbnailLines (d : Descriptor) : List String :=
  match d.thumbnail with
  | none => []
  | some t => ["", "Thumbnail:   " ++ t.mime ++ " (" ++ toString t.data.size ++ " bytes)"]

end Descriptor

/-- The lines about an audio track. -/
def AudioTrack.lines (t : AudioTrack) : List String :=
  ["",
   "Audio #" ++ toString t.number.toNat ++ ":    " ++ orUnknown (t.codec.map (·.name)) ++ " [" ++
     effectiveLanguage t.language ++ "]",
   "  " ++ toString t.effectiveChannels.toNat ++ " ch, " ++ toString t.effectiveSampleRate.toNat ++
     " Hz, " ++ toString t.effectiveBitDepth.toNat ++ " bit, delay " ++
     toString t.effectiveDelay.toInt ++ " ms"] ++
  (t.songName.map fun title =>
    "  " ++ title ++ " / " ++ t.artist.getD "?" ++ " / " ++ t.album.getD "?").toList

/-- The line about a subtitle track. -/
def SubtitleTrack.line (t : SubtitleTrack) : String :=
  "Subtitle #" ++ toString t.number.toNat ++ ": " ++ orUnknown (t.format.map (·.name)) ++ " [" ++
    effectiveLanguage t.language ++ "]" ++ (if t.forced then " forced" else "")

/-- The lines about a file. -/
def Descriptor.lines (d : Descriptor) : List String :=
  d.fileLines ++ d.videoLines ++ d.audioTracks.flatMap AudioTrack.lines ++
    d.subtitleTracks.map SubtitleTrack.line ++ d.thumbnailLines ++
    d.extras.entries.map fun e => "  " ++ e.1 ++ ": " ++ e.2

/-! ## Cue sheets -/

/-- A row of the table of tracks. -/
def trackRow (number start length whole title : String) : String :=
  padLeft 3 number ++ "  " ++ padLeft 12 start ++ "  " ++ padLeft 12 length ++ "  " ++
    padRight 7 whole ++ " " ++ title

/-- The row for a track. -/
def VirtualTrack.row (number : Nat) (t : VirtualTrack) : String :=
  trackRow (toString number) (clockText t.start) (t.descriptor.durationText?.getD "?")
    (if t.isPartial then "yes" else "no") t.title

/-- The lines about the tracks of a sheet. -/
def trackLines (file : Path) (tracks : List VirtualTrack) : List String :=
  if tracks.isEmpty then ["No tracks composed from " ++ file ++ "."]
  else
    [trackRow "#" "Start" "Length" "Partial" "Title", String.ofList (List.replicate 60 '-')] ++
      tracks.zipIdx.map fun t => t.1.row (t.2 + 1)

/-! ## The cache -/

/-- The line about a scan. -/
def ScanCounts.line (c : ScanCounts) : String :=
  "Scan complete: " ++ toString c.scanned ++ " scanned, " ++ toString c.probed ++ " probed, " ++
    toString c.skipped ++ " skipped, " ++ toString c.sheets ++ " cue sheets (" ++
    toString c.virtualTracks ++ " virtual tracks), " ++ toString c.errors ++ " errors"

/-- The line about a sweep. -/
def SweepReport.line (r : SweepReport) : String :=
  "Sweep complete: " ++ toString r.checked ++ " checked, " ++ toString r.removed ++ " removed, " ++
    toString r.surviving.length ++ " kept"

/-- The lines of a tally. -/
def tallyLines (t : Tally) : List String :=
  t.map fun e => "  " ++ padRight 8 e.1 ++ " " ++ toString e.2

/-- The lines about a cache. -/
def CacheStats.lines (s : CacheStats) : List String :=
  ["Cache Statistics", "================",
   "Files:            " ++ toString s.files,
   "Audio tracks:     " ++ toString s.audioTracks,
   "Subtitle tracks:  " ++ toString s.subtitleTracks,
   "Thumbnails:       " ++ toString s.thumbnails,
   "Total duration:   " ++ Number.writeFixed 1 s.hours ++ " hours", ""] ++
  (if s.mediaTypes.isEmpty then []
   else "Media types:" :: (tallyLines s.mediaTypes ++ [""])) ++
  (if s.containers.isEmpty then [] else "Containers:" :: tallyLines s.containers)

end MediaIndex
