import MediaIndex.Cue.Reference
import MediaIndex.Cue.Sheet
import MediaIndex.Probe.Failure

/-!
# Composing the tracks of a cue sheet

Each track of a sheet becomes a `VirtualTrack`: a clip of the file of its section, with a descriptor
of its own. The descriptor is the one of the file, except for what the sheet knows better and for
what does not hold of a part: the size.

A file is probed when its first section is reached, and the answer serves as long as the next
section is about the same file. A section whose file cannot be probed yields no tracks, but its
tracks are counted, so that the others keep their numbers.
-/

set_option autoImplicit false

namespace MediaIndex

/-- A clip of a file that stands for a track. -/
structure VirtualTrack where
  path : Path
  start : Float
  /-- Where the clip ends; infinite for the end of the file. -/
  finish : Float
  title : String
  descriptor : Descriptor
  /-- The engine that has to play the clip, if not any can. -/
  player : Option String := none

/-- Whether a clip is less than the whole file. A clip from zero to the end is not, even if a sheet
names it. -/
def isPartialClip (start finish : Float) : Bool :=
  decide (0.0 < start) || (finish != 0.0 && Number.isFinite finish)

/-- The length of a clip: the distance of its bounds, or what the file has left after the start
where the end is open. -/
def clipDuration (start finish : Float) (fileDuration : Option Float) : Option Float :=
  if Number.isFinite finish && finish != 0.0 then some (finish - start)
  else
    fileDuration.map fun d =>
      let rest := d - start
      if 0.0 < rest then rest else 0.0

namespace VirtualTrack

/-- Whether the track is less than its file. -/
def isPartial (t : VirtualTrack) : Bool := isPartialClip t.start t.finish

/-- The reference under which the track is kept. -/
def reference (t : VirtualTrack) : ClipReference := ⟨t.path, t.start, t.finish, some t.title⟩

end VirtualTrack

/-- What the user may choose about composed tracks. -/
structure CompositionStyle where
  /-- The word for a track without a title; its number follows. -/
  trackLabel : String := "Track"
  /-- The engine that plays a part of a file. -/
  transcoder : String := "ffmpeg-audio"
  deriving Repr, DecidableEq

namespace CueSheet

/-- A text without the blanks around it, unless it is blank. -/
def present? (value : Option String) : Option String := value.bind Text.nonBlank?

/-- The artist of a track. Performers come before songwriters, and the track before the sheet. -/
def artist? (s : CueSheet) (t : CueTrack) : Option String :=
  (((present? t.credits.performer).or (present? s.credits.performer)).or
    (present? t.credits.songwriter)).or (present? s.credits.songwriter)

/-- The title of the track with a given number. -/
def trackTitle (style : CompositionStyle) (number : Nat) (t : CueTrack) : String :=
  (present? t.credits.title).getD (style.trackLabel ++ " #" ++ toString number)

/-- What the sheet says about the song, put onto the first audio track of a descriptor. The album's
part is only for a track that can carry tags. -/
def tagSong (s : CueSheet) (number : Nat) (title : String) (t : CueTrack) (a : AudioTrack) :
    AudioTrack :=
  let song : AudioTrack :=
    { a with
      songName := some title, artist := s.artist? t, songNumber := some (UInt32.ofNat number) }
  if a.isUsable then
    { song with album := present? s.credits.title, genre := present? s.genre, year := s.year? }
  else song

/-- The virtual track for a track of the sheet. -/
def virtualTrack (s : CueSheet) (style : CompositionStyle) (path : Path) (file : Descriptor)
    (number : Nat) (t : CueTrack) (finish : Float) : VirtualTrack :=
  let title := trackTitle style number t
  let part : Descriptor :=
    { file with size := none, duration := clipDuration t.start finish file.duration }
  { path, start := t.start, finish, title
    descriptor := part.modifyFirstAudio (s.tagSong number title t)
    player := if isPartialClip t.start finish then some style.transcoder else none }

/-- The virtual tracks of one section; the first gets the given number. A track ends where the next
one starts, and the last with the file. -/
def sectionTracks (s : CueSheet) (style : CompositionStyle) (path : Path) (file : Descriptor) :
    (number : Nat) → List CueTrack → List VirtualTrack
  | _, [] => []
  | number, t :: rest =>
    let finish := (rest.head?.map (·.start)).getD (Number.infinity false)
    s.virtualTrack style path file number t finish ::
      s.sectionTracks style path file (number + 1) rest

/-- Whether tracks can be made from a probed file. -/
def isUsableFile (d : Descriptor) : Bool := d.container.isSome || d.hasUsableAudio

/-- The probed file that the next section may be about too: its path as first written, and its
descriptor. -/
abbrev OpenFile : Type := Option (Path × Descriptor)

/-- Opens the file of a section. Tells also which path was probed, if one was. -/
def openFile (probe : Path → ProbeAnswer) (path : Path) (current : OpenFile) :
    OpenFile × List Path :=
  if current.any fun f => Path.same f.1 path then (current, [])
  else
    match probe path with
    | .ok d => (if isUsableFile d then some (path, d) else none, [path])
    | .error _ => (none, [path])

/-- What a composition yields. -/
structure Composed where
  tracks : List VirtualTrack
  /-- The paths that were probed, in order. -/
  probed : List Path

/-- Composes the sections from one on. `number` is that of its first track. -/
def composeSections (s : CueSheet) (style : CompositionStyle) (directory : Path)
    (probe : Path → ProbeAnswer) :
    (current : OpenFile) → (number : Nat) → List CueSection → Composed
  | _, _, [] => ⟨[], []⟩
  | current, number, f :: rest =>
    let (current, probed) := openFile probe (Path.join directory f.file) current
    let tracks :=
      match current with
      | some (path, file) => s.sectionTracks style path file number f.tracks
      | none => []
    let more :=
      s.composeSections style directory probe current (number + f.tracks.length) rest
    ⟨tracks ++ more.tracks, probed ++ more.probed⟩

/-- Composes the tracks of a sheet. The files are looked for from a directory. -/
def compose (s : CueSheet) (style : CompositionStyle) (directory : Path)
    (probe : Path → ProbeAnswer) : Composed :=
  s.composeSections style directory probe none 1 s.sections

end CueSheet

end MediaIndex
