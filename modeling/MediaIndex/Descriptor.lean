import MediaIndex.Level
import MediaIndex.Track
import MediaIndex.Stereo
import MediaIndex.Extras

/-!
# Descriptors — everything that is known about one file

A descriptor is what a probe yields, what the cache stores and what a listing prints. As in a track,
what was not measured is `none`; the `effective…` functions give the value to act on.

Two of its parts are derived and not measured: the media type, which follows from the streams that
were found (`resolveMediaType`), and the container of a file that turns out to hold audio alone,
which is renamed to its audio counterpart (`applyAudioVariant?`). Both are done once, when all
streams have been seen.
-/

set_option autoImplicit false

namespace MediaIndex

/-- A cover picture or a frame of the video. -/
structure Thumbnail where
  data : ByteArray
  mime : String
  width : Option UInt32 := none
  height : Option UInt32 := none

/-- What is known about a file. -/
structure Descriptor where
  container : Option Format := none
  mediaType : MediaType := .unknown
  /-- In seconds. An unknown duration is not the same as none at all. -/
  duration : Option Float := none
  bitrate : Option UInt32 := none
  bitrateMode : Option RateMode := none
  /-- In bytes. A clip of a file has no size of its own. -/
  size : Option UInt64 := none
  width : Option UInt32 := none
  height : Option UInt32 := none
  containerAspect : Option String := none
  trackAspect : Option String := none
  discAspect : Option String := none
  videoCodec : Option Format := none
  videoProfile : Option String := none
  videoLevel : Option Level := none
  /-- The stereoscopy tag as reported. -/
  stereoscopy : Option String := none
  scanType : Option ScanType := none
  scanOrder : Option ScanOrder := none
  frameRate : Option String := none
  frameRateMode : Option RateMode := none
  referenceFrames : Option UInt8 := none
  videoBitDepth : Option UInt8 := none
  videoTrackCount : UInt32 := 0
  imageCount : UInt32 := 0
  thumbnail : Option Thumbnail := none
  extras : Extras := .empty
  audioTracks : List AudioTrack := []
  subtitleTracks : List SubtitleTrack := []
  /-- Whether probing is complete. -/
  parsed : Bool := false

namespace Descriptor

/-- A descriptor of which nothing is known. -/
def blank : Descriptor := {}

/-! ## Values to act on -/

def effectiveBitrate (d : Descriptor) : UInt32 := d.bitrate.getD 0
def effectiveBitrateMode (d : Descriptor) : RateMode := d.bitrateMode.getD .constant
def effectiveVideoBitDepth (d : Descriptor) : UInt8 := d.videoBitDepth.getD 8
def effectiveFrameRate (d : Descriptor) : String := d.frameRate.getD "25"
def effectiveFrameRateMode (d : Descriptor) : RateMode := d.frameRateMode.getD .constant

/-- The shape of the picture: as the track reports it, else as the container does, else from the
size of the frame. -/
def effectiveAspect? (d : Descriptor) : Option String :=
  match d.trackAspect.or d.containerAspect with
  | some aspect => some aspect
  | none =>
    match d.width, d.height with
    | some w, some h =>
      if 0 < h then some (Number.writeFixed 3 (w.toFloat / h.toFloat)) else none
    | _, _ => none

/-- The stereoscopic layout that the tag names. -/
def stereoLayout? (d : Descriptor) : Option StereoLayout := d.stereoscopy.bind StereoLayout.ofTag?

/-! ## Derived parts -/

/-- The media type that the streams found make the file: any video makes it a video, then any audio
makes it audio, then any image an image. -/
def streamsType (d : Descriptor) : MediaType :=
  if 0 < d.videoTrackCount then .video
  else if !d.audioTracks.isEmpty then .audio
  else if 0 < d.imageCount then .image
  else .unknown

/-- Sets the media type from the streams. -/
def resolveMediaType (d : Descriptor) : Descriptor := { d with mediaType := d.streamsType }

/-- The audio counterpart of the container, if it has one. -/
def audioVariant? (d : Descriptor) : Option Format := d.container.bind Format.audioVariant?

/-- Renames the container of a file of audio alone to its audio counterpart; `none` where there is
nothing to rename. -/
def applyAudioVariant? (d : Descriptor) : Option Descriptor :=
  if d.mediaType = .audio then
    d.audioVariant?.map fun f => { d with container := some f }
  else none

/-- Marks probing as complete; `none` where it was already. -/
def markParsed? (d : Descriptor) : Option Descriptor :=
  if d.parsed then none else some { d with parsed := true }

/-- A descriptor whose probing is complete. -/
def markParsed (d : Descriptor) : Descriptor := { d with parsed := true }

/-- A descriptor without its thumbnail. -/
def withoutThumbnail (d : Descriptor) : Descriptor := { d with thumbnail := none }

theorem withoutThumbnail_eq_self {d : Descriptor} (h : d.thumbnail = none) :
    d.withoutThumbnail = d := by
  rw [withoutThumbnail, ← h]

/-! ## The first audio track -/

/-- Whether the first audio track can carry song tags. -/
def hasUsableAudio (d : Descriptor) : Bool := d.audioTracks.head?.any AudioTrack.isUsable

/-- Changes the first audio track, if there is one. -/
def modifyFirstAudio (d : Descriptor) (f : AudioTrack → AudioTrack) : Descriptor :=
  { d with audioTracks := match d.audioTracks with
      | [] => []
      | first :: rest => f first :: rest }

end Descriptor

/-! ## Durations as text -/

/-- A number with zeros in front, up to a width. -/
def padNumber (width n : Nat) : String :=
  let digits := toString n
  Number.zeros (width - digits.length) ++ digits

/-- A duration in seconds as hours, minutes, seconds and milliseconds. What is less than nothing is
shown as nothing. -/
def clockText (seconds : Float) : String :=
  let ms := (Number.nearestWithin 0 0xffffffffffffffff (seconds * 1000.0)).toNat
  padNumber 2 (ms / 3600000) ++ ":" ++ padNumber 2 (ms / 60000 % 60) ++ ":" ++
    padNumber 2 (ms / 1000 % 60) ++ "." ++ padNumber 3 (ms % 1000)

/-- The duration as text, where it is known. -/
def Descriptor.durationText? (d : Descriptor) : Option String := d.duration.map clockText

end MediaIndex
