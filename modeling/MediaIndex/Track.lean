import MediaIndex.SubtitleFormat
import MediaIndex.Modes

/-!
# Tracks — the audio and subtitle streams of a file

A field that was not measured is `none`, never a stand-in value. Where a value to act on is needed,
an `effective…` function supplies the usual one. A track's number is its place among the tracks of
its kind.
-/

set_option autoImplicit false

namespace MediaIndex

/-- An audio stream, with the song tags that go with it. -/
structure AudioTrack where
  number : UInt32 := 0
  language : Option String := none
  title : Option String := none
  codec : Option Format := none
  channels : Option UInt32 := none
  sampleRate : Option UInt32 := none
  bitDepth : Option UInt32 := none
  bitrate : Option UInt32 := none
  bitrateMode : Option RateMode := none
  /-- Against the video, in milliseconds. -/
  delay : Option Int32 := none
  album : Option String := none
  artist : Option String := none
  songName : Option String := none
  /-- The place of the song on its album. -/
  songNumber : Option UInt32 := none
  year : Option UInt32 := none
  genre : Option String := none
  deriving Repr, DecidableEq

/-- An audio track without the tags of a song. -/
def AudioTrack.untagged (t : AudioTrack) : AudioTrack :=
  { t with
    album := none, artist := none, songName := none, songNumber := none, year := none
    genre := none }

/-- A subtitle stream. -/
structure SubtitleTrack where
  number : UInt32 := 0
  language : Option String := none
  title : Option String := none
  format : Option SubtitleFormat := none
  forced : Bool := false
  isDefault : Bool := false
  deriving Repr, DecidableEq

/-- The language of a track: the one reported, unless that is blank, else "undetermined". -/
def effectiveLanguage (language : Option String) : String :=
  (language.filter fun l => !(Text.trim l).isEmpty).getD "und"

namespace AudioTrack

def effectiveSampleRate (t : AudioTrack) : UInt32 := t.sampleRate.getD 48000
def effectiveBitDepth (t : AudioTrack) : UInt32 := t.bitDepth.getD 16
def effectiveChannels (t : AudioTrack) : UInt32 := t.channels.getD 2
def effectiveDelay (t : AudioTrack) : Int32 := t.delay.getD 0
def effectiveBitrateMode (t : AudioTrack) : RateMode := t.bitrateMode.getD .constant

/-- A track whose codec is known can carry song tags. -/
def isUsable (t : AudioTrack) : Bool := t.codec.isSome

/-- The codecs that keep every sample. -/
def losslessCodecs : List Format :=
  [.flac, .alac, .ape, .lpcm, .wavPack, .tta, .trueHd, .mlp, .als, .shorten, .wmaLossless, .ralf]

/-- Whether the track's codec keeps every sample. -/
def isLossless (t : AudioTrack) : Bool := t.codec.any losslessCodecs.contains

end AudioTrack

/-- Whether a subtitle track is text. A track of unknown format is taken for pictures. -/
def SubtitleTrack.isText (t : SubtitleTrack) : Bool := t.format.any SubtitleFormat.isText

end MediaIndex
