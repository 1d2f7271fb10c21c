import MediaIndex.Cache.Cell
import MediaIndex.Descriptor
import MediaIndex.Json.Writer

/-!
# Rows — a descriptor as cells

A descriptor is stored in one row for the file and one row for each of its tracks. For each of the
three tables there is a type of columns, a function that stores and a function that reads. What is
read is told by the first column that does not fit, in the order in which the columns are listed
here.

Names of formats and modes are stored as texts, and a text that no longer names anything is read as
missing. A level is read in the family of the video codec, which is therefore read first.
-/

set_option autoImplicit false

namespace MediaIndex

/-! ## Files -/

/-- The columns for a file, after its number. -/
inductive FileColumn where
  | mediaType | container | duration | bitrate | bitrateMode | size | width | height
  | containerAspect | trackAspect | discAspect | videoCodec | videoProfile | videoLevel
  | stereoscopy | scanType | scanOrder | frameRate | frameRateMode | referenceFrames
  | videoBitDepth | videoTrackCount | imageCount | thumbnail | thumbnailType | thumbnailWidth
  | thumbnailHeight | extras
  deriving Repr, DecidableEq

namespace FileColumn

/-- All columns, in order. -/
def all : List FileColumn :=
  [.mediaType, .container, .duration, .bitrate, .bitrateMode, .size, .width, .height,
   .containerAspect, .trackAspect, .discAspect, .videoCodec, .videoProfile, .videoLevel,
   .stereoscopy, .scanType, .scanOrder, .frameRate, .frameRateMode, .referenceFrames,
   .videoBitDepth, .videoTrackCount, .imageCount, .thumbnail, .thumbnailType, .thumbnailWidth,
   .thumbnailHeight, .extras]

/-- What is known of a column. -/
def info : FileColumn → Column
  | .mediaType => ⟨"type", 1, .integer, true⟩
  | .container => ⟨"container", 2, .text, false⟩
  | .duration => ⟨"duration", 3, .real, false⟩
  | .bitrate => ⟨"bitrate", 4, .integer, false⟩
  | .bitrateMode => ⟨"bitrate_mode", 5, .text, false⟩
  | .size => ⟨"size", 6, .integer, false⟩
  | .width => ⟨"width", 7, .integer, false⟩
  | .height => ⟨"height", 8, .integer, false⟩
  | .containerAspect => ⟨"aspect_ratio_container", 9, .text, false⟩
  | .trackAspect => ⟨"aspect_ratio_video", 10, .text, false⟩
  | .discAspect => ⟨"aspect_ratio_dvd_iso", 11, .text, false⟩
  | .videoCodec => ⟨"codecv", 12, .text, false⟩
  | .videoProfile => ⟨"profile", 13, .text, false⟩
  | .videoLevel => ⟨"level", 14, .text, false⟩
  | .stereoscopy => ⟨"stereoscopy", 15, .text, false⟩
  | .scanType => ⟨"scan_type", 16, .text, false⟩
  | .scanOrder => ⟨"scan_order", 17, .text, false⟩
  | .frameRate => ⟨"frame_rate", 18, .text, false⟩
  | .frameRateMode => ⟨"frame_rate_mode", 19, .text, false⟩
  | .referenceFrames => ⟨"ref_frames", 20, .integer, false⟩
  | .videoBitDepth => ⟨"video_bit_depth", 21, .integer, false⟩
  | .videoTrackCount => ⟨"video_track_count", 22, .integer, true⟩
  | .imageCount => ⟨"image_count", 23, .integer, true⟩
  | .thumbnail => ⟨"thumb", 24, .blob, false⟩
  | .thumbnailType => ⟨"thumb_mime", 25, .text, false⟩
  | .thumbnailWidth => ⟨"thumb_width", 26, .integer, false⟩
  | .thumbnailHeight => ⟨"thumb_height", 27, .integer, false⟩
  | .extras => ⟨"extras", 28, .text, false⟩

end FileColumn

/-- Reads a media type. -/
def Cell.readMediaType (column : Column) (c : Cell) : Except CellFault MediaType :=
  (insist column (c.readInt (-0x80000000) 0x7fffffff column)).map MediaType.ofCode

/-- The cells for a file. -/
abbrev FileCells : Type := FileColumn → Cell

namespace FileCells

/-- A cell for a natural of 32 bits that may be missing. -/
def word (v : Option UInt32) : Cell := Cell.optional (fun n : UInt32 => .integer n.toNat) v

/-- A cell for a natural of 8 bits that may be missing. -/
def byte (v : Option UInt8) : Cell := Cell.optional (fun n : UInt8 => .integer n.toNat) v

/-- A cell for a text that may be missing. -/
def text (v : Option String) : Cell := Cell.optional .text v

/-- Stores a descriptor, without its tracks. A size of 64 bits is stored as an integer with a sign,
so that the greater half of the sizes becomes negative. -/
def ofDescriptor (d : Descriptor) : FileCells
  | .mediaType => .integer d.mediaType.code
  | .container => text (d.container.map (·.name))
  | .duration => Cell.optional .ofFloat d.duration
  | .bitrate => word d.bitrate
  | .bitrateMode => text (d.bitrateMode.map (·.name))
  | .size => Cell.optional (fun n : UInt64 => .integer n.toInt64.toInt) d.size
  | .width => word d.width
  | .height => word d.height
  | .containerAspect => text d.containerAspect
  | .trackAspect => text d.trackAspect
  | .discAspect => text d.discAspect
  | .videoCodec => text (d.videoCodec.map (·.name))
  | .videoProfile => text d.videoProfile
  | .videoLevel => text (d.videoLevel.map (·.code))
  | .stereoscopy => text d.stereoscopy
  | .scanType => text (d.scanType.map (·.name))
  | .scanOrder => text (d.scanOrder.map (·.name))
  | .frameRate => text d.frameRate
  | .frameRateMode => text (d.frameRateMode.map (·.name))
  | .referenceFrames => byte d.referenceFrames
  | .videoBitDepth => byte d.videoBitDepth
  | .videoTrackCount => word (some d.videoTrackCount)
  | .imageCount => word (some d.imageCount)
  | .thumbnail => Cell.optional .blob (d.thumbnail.map (·.data))
  | .thumbnailType => text (d.thumbnail.map (·.mime))
  | .thumbnailWidth => word (d.thumbnail.bind (·.width))
  | .thumbnailHeight => word (d.thumbnail.bind (·.height))
  | .extras => if d.extras.isEmpty then .null else .text (Json.writeTexts d.extras.entries)

variable (cells : FileCells)

/-- Reads a text. -/
def readText (k : FileColumn) : Except CellFault (Option String) := (cells k).readText k.info

/-- Reads a text that names something. -/
def readName {α : Type} (ofName? : String → Option α) (k : FileColumn) :
    Except CellFault (Option α) :=
  (cells.readText k).map (·.bind ofName?)

/-- Reads a natural of 32 bits. -/
def readWord (k : FileColumn) : Except CellFault (Option UInt32) := (cells k).readWord k.info

/-- Reads a natural of 8 bits. -/
def readByte (k : FileColumn) : Except CellFault (Option UInt8) := (cells k).readByte k.info

/-- Reads the size. -/
def readSize : Except CellFault (Option UInt64) :=
  ((cells .size).readInt Cell.least Cell.greatest FileColumn.size.info).map fun v =>
    v.map UInt64.ofInt

/-- Reads the thumbnail. What goes with it is read only if there is one. -/
def readThumbnail : Except CellFault (Option Thumbnail) := do
  match ← (cells .thumbnail).readBytes FileColumn.thumbnail.info with
  | none => return none
  | some data =>
    let mime ← cells.readText .thumbnailType
    let width ← cells.readWord .thumbnailWidth
    let height ← cells.readWord .thumbnailHeight
    return some ⟨data, mime.getD "image/jpeg", width, height⟩

/-- Reads the remarks. A text that does not hold any is passed over. -/
def readExtras : Except CellFault Extras :=
  (cells.readText .extras).map fun v => .ofList ((v.bind Json.readTexts?).getD [])

/-- Reads a descriptor, without its tracks. -/
def descriptor : Except CellFault Descriptor := do
  let mediaType ← (cells .mediaType).readMediaType FileColumn.mediaType.info
  let container ← cells.readName Format.ofName? .container
  let duration ← (cells .duration).readFloat FileColumn.duration.info
  let bitrate ← cells.readWord .bitrate
  let bitrateMode ← cells.readName RateMode.ofText? .bitrateMode
  let size ← cells.readSize
  let width ← cells.readWord .width
  let height ← cells.readWord .height
  let containerAspect ← cells.readText .containerAspect
  let trackAspect ← cells.readText .trackAspect
  let discAspect ← cells.readText .discAspect
  let videoCodec ← cells.readName Format.ofName? .videoCodec
  let videoProfile ← cells.readText .videoProfile
  let level ← cells.readText .videoLevel
  let stereoscopy ← cells.readText .stereoscopy
  let scanType ← cells.readName ScanType.ofText? .scanType
  let scanOrder ← cells.readName ScanOrder.ofText? .scanOrder
  let frameRate ← cells.readText .frameRate
  let frameRateMode ← cells.readName RateMode.ofText? .frameRateMode
  let referenceFrames ← cells.readByte .referenceFrames
  let videoBitDepth ← cells.readByte .videoBitDepth
  let videoTrackCount ←
    Cell.insist FileColumn.videoTrackCount.info (cells.readWord .videoTrackCount)
  let imageCount ← Cell.insist FileColumn.imageCount.info (cells.readWord .imageCount)
  let thumbnail ← cells.readThumbnail
  let extras ← cells.readExtras
  let videoLevel := videoCodec.bind fun codec => level.bind (Level.ofToken? codec)
  return {
    mediaType, container, duration, bitrate, bitrateMode, size, width, height, containerAspect
    trackAspect, discAspect, videoCodec, videoProfile, videoLevel, stereoscopy, scanType, scanOrder
    frameRate, frameRateMode, referenceFrames, videoBitDepth, videoTrackCount, imageCount, thumbnail
    extras }

end FileCells

/-! ## Audio tracks -/

/-- The columns for an audio track. -/
inductive AudioColumn where
  | number | language | title | codec | channels | sampleRate | bitDepth | bitrate | bitrateMode
  | delay | album | artist | songName | songNumber | year | genre
  deriving Repr, DecidableEq

namespace AudioColumn

/-- All columns, in order. -/
def all : List AudioColumn :=
  [.number, .language, .title, .codec, .channels, .sampleRate, .bitDepth, .bitrate, .bitrateMode,
   .delay, .album, .artist, .songName, .songNumber, .year, .genre]

/-- What is known of a column. -/
def info : AudioColumn → Column
  | .number => ⟨"stream_id", 0, .integer, true⟩
  | .language => ⟨"lang", 1, .text, false⟩
  | .title => ⟨"title", 2, .text, false⟩
  | .codec => ⟨"codec", 3, .text, false⟩
  | .channels => ⟨"channels", 4, .integer, false⟩
  | .sampleRate => ⟨"sample_rate", 5, .integer, false⟩
  | .bitDepth => ⟨"bit_depth", 6, .integer, false⟩
  | .bitrate => ⟨"bitrate", 7, .integer, false⟩
  | .bitrateMode => ⟨"bitrate_mode", 8, .text, false⟩
  | .delay => ⟨"delay", 9, .integer, false⟩
  | .album => ⟨"album", 10, .text, false⟩
  | .artist => ⟨"artist", 11, .text, false⟩
  | .songName => ⟨"song_name", 12, .text, false⟩
  | .songNumber => ⟨"track_number", 13, .integer, false⟩
  | .year => ⟨"year", 14, .integer, false⟩
  | .genre => ⟨"genre", 15, .text, false⟩

end AudioColumn

/-- The cells for an audio track. -/
abbrev AudioCells : Type := AudioColumn → Cell

namespace AudioCells

/-- Stores an audio track. -/
def ofTrack (t : AudioTrack) : AudioCells
  | .number => FileCells.word (some t.number)
  | .language => FileCells.text t.language
  | .title => FileCells.text t.title
  | .codec => FileCells.text (t.codec.map (·.name))
  | .channels => FileCells.word t.channels
  | .sampleRate => FileCells.word t.sampleRate
  | .bitDepth => FileCells.word t.bitDepth
  | .bitrate => FileCells.word t.bitrate
  | .bitrateMode => FileCells.text (t.bitrateMode.map (·.name))
  | .delay => Cell.optional (fun n : Int32 => .integer n.toInt) t.delay
  | .album => FileCells.text t.album
  | .artist => FileCells.text t.artist
  | .songName => FileCells.text t.songName
  | .songNumber => FileCells.word t.songNumber
  | .year => FileCells.word t.year
  | .genre => FileCells.text t.genre

variable (cells : AudioCells)

/-- Reads a text. -/
def readText (k : AudioColumn) : Except CellFault (Option String) := (cells k).readText k.info

/-- Reads a natural of 32 bits. -/
def readWord (k : AudioColumn) : Except CellFault (Option UInt32) := (cells k).readWord k.info

/-- Reads the delay. -/
def readDelay : Except CellFault (Option Int32) :=
  ((cells .delay).readInt (-0x80000000) 0x7fffffff AudioColumn.delay.info).map fun v =>
    v.map Int32.ofInt

/-- Reads an audio track. -/
def track : Except CellFault AudioTrack := do
  let number ← Cell.insist AudioColumn.number.info (cells.readWord .number)
  let language ← cells.readText .language
  let title ← cells.readText .title
  let codec ← (cells.readText .codec).map (·.bind Format.ofName?)
  let channels ← cells.readWord .channels
  let sampleRate ← cells.readWord .sampleRate
  let bitDepth ← cells.readWord .bitDepth
  let bitrate ← cells.readWord .bitrate
  let bitrateMode ← (cells.readText .bitrateMode).map (·.bind RateMode.ofText?)
  let delay ← cells.readDelay
  let album ← cells.readText .album
  let artist ← cells.readText .artist
  let songName ← cells.readText .songName
  let songNumber ← cells.readWord .songNumber
  let year ← cells.readWord .year
  let genre ← cells.readText .genre
  return {
    number, language, title, codec, channels, sampleRate, bitDepth, bitrate, bitrateMode, delay
    album, artist, songName, songNumber, year, genre }

end AudioCells

/-! ## Subtitle tracks -/

/-- The columns for a subtitle track. -/
inductive SubtitleColumn where
  | number | language | title | format | forced | isDefault
  deriving Repr, DecidableEq

namespace SubtitleColumn

/-- All columns, in order. -/
def all : List SubtitleColumn := [.number, .language, .title, .format, .forced, .isDefault]

/-- What is known of a column. -/
def info : SubtitleColumn → Column
  | .number => ⟨"stream_id", 0, .integer, true⟩
  | .language => ⟨"lang", 1, .text, false⟩
  | .title => ⟨"title", 2, .text, false⟩
  | .format => ⟨"format", 3, .text, false⟩
  | .forced => ⟨"forced", 4, .integer, true⟩
  | .isDefault => ⟨"is_default", 5, .integer, true⟩

end SubtitleColumn

/-- The cells for a subtitle track. -/
abbrev SubtitleCells : Type := SubtitleColumn → Cell

namespace SubtitleCells

/-- Stores a subtitle track. -/
def ofTrack (t : SubtitleTrack) : SubtitleCells
  | .number => FileCells.word (some t.number)
  | .language => FileCells.text t.language
  | .title => FileCells.text t.title
  | .format => FileCells.text (t.format.map (·.name))
  | .forced => .ofBool t.forced
  | .isDefault => .ofBool t.isDefault

variable (cells : SubtitleCells)

/-- Reads a subtitle track. -/
def track : Except CellFault SubtitleTrack := do
  let number ←
    Cell.insist SubtitleColumn.number.info ((cells .number).readWord SubtitleColumn.number.info)
  let language ← (cells .language).readText SubtitleColumn.language.info
  let title ← (cells .title).readText SubtitleColumn.title.info
  let format ← ((cells .format).readText SubtitleColumn.format.info).map
    (·.bind SubtitleFormat.ofName?)
  let forced ← (cells .forced).readBool SubtitleColumn.forced.info
  let isDefault ← (cells .isDefault).readBool SubtitleColumn.isDefault.info
  return { number, language, title, format, forced, isDefault }

end SubtitleCells

end MediaIndex
