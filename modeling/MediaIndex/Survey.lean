import MediaIndex.LastItem
import MediaIndex.Recognition
import MediaIndex.Quantity
import MediaIndex.Descriptor

/-!
# Surveys — a descriptor built from the fields of a report

A report is read as a row of events: a stream begins, a field of a stream has a value. A survey is
the state between two events, `Survey.step` takes one event in, and `Survey.finish` closes it. All
report readers speak to the rest of the library through these events, so a rule about fields is
written once and holds for every tool.

A field belongs to the stream of its kind that began last. Two streams are special. The general
stream is the file itself; its song tags are kept aside until it is known whether the file is a
song. Of several video streams only the first is described.
-/

set_option autoImplicit false

namespace MediaIndex

/-! ## Field names -/

/-- The fields that a survey understands. -/
inductive FieldName where
  | format | formatVersion | formatProfile | formatFeatures | codecId
  | duration | overallBitrate | overallBitrateMode | bitrate | bitrateMode
  | width | height | aspect | originalAspect | frameRate | frameRateMode
  | scanType | scanOrder | viewLayout | bitDepth | referenceFrames
  | channels | samplingRate | delay | language | title
  | track | album | performer | trackPosition | recordedDate | genre
  | fileSize | default | forced
  /-- A free remark, with its key. -/
  | extra (key : String)
  /-- Any other name. -/
  | other
  deriving Repr, DecidableEq

namespace FieldName

/-- What introduces the key of a free remark. -/
def extraMark : String := "extra:"

/-- The spellings of the field names. -/
def spellings : List (String × FieldName) :=
  [("Format", .format), ("Format_Version", .formatVersion), ("Format_Profile", .formatProfile),
   ("Format_AdditionalFeatures", .formatFeatures), ("CodecID", .codecId),
   ("Duration", .duration), ("OverallBitRate", .overallBitrate),
   ("OverallBitRate_Mode", .overallBitrateMode), ("BitRate", .bitrate),
   ("BitRate_Mode", .bitrateMode), ("Width", .width), ("Height", .height),
   ("DisplayAspectRatio", .aspect), ("DisplayAspectRatio_Original", .originalAspect),
   ("FrameRate", .frameRate), ("FrameRate_Mode", .frameRateMode), ("ScanType", .scanType),
   ("ScanOrder", .scanOrder), ("MultiView_Layout", .viewLayout), ("BitDepth", .bitDepth),
   ("Format_Settings_RefFrames", .referenceFrames), ("Channels", .channels),
   ("SamplingRate", .samplingRate), ("Delay", .delay), ("Language", .language),
   ("Title", .title), ("Track", .track), ("Album", .album), ("Performer", .performer),
   ("Track_Position", .trackPosition), ("Recorded_Date", .recordedDate), ("Genre", .genre),
   ("FileSize", .fileSize), ("Default", .default), ("Forced", .forced)]

/-- The field a name stands for. -/
def ofText (name : String) : FieldName :=
  match Text.afterLead? extraMark name with
  | some key => .extra key
  | none => ((spellings.find? fun entry => entry.1 == name).map (·.2)).getD .other

end FieldName

/-! ## Events and state -/

/-- What a report tells, in the order in which it tells it. -/
inductive SurveyEvent where
  | begin (kind : StreamKind)
  | field (kind : StreamKind) (name : FieldName) (value : String)
  | thumbnail (thumbnail : Thumbnail)
  | size (bytes : UInt64)

/-- Song tags of the file as a whole. -/
structure SongTags where
  album : Option String := none
  artist : Option String := none
  songName : Option String := none
  songNumber : Option UInt32 := none
  year : Option UInt32 := none
  genre : Option String := none
  deriving Repr, DecidableEq

/-- A survey between two events: what is settled, what was found, and the tags kept aside. -/
structure Survey where
  known : Settled := {}
  found : Descriptor := .blank
  tags : SongTags := {}

namespace Survey

/-- A survey before the first event. -/
def start : Survey := {}

/-- Whether video fields are still taken: at most one video stream has begun. -/
def atFirstVideo (s : Survey) : Bool := s.found.videoTrackCount ≤ 1

/-- Changes what was found. -/
def describe (s : Survey) (f : Descriptor → Descriptor) : Survey := { s with found := f s.found }

/-- Changes the audio track that began last. -/
def describeAudio (s : Survey) (f : AudioTrack → AudioTrack) : Survey :=
  s.describe fun d => { d with audioTracks := modifyLast f d.audioTracks }

/-- Changes the subtitle track that began last. -/
def describeSubtitle (s : Survey) (f : SubtitleTrack → SubtitleTrack) : Survey :=
  s.describe fun d => { d with subtitleTracks := modifyLast f d.subtitleTracks }

/-- Changes the video stream, if only one has begun. -/
def describeVideo (s : Survey) (f : Descriptor → Descriptor) : Survey :=
  if s.atFirstVideo then s.describe f else s

/-- Takes in that a stream begins. Tracks are numbered by their order, and with a new audio track
the audio codec is unsettled. -/
def beginStream (s : Survey) : StreamKind → Survey
  | .general => s
  | .video => s.describe fun d => { d with videoTrackCount := d.videoTrackCount + 1 }
  | .image => s.describe fun d => { d with imageCount := d.imageCount + 1 }
  | .audio =>
    { s with
      found := { s.found with
        audioTracks := s.found.audioTracks ++
          [{ number := UInt32.ofNat s.found.audioTracks.length }] }
      known := { s.known with audioCodec := none } }
  | .text =>
    s.describe fun d =>
      { d with subtitleTracks := d.subtitleTracks ++
          [{ number := UInt32.ofNat d.subtitleTracks.length }] }

/-! ## Classified values -/

/-- Writes a profile and its level down. -/
def setProfile (p : ProfileLevel) (d : Descriptor) : Descriptor :=
  { d with videoProfile := some p.profile, videoLevel := p.level }

/-- Writes a format down where the streams of a kind keep theirs. An image stands for its container
as well, where none was reported. -/
def describeFormat (s : Survey) (kind : StreamKind) (f : Format) : Survey :=
  match kind with
  | .general => s.describe fun d => { d with container := some f }
  | .video => s.describeVideo fun d => { d with videoCodec := some f }
  | .image => s.describe fun d =>
      { d with videoCodec := some f, container := d.container.or (some f) }
  | .audio => s.describeAudio fun t => { t with codec := some f }
  | .text => s

/-- Writes down what a token meant. -/
def describeMeaning (s : Survey) (kind : StreamKind) : Meaning → Survey
  | .format f => s.describeFormat kind f
  | .subtitle f => s.describeSubtitle fun t => { t with format := some f }
  | .profileLevel p => s.describeVideo (setProfile p)

/-- Recognises a token, settles the outcome and writes it down. -/
def classify (s : Survey) (kind : StreamKind) (value : String) : Survey :=
  let r := recognise kind value s.known
  if r.isEmpty then s
  else
    let s := { s with known := s.known.apply kind r }
    let s :=
      match r.container with
      | some container => s.describe fun d => { d with container := some container }
      | none => s
    match r.meaning with
    | some meaning => s.describeMeaning kind meaning
    | none => s

/-- Whether the stream of a kind has its codec already; its identifier is then passed over. The
general stream has none, so its identifier always counts. -/
def hasCodec (s : Survey) : StreamKind → Bool
  | .general => false
  | .video => s.known.videoCodec.isSome
  | .audio => s.known.audioCodec.isSome
  | .image => s.found.videoCodec.isSome
  | .text => s.found.subtitleTracks.getLast?.any fun t => t.format.isSome

/-! ## Plain values -/

/-- The words that a report writes for yes. -/
def isYes (value : String) : Bool := ["yes", "true", "1"].contains (Text.lower value)

/-- The number that a text begins with. -/
def leadingNumber? (value : String) : Option UInt32 :=
  let digits := (Text.trimChars value.toList).takeWhile Number.isAsciiDigit
  (Number.readNat? Quantity.limit (String.ofList digits)).map UInt32.ofNat

/-- The first four digits in a row of a date. -/
def yearIn? : List Char → Option UInt32
  | a :: b :: c :: d :: rest =>
    if [a, b, c, d].all Number.isAsciiDigit then
      some (UInt32.ofNat (Number.digitsValue [a, b, c, d]))
    else yearIn? (b :: c :: d :: rest)
  | _ => none

/-- A count of at most eight bits. -/
def smallCount? (n : Option UInt32) : Option UInt8 :=
  n.bind fun n => if n ≤ 255 then some (UInt8.ofNat n.toNat) else none

/-- Keeps a song tag of the file aside. -/
def keepTag (s : Survey) (f : SongTags → SongTags) : Survey := { s with tags := f s.tags }

/-- A field of the first video stream other than those that `setField` treats itself. -/
def setVideoField (s : Survey) (name : FieldName) (value : String) : Survey :=
  s.describe fun d =>
    match name with
    | .aspect => { d with containerAspect := some value }
    | .originalAspect => { d with trackAspect := some value }
    | .frameRate => { d with frameRate := Quantity.frameRate? value }
    | .frameRateMode => { d with frameRateMode := RateMode.ofText? value }
    | .scanType => { d with scanType := ScanType.ofText? value }
    | .scanOrder => { d with scanOrder := ScanOrder.ofText? value }
    | .viewLayout => { d with stereoscopy := some value }
    | .bitDepth => { d with videoBitDepth := smallCount? (Quantity.bitsPerSample? value) }
    | .referenceFrames => { d with referenceFrames := smallCount? (Quantity.dimension? value) }
    | _ => d

/-- A field of the current audio track. -/
def setAudioField (s : Survey) (name : FieldName) (value : String) : Survey :=
  s.describeAudio fun t =>
    match name with
    | .bitrate => { t with bitrate := Quantity.bitrate? value }
    | .bitrateMode => { t with bitrateMode := RateMode.ofText? value }
    | .bitDepth => { t with bitDepth := Quantity.bitsPerSample? value }
    | .channels => { t with channels := Quantity.channels? value }
    | .samplingRate => { t with sampleRate := Quantity.sampleRate? value }
    | .delay => { t with delay := Quantity.delay? value }
    | .language => { t with language := some value }
    | .title => { t with title := some value }
    | _ => t

/-- A field of the current subtitle track. -/
def setSubtitleField (s : Survey) (name : FieldName) (value : String) : Survey :=
  s.describeSubtitle fun t =>
    match name with
    | .language => { t with language := some value }
    | .title => { t with title := some value }
    | .forced => { t with forced := isYes value }
    | .default => { t with isDefault := isYes value }
    | _ => t

/-- A field of the file itself. -/
def setGeneralField (s : Survey) (name : FieldName) (value : String) : Survey :=
  match name with
  | .overallBitrate => s.describe fun d => { d with bitrate := Quantity.bitrate? value }
  | .overallBitrateMode | .bitrateMode =>
    s.describe fun d => { d with bitrateMode := RateMode.ofText? value }
  | .fileSize =>
    s.describe fun d =>
      { d with size := (Number.readNat? 0xffffffffffffffff value).map UInt64.ofNat }
  | .title | .track => s.keepTag fun t => { t with songName := some value }
  | .album => s.keepTag fun t => { t with album := some value }
  | .performer => s.keepTag fun t => { t with artist := some value }
  | .genre => s.keepTag fun t => { t with genre := some value }
  | .trackPosition =>
    s.keepTag fun t =>
      { t with songNumber := leadingNumber? (String.ofList (Text.beforeChar '/' value.toList)) }
  | .recordedDate => s.keepTag fun t => { t with year := yearIn? value.toList }
  | _ => s

/-! ## Steps -/

/-- Takes in a field whose value is trimmed and not empty. -/
def setField (s : Survey) (kind : StreamKind) (name : FieldName) (value : String) : Survey :=
  match name with
  | .extra key => s.describe fun d => { d with extras := d.extras.insert key value }
  | .formatProfile =>
    if kind = .video then
      s.describeVideo (setProfile (.ofText s.known.videoCodec value))
    else s.classify kind value
  | .format | .formatVersion | .formatFeatures => s.classify kind value
  | .codecId => if s.hasCodec kind then s else s.classify kind value
  | .duration =>
    if kind = .general ∨ s.found.duration = none then
      s.describe fun d => { d with duration := Quantity.duration? value }
    else s
  | _ =>
    match kind, name with
    | .video, .bitrate =>
      if s.found.bitrate = none then
        s.describe fun d => { d with bitrate := Quantity.bitrate? value }
      else s
    | .video, .width | .image, .width =>
      s.describeVideo fun d => { d with width := Quantity.dimension? value }
    | .video, .height | .image, .height =>
      s.describeVideo fun d => { d with height := Quantity.dimension? value }
    | .video, _ => if s.atFirstVideo then s.setVideoField name value else s
    | .audio, _ => s.setAudioField name value
    | .text, _ => s.setSubtitleField name value
    | .general, _ => s.setGeneralField name value
    | .image, _ => s

/-- Takes in a field as it was reported; a blank value says nothing. -/
def field (s : Survey) (kind : StreamKind) (name : FieldName) (value : String) : Survey :=
  match Text.nonBlank? value with
  | none => s
  | some value => s.setField kind name value

/-- Takes in one event. -/
def step (s : Survey) : SurveyEvent → Survey
  | .begin kind => s.beginStream kind
  | .field kind name value => s.field kind name value
  | .thumbnail t => s.describe fun d => { d with thumbnail := some t }
  | .size n => s.describe fun d => { d with size := some n }

/-- Takes in a row of events. -/
def run (s : Survey) (events : List SurveyEvent) : Survey := events.foldl step s

/-! ## Closing -/

/-- Gives an audio track the tags it lacks. -/
def SongTags.fillIn (tags : SongTags) (t : AudioTrack) : AudioTrack :=
  { t with
    album := t.album.or tags.album
    artist := t.artist.or tags.artist
    songName := t.songName.or tags.songName
    songNumber := t.songNumber.or tags.songNumber
    year := t.year.or tags.year
    genre := t.genre.or tags.genre }

/-- The descriptor of a survey: the media type follows from the streams, a container of audio alone
is renamed, and the tags of the file go to the first track of a song. The title of a film is no
song name, so in any other file the tags are dropped. -/
def finish (s : Survey) : Descriptor :=
  let d := s.found.resolveMediaType
  let d := d.applyAudioVariant?.getD d
  let d :=
    if d.mediaType = .audio then d.modifyFirstAudio (SongTags.fillIn s.tags) else d
  d.markParsed

end Survey

end MediaIndex
