import MediaIndex.Level
import MediaIndex.SubtitleFormat

/-!
# Recognition — what a token of a report means

Tools name the same codec in a dozen ways. `recognise` takes one token that a tool reported for a
stream and says what it stands for, given what is already settled about the file. Some tokens mean
something only there: `Layer 3` says nothing of a film's audio but turns an MPEG audio file into an
MP3.

The rules are data (`tokenRules`): a list of tests on the stream kind and on the token, in lower
case and trimmed, each with an answer. The first rule whose test holds gives the answer, so the
order of the list is part of its meaning: the specific come before the general. No test looks at
what is settled; where that matters, the *answer* says so, and `Answer.given` works it out.
-/

set_option autoImplicit false

namespace MediaIndex

/-- The kind of stream a value was reported for. -/
inductive StreamKind where
  | general | video | audio | image | text
  deriving Repr, DecidableEq

/-- What is settled so far about the file being read. The audio codec is that of the audio stream
being read; it is unsettled again when the next one begins. -/
structure Settled where
  container : Option Format := none
  videoCodec : Option Format := none
  audioCodec : Option Format := none
  deriving Repr, DecidableEq

/-- What a single token can stand for. -/
inductive Meaning where
  | format (format : Format)
  | subtitle (format : SubtitleFormat)
  | profileLevel (value : ProfileLevel)
  deriving Repr, DecidableEq

/-- The outcome for one token: a meaning, and a new container where the token tells that the one
settled earlier was only a family name. -/
structure Recognition where
  meaning : Option Meaning := none
  container : Option Format := none
  deriving Repr, DecidableEq

/-- A token that said nothing. -/
def Recognition.isEmpty (r : Recognition) : Bool :=
  r.meaning.isNone && r.container.isNone

namespace Settled

/-- The format settled for the streams of a kind. -/
def formatFor (known : Settled) : StreamKind → Option Format
  | .general => known.container
  | .video | .image => known.videoCodec
  | .audio => known.audioCodec
  | .text => none

/-- Settles a format for the streams of a kind. -/
def settle (known : Settled) (kind : StreamKind) (format : Format) : Settled :=
  match kind with
  | .general => { known with container := some format }
  | .video | .image => { known with videoCodec := some format }
  | .audio => { known with audioCodec := some format }
  | .text => known

/-- Takes the outcome for a token of a stream kind into account: the new container first, then the
format. -/
def apply (known : Settled) (kind : StreamKind) (r : Recognition) : Settled :=
  let known :=
    match r.container with
    | some container => { known with container := some container }
    | none => known
  match r.meaning with
  | some (.format f) => known.settle kind f
  | _ => known

end Settled

/-! ## The shape of a rule -/

/-- A test on a token. -/
inductive TokenTest where
  | isOneOf (words : List String)
  | beginsWith (lead : String)
  | endsWith (tail : String)
  | holds (part : String)
  | beginsWithout (lead except : String)
  | satisfies (test : String → Bool)

/-- Whether a token passes a test. -/
def TokenTest.passes (token : String) : TokenTest → Bool
  | .isOneOf words => words.contains token
  | .beginsWith lead => Text.startsWith lead token
  | .endsWith tail => Text.endsWith tail token
  | .holds part => Text.contains part token
  | .beginsWithout lead except => Text.startsWith lead token && !Text.startsWith except token
  | .satisfies test => test token

/-- The stream kinds a rule speaks about. -/
inductive Scope where
  | every
  | only (kind : StreamKind)
  | allBut (kind : StreamKind)
  deriving Repr, DecidableEq

/-- Whether a scope takes in a kind. -/
def Scope.covers (kind : StreamKind) : Scope → Bool
  | .every => true
  | .only k => k == kind
  | .allBut k => k != kind

/-- What a rule answers. Most name a format; the others depend on what is settled. -/
inductive Answer where
  | format (format : Format)
  /-- MPEG video turns out to be of the first version, as long as no audio has been read. -/
  | firstVersion
  /-- The third layer of MPEG audio; it renames a bare MPEG audio file as well. -/
  | layerThree
  /-- The second layer, of a bare MPEG audio file only. -/
  | layerTwo
  /-- The lossless extension of a DTS stream. -/
  | losslessDts
  /-- The number of plain PCM, which inside a DTS stream numbers something else. -/
  | plainPcm
  deriving Repr, DecidableEq

/-- A rule: it answers for tokens of the kinds in its scope that pass one of its tests. -/
structure TokenRule where
  scope : Scope
  tests : List TokenTest
  answer : Answer

/-- Whether a rule speaks about a token. -/
def TokenRule.applies (kind : StreamKind) (token : String) (rule : TokenRule) : Bool :=
  rule.scope.covers kind && rule.tests.any (·.passes token)

/-! ## The rules -/

/-- The four-letter codes of DV, some of which end in any one character or in none. -/
def isDvCode (token : String) : Bool :=
  ["dv", "dc25", "dcap", "dvrs", "dv25", "dv50", "dvan", "dvis", "dvnm", "mdvf", "pdvc", "r411",
    "r420", "sdcc", "sl25", "sl50", "sldv", "dvvideo"].contains token ||
  ["cdv", "dvc", "dvs", "dvh", "dvl", "dvp"].any fun stem =>
    match (Text.afterLead? stem token).map String.toList with
    | some [] => true
    | some [c] => c != '\n'
    | _ => false

/-- A rule of one scope for a format. -/
def TokenRule.naming (scope : Scope) (format : Format) (tests : List TokenTest) : TokenRule :=
  ⟨scope, tests, .format format⟩

/-- The rules, first match first. -/
def tokenRules : List TokenRule :=
  let general := TokenRule.naming (.only .general)
  let video := TokenRule.naming (.only .video)
  let every := TokenRule.naming .every
  [ -- containers
   general .threeG2 [.satisfies fun v => Text.startsWith "3g2" v && v != "3g2a"],
   general .threeGp [.beginsWith "3gp"],
   general .matroska [.beginsWith "matroska", .isOneOf ["mkv"]],
   general .avi [.isOneOf ["avi", "opendml"]],
   every .cinepak [.beginsWith "cinepak", .isOneOf ["cvid"]],
   general .flv [.beginsWith "flash", .isOneOf ["flv"]],
   general .webm [.isOneOf ["webm"]],
   general .mov [.isOneOf ["qt", "quicktime", "mov"]],
   general .mp4
    [.holds "isom", .beginsWithout "mp4" "mp4a", .isOneOf ["20", "isml"],
     .beginsWithout "m4a" "m4ae", .beginsWith "m4v", .isOneOf ["mpeg-4", "xavc"]],
   general .mpegPs [.holds "mpeg-ps", .isOneOf ["mpeg"]],
   general .mpegTs [.holds "mpeg-ts", .isOneOf ["bdav", "mpegts"]],
   general .caf [.isOneOf ["caf"]],
   every .aiff [.holds "aiff"],
   every .atmos [.beginsWith "atmos", .isOneOf ["131"]],
   general .ogg [.holds "ogg"],
   every .opus [.holds "opus"],
   general .rm [.holds "realmedia", .isOneOf ["rm"]],
   every .theora [.beginsWith "theora"],
   general .wmv [.beginsWith "windows media", .isOneOf ["wmv", "asf"]],
   -- video codecs
   video .wmv [.isOneOf ["wmv1", "wmv2", "wmv7", "wmv8"]],
   video .mjpeg [.holds "mjpg", .holds "mjpeg", .isOneOf ["mjpa", "mjpb", "jpeg", "jpeg2000"]],
   every .h263 [.isOneOf ["h.263", "h263", "s263", "u263"]],
   every .h264 [.beginsWith "avc", .beginsWith "h264"],
   every .h265 [.beginsWith "hevc", .beginsWith "h265"],
   every .av1 [.isOneOf ["av1"], .beginsWith "av01"],
   every .sorenson [.beginsWith "sorenson", .isOneOf ["flv1"]],
   every .vp6 [.beginsWith "vp6"],
   every .vp7 [.beginsWith "vp7"],
   every .vp8 [.beginsWith "vp8"],
   every .vp9 [.beginsWith "vp9"],
   every .divX [.beginsWith "div", .isOneOf ["dx50", "dvx1", "xvid"]],
   every .indeo [.beginsWith "indeo"],
   every .proRes [.beginsWith "prores", .beginsWith "apc"],
   video .yuv [.isOneOf ["yuv"]],
   video .rgb [.isOneOf ["rgb", "rgba"]],
   video .rle [.isOneOf ["rle"]],
   every .mace3 [.isOneOf ["mac3"]],
   every .mace6 [.isOneOf ["mac6"]],
   video .tga [.beginsWith "tga"],
   every .ffv1 [.isOneOf ["ffv1"]],
   every .celp [.isOneOf ["celp"]],
   every .qcelp [.isOneOf ["qcelp"]],
   .naming (.allBut .audio) .dv [.satisfies isDvCode],
   every .mpeg2 [.holds "mpeg video", .isOneOf ["mpeg2video"]],
   video .mpeg1 [.isOneOf ["mpeg1video"]],
   ⟨.only .video, [.beginsWith "version 1", .isOneOf ["155"]], .firstVersion⟩,
   video .mpeg4Visual [.isOneOf ["mpeg-4 visual", "mpeg4", "fmp4", "mp4v"]],
   every .vc1 [.isOneOf ["vc-1", "vc1", "wvc1", "wmv3", "wmv9", "wmva"]],
   -- audio
   every .au [.isOneOf ["au", "ulaw/au audio file"]],
   ⟨.every, [.isOneOf ["layer 3"]], .layerThree⟩,
   ⟨.every, [.isOneOf ["layer 2"]], .layerTwo⟩,
   ⟨.every,
    [.isOneOf ["ma", "ma / core", "134", "xll", "xll / core", "dts-hd ma", "dts-hd hra"]],
    .losslessDts⟩,
   every .vorbis [.isOneOf ["vorbis", "a_vorbis"]],
   every .adts [.isOneOf ["adts"]],
   general .adts [.isOneOf ["aac"]],
   every .amr [.beginsWith "amr"],
   every .dolbyE [.isOneOf ["dolby e"]],
   every .ac3 [.isOneOf ["ac-3", "a_ac3", "2000", "ac3"]],
   every .cook [.beginsWith "cook"],
   every .qDesign [.beginsWith "qdesign", .isOneOf ["qdm2"]],
   every .ralf [.isOneOf ["realaudio lossless"]],
   every .eac3 [.holds "e-ac-3", .isOneOf ["eac3", "a_eac3"]],
   every .trueHd [.holds "truehd"],
   every .tta [.isOneOf ["tta", "true audio"]],
   every .mp3 [.isOneOf ["55", "a_mpeg/l3", "mp3", "mp3float"]],
   .naming (.only .audio) .mp2 [.isOneOf ["mp2", "a_mpeg/l2"]],
   every .aacLc
    [.isOneOf ["lc", "aac lc", "aac", "a_aac", "mp4a-40-2",
      "00001000-0000-ff00-8000-00aa00389b71"]],
   every .heAac [.holds "he-aac", .isOneOf ["aac he", "mp4a-40-5"]],
   every .adpcm [.beginsWith "adpcm"],
   every .lpcm [.isOneOf ["pcm"], .beginsWith "pcm_"],
   ⟨.every, [.isOneOf ["1"]], .plainPcm⟩,
   every .alac [.isOneOf ["alac"]],
   every .als [.isOneOf ["als"]],
   general .wav [.isOneOf ["wave"]],
   every .shorten [.isOneOf ["shorten"]],
   every .sls [.isOneOf ["sls"]],
   every .acelp [.isOneOf ["acelp"]],
   every .g729 [.isOneOf ["g.729"]],
   every .realAudio144 [.isOneOf ["vselp"]],
   every .realAudio288 [.isOneOf ["g.728"]],
   every .dts [.isOneOf ["a_dts", "dts", "dca", "8"], .beginsWith "dts "],
   every .mpa [.isOneOf ["mpeg audio"]],
   every .wma [.isOneOf ["wma", "wmav1", "wmav2", "161"]],
   every .wmaPro [.isOneOf ["wmapro", "162"]],
   every .wmaLossless [.isOneOf ["wmalossless", "163"]],
   every .wmaVoice [.isOneOf ["wmavoice", "10"]],
   every .flac [.isOneOf ["flac"]],
   every .ape [.isOneOf ["monkey's audio", "ape"]],
   every .mpc [.holds "musepack", .isOneOf ["mpc"]],
   every .wavPack [.holds "wavpack"],
   general .wavPack [.isOneOf ["wv"]],
   every .mlp [.holds "mlp"],
   every .atrac
    [.isOneOf ["openmg"], .beginsWith "atrac", .endsWith "-a119-fffa01e4ce62",
     .endsWith "-88fc-61654f8c836c"],
   every .nellymoser [.isOneOf ["nellymoser"]],
   general .dsf [.isOneOf ["dsf", "dsd"]],
   general .dff [.isOneOf ["dsdiff", "dff"]],
   -- images
   .naming (.allBut .video) .jpg [.isOneOf ["jpeg", "jpeg_pipe"]],
   every .png [.isOneOf ["png", "png_pipe"]],
   every .gif [.isOneOf ["gif", "gif_pipe"]],
   every .bmp [.isOneOf ["bitmap", "bmp", "bmp_pipe"]],
   every .tiff [.isOneOf ["tiff", "tiff_pipe"]],
   every .webp [.isOneOf ["webp", "webp_pipe"]]]

/-- The answer for a token, before what is settled is looked at: that of the first rule that
applies, or the format whose name the token is. -/
def answerFor? (kind : StreamKind) (token : String) : Option Answer :=
  match tokenRules.find? (·.applies kind token) with
  | some rule => some rule.answer
  | none => (Format.ofName? token).map .format

/-! ## Working out an answer -/

/-- What an answer comes to, given what is settled. -/
def Answer.given (known : Settled) : Answer → Recognition
  | .format f => { meaning := some (.format f) }
  | .firstVersion =>
    if known.videoCodec = some .mpeg2 ∧ known.audioCodec = none then
      { meaning := some (.format .mpeg1) }
    else {}
  | .layerThree =>
    let meaning : Option Meaning :=
      if known.audioCodec = some .mpa then some (.format .mp3) else none
    if known.container = some .mpa then ⟨meaning, some .mp3⟩ else ⟨meaning, none⟩
  | .layerTwo =>
    if known.audioCodec = some .mpa ∧ known.container = some .mpa then
      ⟨some (.format .mp2), some .mp2⟩
    else {}
  | .losslessDts =>
    if known.audioCodec = some .dts then { meaning := some (.format .dtsHd) } else {}
  | .plainPcm =>
    if known.audioCodec = some .dts then {} else { meaning := some (.format .lpcm) }

/-- The subtitle format a token stands for. -/
def recogniseSubtitle (token : String) : Option SubtitleFormat :=
  match token with
  | "utf-8" | "subrip" | "srt" | "s_text/utf8" => some .subRip
  | "ass" | "s_text/ass" => some .ass
  | "ssa" | "s_text/ssa" => some .ssa
  | "vobsub" | "dvd_subtitle" | "s_vobsub" => some .vobSub
  | "pgs" | "hdmv_pgs_subtitle" | "s_hdmv/pgs" => some .pgs
  | "webvtt" | "s_text/webvtt" => some .webVtt
  | "timed text" | "mov_text" | "tx3g" => some .movText
  | "dvb subtitle" | "dvb_subtitle" | "s_dvbsub" => some .dvbSub
  | "eia-608" | "eia_608" | "cea-608" => some .cea608
  | "eia-708" | "eia_708" | "cea-708" => some .cea708
  | "ttml" => some .ttml
  | "microdvd" => some .microDvd
  | "sami" => some .sami
  | other => SubtitleFormat.ofName? other

/-- What a trimmed, lower-case token of a stream that is not text means, before the container is
looked at again. The name of the format that is settled already means that format, also where the
same word is a report's name for another one. -/
def recogniseToken (kind : StreamKind) (token : String) (known : Settled) : Recognition :=
  match (known.formatFor kind).filter fun f => f.name == token with
  | some f => { meaning := some (.format f) }
  | none =>
    match answerFor? kind token with
    | some answer => answer.given known
    | none =>
      if kind = .video ∧ Text.contains "@l" token then
        { meaning := some (.profileLevel (.ofText known.videoCodec token)) }
      else {}

/-- A Windows Media container that holds video of another family is plain ASF. -/
def asfContainer (kind : StreamKind) (known : Settled) (r : Recognition) : Recognition :=
  match kind, r.meaning with
  | .video, some (.format codec) =>
    if known.container = some .wmv ∧ codec ≠ .wmv ∧ codec ≠ .vc1 then
      { r with container := some .asf }
    else r
  | _, _ => r

/-- Drops a new container that is the settled one, so that a token read twice changes nothing the
second time. -/
def dropSameContainer (known : Settled) (r : Recognition) : Recognition :=
  if r.container = known.container then { r with container := none } else r

/-- What a raw token reported for a stream kind means, given what is settled. -/
def recognise (kind : StreamKind) (raw : String) (known : Settled) : Recognition :=
  let token := Text.lower (Text.trim raw)
  if token.isEmpty then {}
  else
    match kind with
    | .text => { meaning := (recogniseSubtitle token).map .subtitle }
    | _ => dropSameContainer known (asfContainer kind known (recogniseToken kind token known))

end MediaIndex
