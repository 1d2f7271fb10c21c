/-!
# Formats — what a container, a codec or an image can be

Every other module speaks of formats by the constructors below. The texts of the outside world meet
them at one place only: `Format.name` is the word that the cache stores and that reports print, and
`Format.ofName?` is its inverse. Keeping the words in one table is what lets a cached row be read
back by a later run.

The constructors come in four groups (`Format.group`): what a file is wrapped in, what its video
and its audio are coded in, and the formats of still images.
-/

set_option autoImplicit false

namespace MediaIndex

/-- What a format is a format *of*. -/
inductive FormatGroup where
  | container | video | audio | image
  deriving Repr, DecidableEq

/-- A container, a codec or an image format. -/
inductive Format where
  -- containers
  | threeGp | threeG2 | threeGa | threeG2a | aiff | asf | au | avi | caf | dff | dsf | flv
  | matroska | mka | mov | mp4 | m4a | mpegPs | mpegTs | ogg | oga | rm | ra | wav | webm
  | weba | wmv
  -- video codecs
  | av1 | cinepak | divX | dv | ffv1 | h263 | h264 | h265 | indeo | mjpeg | mpeg1 | mpeg2
  | mpeg4Visual | proRes | rgb | rle | sorenson | tga | theora | vc1 | vp6 | vp7 | vp8 | vp9
  | yuv
  -- audio codecs
  | aacLc | ac3 | acelp | adpcm | adts | alac | als | amr | ape | atmos | atrac | celp | cook
  | dolbyE | dts | dtsHd | eac3 | flac | g729 | heAac | lpcm | mace3 | mace6 | mlp | mp2 | mp3
  | mpa | mpc | nellymoser | opus | qDesign | qcelp | ralf | realAudio144 | realAudio288
  | shorten | sls | trueHd | tta | vorbis | wavPack | wma | wmaLossless | wmaPro | wmaVoice
  -- images
  | bmp | gif | jpg | png | tiff | webp
  deriving Repr, DecidableEq

namespace Format

/-- The container formats. -/
def containers : List Format :=
  [.threeGp, .threeG2, .threeGa, .threeG2a, .aiff, .asf, .au, .avi, .caf, .dff, .dsf, .flv,
   .matroska, .mka, .mov, .mp4, .m4a, .mpegPs, .mpegTs, .ogg, .oga, .rm, .ra, .wav, .webm,
   .weba, .wmv]

/-- The video codecs. -/
def videoCodecs : List Format :=
  [.av1, .cinepak, .divX, .dv, .ffv1, .h263, .h264, .h265, .indeo, .mjpeg, .mpeg1, .mpeg2,
   .mpeg4Visual, .proRes, .rgb, .rle, .sorenson, .tga, .theora, .vc1, .vp6, .vp7, .vp8, .vp9,
   .yuv]

/-- The audio codecs. -/
def audioCodecs : List Format :=
  [.aacLc, .ac3, .acelp, .adpcm, .adts, .alac, .als, .amr, .ape, .atmos, .atrac, .celp, .cook,
   .dolbyE, .dts, .dtsHd, .eac3, .flac, .g729, .heAac, .lpcm, .mace3, .mace6, .mlp, .mp2, .mp3,
   .mpa, .mpc, .nellymoser, .opus, .qDesign, .qcelp, .ralf, .realAudio144, .realAudio288,
   .shorten, .sls, .trueHd, .tta, .vorbis, .wavPack, .wma, .wmaLossless, .wmaPro, .wmaVoice]

/-- The image formats. -/
def images : List Format :=
  [.bmp, .gif, .jpg, .png, .tiff, .webp]

/-- Every format, group by group. -/
def all : List Format := containers ++ videoCodecs ++ audioCodecs ++ images

/-- The word for a format in the cache and in reports. No two formats share one. -/
def name : Format → String
  | .threeGp => "3gp"
  | .threeG2 => "3g2"
  | .threeGa => "3ga"
  | .threeG2a => "3g2a"
  | .aiff => "aiff"
  | .asf => "asf"
  | .au => "au"
  | .avi => "avi"
  | .caf => "caf"
  | .dff => "dff"
  | .dsf => "dsf"
  | .flv => "flv"
  | .matroska => "mkv"
  | .mka => "mka"
  | .mov => "mov"
  | .mp4 => "mp4"
  | .m4a => "m4a"
  | .mpegPs => "mpegps"
  | .mpegTs => "mpegts"
  | .ogg => "ogg"
  | .oga => "oga"
  | .rm => "rm"
  | .ra => "ra"
  | .wav => "wav"
  | .webm => "webm"
  | .weba => "weba"
  | .wmv => "wmv"
  | .av1 => "av1"
  | .cinepak => "cvid"
  | .divX => "divx"
  | .dv => "dv"
  | .ffv1 => "ffv1"
  | .h263 => "h263"
  | .h264 => "h264"
  | .h265 => "h265"
  | .indeo => "indeo"
  | .mjpeg => "mjpeg"
  | .mpeg1 => "mpeg1"
  | .mpeg2 => "mpeg2"
  | .mpeg4Visual => "mpeg4"
  | .proRes => "prores"
  | .rgb => "rgb"
  | .rle => "rle"
  | .sorenson => "sor"
  | .tga => "tga"
  | .theora => "theora"
  | .vc1 => "vc1"
  | .vp6 => "vp6"
  | .vp7 => "vp7"
  | .vp8 => "vp8"
  | .vp9 => "vp9"
  | .yuv => "yuv"
  | .aacLc => "aac-lc"
  | .ac3 => "ac3"
  | .acelp => "acelp"
  | .adpcm => "adpcm"
  | .adts => "adts"
  | .alac => "alac"
  | .als => "als"
  | .amr => "amr"
  | .ape => "ape"
  | .atmos => "atmos"
  | .atrac => "atrac"
  | .celp => "celp"
  | .cook => "cook"
  | .dolbyE => "dolbye"
  | .dts => "dts"
  | .dtsHd => "dtshd"
  | .eac3 => "eac3"
  | .flac => "flac"
  | .g729 => "g729"
  | .heAac => "he-aac"
  | .lpcm => "lpcm"
  | .mace3 => "mace3"
  | .mace6 => "mace6"
  | .mlp => "mlp"
  | .mp2 => "mp2"
  | .mp3 => "mp3"
  | .mpa => "mpa"
  | .mpc => "mpc"
  | .nellymoser => "nellymoser"
  | .opus => "opus"
  | .qDesign => "qdmc"
  | .qcelp => "qcelp"
  | .ralf => "ralf"
  | .realAudio144 => "ra14.4"
  | .realAudio288 => "ra28.8"
  | .shorten => "shn"
  | .sls => "sls"
  | .trueHd => "truehd"
  | .tta => "tta"
  | .vorbis => "vorbis"
  | .wavPack => "wavpack"
  | .wma => "wma"
  | .wmaLossless => "wmalossless"
  | .wmaPro => "wmapro"
  | .wmaVoice => "wmavoice"
  | .bmp => "bmp"
  | .gif => "gif"
  | .jpg => "jpg"
  | .png => "png"
  | .tiff => "tiff"
  | .webp => "webp"

/-- The format a word names, if it is the name of one. -/
def ofName? (word : String) : Option Format :=
  all.find? fun f => f.name == word

/-- The group a format belongs to. -/
def group (f : Format) : FormatGroup :=
  if containers.contains f then .container
  else if videoCodecs.contains f then .video
  else if audioCodecs.contains f then .audio
  else .image

/-- The pure-audio counterpart of a container that holds audio alone as readily as audio beside
video. A file without a video stream is listed under the counterpart. -/
def audioVariant? : Format → Option Format
  | .matroska => some .mka
  | .mp4 => some .m4a
  | .ogg => some .oga
  | .webm => some .weba
  | .wmv => some .wma
  | .asf => some .wma
  | .rm => some .ra
  | .threeGp => some .threeGa
  | .threeG2 => some .threeG2a
  | _ => none

end Format

/-- A word that names no format. -/
structure UnknownFormat where
  word : String
  deriving Repr, DecidableEq

/-- The sentence shown for a word that names no format. -/
def UnknownFormat.message (e : UnknownFormat) : String :=
  "unknown format identifier: " ++ e.word

/-- Reads a format name, or says which word is no name. -/
def Format.ofName (word : String) : Except UnknownFormat Format :=
  match Format.ofName? word with
  | some f => .ok f
  | none => .error ⟨word⟩

end MediaIndex
