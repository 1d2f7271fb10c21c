import MediaIndex.Format

/-!
# Subtitle formats — the text and bitmap streams beside a film

As for `Format`, one table holds the words: `SubtitleFormat.name` writes them and
`SubtitleFormat.ofName?` reads them back.
-/

set_option autoImplicit false

namespace MediaIndex

/-- The format of a subtitle stream. -/
inductive SubtitleFormat where
  | subRip | ass | ssa | vobSub | pgs | webVtt | movText | dvbSub | cea608 | cea708 | ttml
  | microDvd | sami
  deriving Repr, DecidableEq

namespace SubtitleFormat

/-- Every subtitle format. -/
def all : List SubtitleFormat :=
  [.subRip, .ass, .ssa, .vobSub, .pgs, .webVtt, .movText, .dvbSub, .cea608, .cea708, .ttml,
   .microDvd, .sami]

/-- The word for a subtitle format in the cache and in reports. -/
def name : SubtitleFormat → String
  | .subRip => "subrip"
  | .ass => "ass"
  | .ssa => "ssa"
  | .vobSub => "vobsub"
  | .pgs => "pgs"
  | .webVtt => "webvtt"
  | .movText => "mov_text"
  | .dvbSub => "dvbsub"
  | .cea608 => "cea608"
  | .cea708 => "cea708"
  | .ttml => "ttml"
  | .microDvd => "microdvd"
  | .sami => "sami"

/-- The subtitle format a word names, if it is the name of one. -/
def ofName? (word : String) : Option SubtitleFormat :=
  all.find? fun f => f.name == word

/-- Reads a subtitle format name, or says which word is no name. -/
def ofName (word : String) : Except UnknownFormat SubtitleFormat :=
  match ofName? word with
  | some f => .ok f
  | none => .error ⟨word⟩

/-- Whether the stream is text that a player can lay out itself. The others are pictures and have
to be burned into the video. -/
def isText : SubtitleFormat → Bool
  | .vobSub | .pgs | .dvbSub => false
  | _ => true

end SubtitleFormat

end MediaIndex
