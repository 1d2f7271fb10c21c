import MediaIndex.Cue.Composition
import MediaIndex.Toml.Reader

/-!
# Settings

All settings have a value from the start; a settings file changes some of them. Keys of a settings
file that are not known are passed over, but a known one with a value of the wrong type makes the
whole file invalid.
-/

set_option autoImplicit false

namespace MediaIndex

/-- What the user may choose. -/
structure Settings where
  /-- Where to look for media if nothing else is said. -/
  mediaDirectories : List Path := []
  /-- Where the cache is kept, if not at the usual place. -/
  cachePath : Option Path := none
  /-- How many probes may run at the same time. With zero the machine decides. -/
  workers : Nat := 0
  /-- The tool that writes stream summaries, if it is not on the search path. -/
  summaryTool : Option Path := none
  /-- The tool that writes track lists, if it is not on the search path. -/
  trackListTool : Option Path := none
  probeSeconds : Nat := 30
  thumbnailSeconds : Nat := 10
  wantsThumbnails : Bool := true
  style : CompositionStyle := {}
  deriving Repr, DecidableEq

namespace Settings

open Toml (Value)

/-- A value as a text. -/
def text? : Value → Option String
  | .string s => some s
  | _ => none

/-- A value as a count. -/
def count? : Value → Option Nat
  | .integer n => if 0 ≤ n then some n.toNat else none
  | _ => none

/-- A value as a switch. -/
def switch? : Value → Option Bool
  | .boolean b => some b
  | _ => none

/-- A value as a list of texts. -/
def texts? : Value → Option (List String)
  | .array items => items.mapM text?
  | _ => none

/-- Takes in one key of a settings file. -/
def assign? (s : Settings) (key : String) (v : Value) : Option Settings :=
  match key with
  | "media_dirs" => (texts? v).map fun x => { s with mediaDirectories := x }
  | "db_path" => (text? v).map fun x => { s with cachePath := some x }
  | "workers" => (count? v).map fun x => { s with workers := x }
  | "ffmpeg_path" => (text? v).map fun x => { s with summaryTool := some x }
  | "mediainfo_path" => (text? v).map fun x => { s with trackListTool := some x }
  | "probe_timeout_secs" => (count? v).map fun x => { s with probeSeconds := x }
  | "thumbnail_timeout_secs" => (count? v).map fun x => { s with thumbnailSeconds := x }
  | "generate_thumbnails" => (switch? v).map fun x => { s with wantsThumbnails := x }
  | "track_label" => (text? v).map fun x => { s with style := { s.style with trackLabel := x } }
  | "transcoder" => (text? v).map fun x => { s with style := { s.style with transcoder := x } }
  | _ => some s

/-- Takes in the keys of a settings file. -/
def assignAll? (s : Settings) : List (String × Value) → Option Settings
  | [] => some s
  | (key, v) :: rest => (s.assign? key v).bind fun s => s.assignAll? rest

/-- Reads a settings file. -/
def ofText? (text : String) : Option Settings :=
  (Toml.ofText? text).bind fun members => assignAll? {} members

end Settings

/-- The probers there are. -/
inductive ProberKind where
  | trackList | summary | tags
  deriving Repr, DecidableEq

/-- The name of a prober. -/
def ProberKind.name : ProberKind → String
  | .trackList => "mediainfo"
  | .summary => "ffmpeg"
  | .tags => "tags"

/-- The probers to ask, in this order: those whose tool is there, and at last the one that needs no
tool. A tool is where the settings say, and if it is not there it is looked for. -/
def Settings.proberKinds (s : Settings) (isThere : Path → Bool) (found : ProberKind → Option Path) :
    List (ProberKind × Path) :=
  let tool (kind : ProberKind) (configured : Option Path) : List (ProberKind × Path) :=
    ((configured.filter isThere).or (found kind)).toList.map fun path => (kind, path)
  tool .trackList s.trackListTool ++ tool .summary s.summaryTool ++ [(.tags, "")]

end MediaIndex
