import MediaIndex.Probe.Tool

/-!
# Frame grabs

The thumbnail of a file is one of its pictures: the cover that is stored as a stream, or else a
frame of the video, which is taken a little after the beginning because many films begin black. A
grab that fails leaves no thumbnail and is no failure of the probe.
-/

set_option autoImplicit false

namespace MediaIndex

/-- Where a thumbnail comes from. -/
inductive FrameSource where
  /-- The frame at a position, in seconds. -/
  | video (position : Float)
  /-- A stream that holds a picture. -/
  | cover (stream : UInt32)

namespace FrameSource

/-- The position of a frame in a video: four seconds after the start, or in the middle of a video
that is shorter than eight. -/
def positionIn (duration : Option Float) : Float :=
  match duration with
  | some d => if d > 0.0 then (if d / 2.0 < 4.0 then d / 2.0 else 4.0) else 0.0
  | none => 0.0

/-- The arguments with which a tool writes one frame of a file to its output. -/
def arguments (source : FrameSource) (path : Path) : List String :=
  ["-hide_banner", "-loglevel", "error"] ++
    (match source with
      | .video position => ["-ss", Number.writeFixed 3 position]
      | .cover _ => []) ++
    ["-i", path] ++
    (match source with
      | .video _ => []
      | .cover stream => ["-map", "0:" ++ toString stream.toNat]) ++
    ["-an", "-sn", "-frames:v", "1", "-f", "image2", "-c:v", "mjpeg", "pipe:1"]

/-- The picture that the outcome of a grab holds. -/
def thumbnail? : ToolOutcome → Option Thumbnail
  | .ended o =>
    if o.isSuccess && !o.output.isEmpty then some ⟨o.output, "image/jpeg", none, none⟩ else none
  | _ => none

/-- Grabs a frame. -/
def grab (source : FrameSource) (program : String) (path : Path) (limit : Milliseconds) :
    ToolDialogue (Option Thumbnail) :=
  .ask ⟨program, source.arguments path, limit⟩ fun outcome => .done (thumbnail? outcome)

end FrameSource

end MediaIndex
