import MediaIndex.Probe.FrameGrab
import MediaIndex.Report.StreamSummary
import MediaIndex.Report.TrackList
import MediaIndex.Text.Utf8

/-!
# The probers that call a tool

Two tools write reports: one a track list, the other a stream summary. Both probers take whatever
path has an extension, both refuse a report that names no known format, and both complete the
descriptor by the size that the file has on the disk, if the report gave none.

A tool that writes summaries always complains, because it is given no output; so only its complaints
count, and not how it ended.
-/

set_option autoImplicit false

namespace MediaIndex

/-- A tool prober takes a path that has an extension. -/
def hasExtension (path : Path) : Bool := path.extension?.isSome

/-- Completes a descriptor by a size. -/
def Descriptor.fillSize (d : Descriptor) (size : Option UInt64) : Descriptor :=
  { d with size := d.size.or size }

namespace TrackList

/-- The name of the tool. -/
def toolName : String := "mediainfo"

/-- Makes a descriptor from what the tool left. -/
def interpret (path : Path) (size : Option UInt64) (o : ToolOutput) : ProbeAnswer :=
  if o.isSuccess then
    match describe? (Text.decodeLossy o.output) with
    | none => .error (.unreadable toolName "not a track list")
    | some d =>
      if d.container.isNone && d.audioTracks.isEmpty && d.videoCodec.isNone then
        .error (.unresolved path)
      else .ok (d.fillSize size)
  else .error (.toolFailed toolName o.status (Text.trim (Text.decodeLossy o.complaints)))

/-- Probes a file of a given size by one call. -/
def probe (program : String) (limit : Milliseconds) (path : Path) (size : Option UInt64) :
    ToolDialogue ProbeAnswer :=
  let call : ToolCall := ⟨program, ["--Output=JSON", path], limit⟩
  .ask call fun outcome => .done ((call.outputOf outcome).bind (interpret path size))

end TrackList

namespace StreamSummary

/-- The name of the tool. -/
def toolName : String := "ffmpeg"

/-- The failure of a text without an input. -/
def noInput : ProbeFailure := .unreadable toolName "no input section in output"

/-- Makes a summary from what the tool left. -/
def interpret (path : Path) (size : Option UInt64) (o : ToolOutput) :
    Except ProbeFailure StreamSummary :=
  match ofText? (Text.decodeLossy o.complaints) with
  | none => .error noInput
  | some s =>
    if s.descriptor.container.isNone then .error (.unresolved path)
    else .ok { s with descriptor := s.descriptor.fillSize size }

/-- Where the thumbnail of a file comes from, if it can have one. -/
def frameSource? (s : StreamSummary) : Option FrameSource :=
  match s.cover, s.descriptor.mediaType with
  | some stream, _ => some (.cover stream)
  | none, .video => some (.video (FrameSource.positionIn s.descriptor.duration))
  | none, _ => none

/-- Adds the thumbnail, by a second call. -/
def addThumbnail (program : String) (path : Path) (limit : Milliseconds) (s : StreamSummary) :
    ToolDialogue Descriptor :=
  match s.frameSource? with
  | none => .done s.descriptor
  | some source =>
    (source.grab program path limit).bind fun t => .done { s.descriptor with thumbnail := t }

/-- Probes a file of a given size. With a limit for thumbnails one is grabbed too. -/
def probe (program : String) (limit : Milliseconds) (thumbnailLimit : Option Milliseconds)
    (path : Path) (size : Option UInt64) : ToolDialogue ProbeAnswer :=
  let call : ToolCall := ⟨program, ["-hide_banner", "-i", path], limit⟩
  .ask call fun outcome =>
    match (call.outputOf outcome).bind (interpret path size), thumbnailLimit with
    | .error e, _ => .done (.error e)
    | .ok s, none => .done (.ok s.descriptor)
    | .ok s, some limit => (s.addThumbnail program path limit).bind fun d => .done (.ok d)

end StreamSummary

end MediaIndex
