import MediaIndex.Indexing.SheetFile
import MediaIndex.Text.Lower

/-!
# Scanning — bringing the cache up to date with some directories

A scan goes over the files in three steps. It sorts them out (`collect`): what is in the cache under
its present time is skipped. It probes the media files that are left, in chunks that are shared
out to the workers, and stores what they yield (`probeMedia`). At last it composes the cue sheets
that are left (`composeSheets`); when every track of a sheet is stored, the sheet gets an empty row
of its own, so that it is skipped next time.

A failure is counted and ends nothing.
-/

set_option autoImplicit false

namespace MediaIndex

/-- What a scan counted. -/
structure ScanCounts where
  scanned : Nat := 0
  probed : Nat := 0
  skipped : Nat := 0
  errors : Nat := 0
  sheets : Nat := 0
  virtualTracks : Nat := 0
  deriving Repr, DecidableEq

/-- A file and the time under which it will be stored. -/
structure Candidate where
  path : Path
  modified : Timestamp
  deriving Repr, DecidableEq

/-- What a file is to a scan. -/
inductive FileRole where
  | media | sheet
  deriving Repr, DecidableEq

/-- The extensions of media files: audio, video, images. -/
def mediaExtensions : List String :=
  ["aac", "aif", "aiff", "ape", "flac", "m4a", "mka", "mp3", "mpc", "oga", "ogg", "opus", "wav",
   "wma", "wv"] ++
  ["3g2", "3gp", "asf", "avi", "divx", "flv", "m2ts", "m4v", "mkv", "mov", "mp4", "mpeg", "mpg",
   "mts", "ogv", "rm", "rmvb", "ts", "vob", "webm", "wmv"] ++
  ["bmp", "gif", "jpeg", "jpg", "png", "tif", "tiff", "webp"]

/-- What a file is, by its extension; most files are nothing to a scan. -/
def FileRole.ofPath? (path : Path) : Option FileRole :=
  let e := Text.lower (path.extension?.getD "")
  if e == "cue" then some .sheet else if mediaExtensions.contains e then some .media else none

/-! ## Sorting out -/

/-- What the first step leaves for the others. -/
structure Collected where
  counts : ScanCounts := {}
  media : List Candidate := []
  sheets : List Candidate := []
  deriving Repr, DecidableEq

namespace Collected

/-- Adds a file that was found. -/
def add (disk : Disk) (cache : Cache) (force : Bool) (c : Collected) (path : Path) : Collected :=
  match FileRole.ofPath? path with
  | none => c
  | some role =>
    match disk.modified path with
    | .error _ => { c with counts.errors := c.counts.errors + 1 }
    | .ok time =>
      let c := { c with counts.scanned := c.counts.scanned + 1 }
      if !force && cache.contains path time then
        { c with counts.skipped := c.counts.skipped + 1 }
      else
        match role with
        | .sheet => { c with sheets := c.sheets ++ [⟨path, time⟩] }
        | .media => { c with media := c.media ++ [⟨path, time⟩] }

/-- Sorts out files. -/
def ofFiles (disk : Disk) (cache : Cache) (force : Bool) (files : List Path) : Collected :=
  files.foldl (add disk cache force) {}

end Collected

/-! ## Probing -/

/-- A scan under way. -/
structure ScanState where
  cache : Cache
  counts : ScanCounts
  /-- The paths that were probed. -/
  probed : List Path := []

namespace ScanState

/-- Counts an error. -/
def addError (s : ScanState) : ScanState := { s with counts.errors := s.counts.errors + 1 }

/-- Stores what the probe of a media file yielded. -/
def storeAnswer (s : ScanState) (found : Candidate × ProbeAnswer) : ScanState :=
  match found.2 with
  | .error _ => s.addError
  | .ok d =>
    match s.cache.upsert found.1.path found.1.modified d with
    | .error _ => s.addError
    | .ok (cache, _) => { s with cache, counts.probed := s.counts.probed + 1 }

/-- Probes a chunk of media files, all before any answer is stored. -/
def probeChunk (probe : Path → ProbeAnswer) (s : ScanState) (chunk : List Candidate) : ScanState :=
  (chunk.map fun c => (c, probe c.path)).foldl storeAnswer
    { s with probed := s.probed ++ chunk.map (·.path) }

end ScanState

/-- Cuts a list into chunks of a given size, which counts as one if it is zero; the last chunk may
be smaller. -/
def inChunks {α : Type} (size : Nat) : List α → List (List α)
  | [] => []
  | a :: rest => (a :: rest.take (size - 1)) :: inChunks size (rest.drop (size - 1))
termination_by l => l.length
decreasing_by
  simp only [List.length_drop, List.length_cons]
  omega

/-- How many files are shared out to the workers at a time: enough to keep every one busy. -/
def chunkSize (workers : Nat) : Nat := max workers 1 * 2

namespace ScanState

/-- Probes the media files and stores what they yield. -/
def probeMedia (probe : Path → ProbeAnswer) (workers : Nat) (s : ScanState)
    (media : List Candidate) : ScanState :=
  (inChunks (chunkSize workers) media).foldl (probeChunk probe) s

/-! ## Composing -/

/-- Stores a virtual track under its reference and the time of its file, unless it is stored
already. Answers also whether that failed. -/
def storeTrack (disk : Disk) (force : Bool) (s : ScanState) (t : VirtualTrack) : ScanState × Bool :=
  match disk.modified t.path with
  | .error _ => (s, true)
  | .ok time =>
    let key := t.reference.text
    if !force && s.cache.contains key time then (s, false)
    else
      match s.cache.upsert key time t.descriptor with
      | .error _ => (s, true)
      | .ok (cache, _) =>
        ({ s with cache, counts.virtualTracks := s.counts.virtualTracks + 1 }, false)

/-- Stores virtual tracks; answers also how many could not be stored. -/
def storeTracks (disk : Disk) (force : Bool) (s : ScanState) :
    List VirtualTrack → ScanState × Nat
  | [] => (s, 0)
  | t :: rest =>
    let (s, failed) := s.storeTrack disk force t
    let (s, more) := s.storeTracks disk force rest
    (s, (if failed then 1 else 0) + more)

/-- The descriptor of the row that marks a sheet as done. -/
def sheetMark : Descriptor := Descriptor.blank.markParsed

/-- Composes a sheet and stores its tracks. If none failed the sheet is marked. -/
def composeSheet (disk : Disk) (probe : Path → ProbeAnswer) (style : CompositionStyle)
    (force : Bool) (s : ScanState) (sheet : Candidate) : ScanState :=
  let composed := CueSheet.composeFile disk style probe sheet.path
  let (s, failed) :=
    { s with probed := s.probed ++ composed.probed }.storeTracks disk force composed.tracks
  let s := { s with counts.errors := s.counts.errors + failed }
  if 0 < failed then s
  else
    match s.cache.upsert sheet.path sheet.modified sheetMark with
    | .error _ => s.addError
    | .ok (cache, _) => { s with cache, counts.sheets := s.counts.sheets + 1 }

/-- Composes sheets. -/
def composeSheets (disk : Disk) (probe : Path → ProbeAnswer) (style : CompositionStyle)
    (force : Bool) (s : ScanState) (sheets : List Candidate) : ScanState :=
  sheets.foldl (composeSheet disk probe style force) s

end ScanState

/-! ## Scans -/

/-- How a scan is to be done. -/
structure ScanOptions where
  force : Bool := false
  workers : Nat := 1
  style : CompositionStyle := {}
  deriving Repr, DecidableEq

namespace Cache

/-- Scans files that were found. -/
def scanFiles (cache : Cache) (disk : Disk) (probe : Path → ProbeAnswer) (options : ScanOptions)
    (files : List Path) : ScanState :=
  let found := Collected.ofFiles disk cache options.force files
  let s : ScanState := { cache, counts := found.counts }
  (s.probeMedia probe options.workers found.media).composeSheets disk probe options.style
    options.force found.sheets

/-- Scans all files below some paths. -/
def scan (cache : Cache) (disk : Disk) (probe : Path → ProbeAnswer) (options : ScanOptions)
    (roots : List Path) : ScanState :=
  cache.scanFiles disk probe options (roots.flatMap disk.files)

end Cache

end MediaIndex
