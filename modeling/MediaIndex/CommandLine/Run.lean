import MediaIndex.Cache.File
import MediaIndex.CommandLine.Listing
import MediaIndex.CommandLine.Request
import MediaIndex.Disk.FileTree
import MediaIndex.Indexing.Resolve
import MediaIndex.Probe.Chain
import MediaIndex.Probe.ToolProber
import MediaIndex.Settings

/-!
# Running a command line

A run is a function of the command line and of the `Host`: the files, and what tools answer. It
yields what is to be shown, and the files as they are afterwards. The cache is one of the files.
-/

set_option autoImplicit false

namespace MediaIndex.CommandLine

/-- What is around a run. -/
structure Host where
  tree : FileTree
  /-- Where the settings file is, if there is one. -/
  settingsPath : Path
  /-- Where the cache is if nothing else is said. -/
  cachePath : Path
  /-- How many probes may run at the same time if nothing else is said. -/
  workers : Nat := 1
  /-- The time that files get that are written now. -/
  now : Timestamp := 0
  /-- What a tool leaves when it is called. -/
  outcome : ToolCall → ToolOutcome

/-- What a run shows. -/
structure Reply where
  code : Nat := 0
  lines : List String := []
  /-- The report of a failure. -/
  error : Option String := none
  deriving Repr, DecidableEq

namespace Reply

/-- All lines as one text. -/
def output (r : Reply) : String := String.join (r.lines.map (· ++ "\n"))

end Reply

/-! ## Failures -/

/-- Why a command failed: what was being done, and the causes from the outermost to the
innermost. -/
structure Failure where
  task : String
  causes : List String := []
  deriving Repr, DecidableEq

/-- A cause with its further lines indented. -/
def indented (indent : String) (cause : String) : String :=
  ("\n" ++ indent).intercalate (Text.pieces '\n' cause)

/-- The report of a failure. The causes are numbered if there is more than one. -/
def Failure.report (f : Failure) : String :=
  let causes :=
    match f.causes with
    | [cause] => ["    " ++ indented "    " cause]
    | causes =>
      causes.zipIdx.map fun c => padLeft 5 (toString c.2) ++ ": " ++ indented "       " c.1
  "Error: " ++ f.task ++
    (if causes.isEmpty then "" else "\n\nCaused by:\n" ++ "\n".intercalate causes)

/-- The reply to a request that failed. -/
def Failure.reply (f : Failure) : Reply :=
  { code := 1, error := some (String.ofList (Text.dropEndWhile Text.isBlank f.report.toList)) }

/-- A failure of a probe from its text to its innermost cause. -/
def probeCauses (e : ProbeFailure) : List String :=
  e.message ::
    (match e with
      | .notStarted _ reason | .systemFault _ reason | .badTags reason => [reason]
      | _ => [])

/-- A failure to resolve from its text to its innermost cause. -/
def resolveCauses (e : ResolveFailure) : List String :=
  e.message ::
    (match e with
      | .file fault => [fault.message]
      | .cache failure => failure.causes
      | .probe failure => probeCauses failure)

/-! ## Parts of a host -/

namespace Host

/-- The settings. A settings file that is invalid counts for nothing. -/
def settings (h : Host) : Settings :=
  (((h.tree.text h.settingsPath).toOption).bind Settings.ofText?).getD {}

/-- What a tool left, or why it was not called. -/
def ask {α : Type} (h : Host) (d : ToolDialogue α) : α := d.answer h.outcome

/-- One of the probers, with its tool. -/
def proberOf (h : Host) (s : Settings) (kind : ProberKind) (tool : Path) : Prober :=
  let limit : Milliseconds := s.probeSeconds * 1000
  match kind with
  | .trackList =>
    { name := kind.name, supports := hasExtension
      probe := fun path => h.ask (TrackList.probe tool limit path (h.tree.size? path)) }
  | .summary =>
    let thumbnailLimit := if s.wantsThumbnails then some (s.thumbnailSeconds * 1000) else none
    { name := kind.name, supports := hasExtension
      probe := fun path =>
        h.ask (StreamSummary.probe tool limit thumbnailLimit path (h.tree.size? path)) }
  | .tags =>
    -- Tags inside of audio files are not read here: that no prober is left is the answer.
    { name := kind.name, supports := Prober.mayHoldTags
      probe := fun path => .error (.unsupported path) }

/-- All probers, as one. -/
def prober (h : Host) (s : Settings) : Prober :=
  Prober.chain ((s.proberKinds h.tree.isThere fun _ => none).map fun k => h.proberOf s k.1 k.2)

/-! ## The file of the cache -/

/-- Whether a path stands for a cache that is not kept. -/
def isFleeting (path : Path) : Bool := path.isEmpty || path == ":memory:"

/-- Opens the cache, and makes the directories on the way to it. -/
def openCache (h : Host) (path : Path) : Except CacheFailure Cache × Host :=
  let h := { h with tree := (path.parent?.map h.tree.addDirectories).getD h.tree }
  match h.tree.lookup path with
  | .ok (.file _ _ _) =>
    match ((h.tree.text path).toOption).bind Cache.decode? with
    | some c => (.ok c.reopen, h)
    | none => (.error .notACache, h)
  | .ok _ => (.error (.unopened path), h)
  | .error _ =>
    match h.tree.lookup ((path.parent?.filter fun p => !p.isEmpty).getD ".") with
    | .ok .directory => (.ok .empty, h)
    | _ => (.error (.unopened path), h)

/-- Keeps the cache in its file. -/
def saveCache (h : Host) (path : Path) (c : Cache) : Host :=
  { h with tree := h.tree.write path c.encode.toUTF8 h.now }

/-- Does something with the cache. -/
def withCache (h : Host) (path : Path) (act : Host → Cache → Except Failure (List String) × Cache) :
    Except Failure (List String) × Host :=
  if isFleeting path then ((act h .empty).1, h)
  else
    match h.openCache path with
    | (.error e, h) => (.error ⟨"Failed to open cache", e.causes⟩, h)
    | (.ok c, h) =>
      let (answer, c) := act h c
      (answer, h.saveCache path c)

/-! ## Commands -/

/-- What to scan: what the request says, or else what the settings say. -/
def scanPaths? (s : Settings) (paths : List Path) : Option (List Path) :=
  if !paths.isEmpty then some paths
  else if !s.mediaDirectories.isEmpty then some s.mediaDirectories
  else none

/-- Scans. -/
def scan (s : Settings) (paths : List Path) (force : Bool) (h : Host) (c : Cache) :
    Except Failure (List String) × Cache :=
  let workers := if s.workers = 0 then h.workers else s.workers
  let done := c.scan h.tree.disk (h.prober s).probe ⟨force, workers, s.style⟩ paths
  (.ok [done.counts.line], done.cache)

/-- Describes a file by means of the cache. -/
def showFile (s : Settings) (file : Path) (h : Host) (c : Cache) :
    Except Failure (List String) × Cache :=
  let (answer, r) := Resolver.resolve h.tree.disk (h.prober s).probe { cache := c } file
  match answer with
  | .ok d => (.ok d.lines, r.cache)
  | .error e => (.error ⟨"Failed to resolve " ++ file, resolveCauses e⟩, r.cache)

/-- Sweeps the cache. -/
def sweep (h : Host) (c : Cache) : Except Failure (List String) × Cache :=
  let (c, report) := c.sweep h.tree.disk.modified?
  (.ok [report.line], c)

/-- Drops the thumbnails. -/
def clearThumbnails (_ : Host) (c : Cache) : Except Failure (List String) × Cache :=
  let (c, count) := c.dropThumbnails
  (.ok ["Cleared " ++ toString count ++ " thumbnails"], c)

/-- Shows the statistics. -/
def stats (_ : Host) (c : Cache) : Except Failure (List String) × Cache :=
  match c.stats with
  | .ok s => (.ok s.lines, c)
  | .error e => (.error ⟨"Failed to get stats", e.causes⟩, c)

/-- Carries out a command. -/
def perform (h : Host) (s : Settings) (cachePath : Path) :
    Command → Except Failure (List String) × Host
  | .scan paths force =>
    match scanPaths? s paths with
    | none =>
      (.error
        ⟨"No directories to scan. Pass paths as arguments or set media_dirs in config.", []⟩, h)
    | some paths => h.withCache cachePath (scan s paths force)
  | .probe file =>
    match (h.prober s).probe file with
    | .ok d => (.ok d.lines, h)
    | .error e => (.error ⟨"Failed to probe " ++ file, probeCauses e⟩, h)
  | .cue file =>
    (.ok (trackLines file
      (CueSheet.composeFile h.tree.disk s.style (h.prober s).probe file).tracks), h)
  | .show file => h.withCache cachePath (showFile s file)
  | .sweep => h.withCache cachePath sweep
  | .clearThumbnails => h.withCache cachePath clearThumbnails
  | .stats => h.withCache cachePath stats

end Host

/-- What the program is called, with its version. -/
def versionLine : String := "mediameta 0.1.0"

/-- How to use the program. -/
def usageLines : List String :=
  ["Media metadata prober and cache", "",
   "Usage: mediameta [OPTIONS] <COMMAND>", "",
   "Commands:",
   "  scan [--force] [PATHS]...  Scan for media files and cache their metadata",
   "  probe <FILE>               Probe a single file and print its metadata",
   "  cue <FILE>                 List the virtual tracks a cue sheet composes to",
   "  show <FILE>                Show cached metadata, probing on a cache miss",
   "  sweep                      Remove cache rows for files deleted or modified",
   "  clear-thumbnails           Drop every cached thumbnail",
   "  stats                      Show cache statistics", "",
   "Options:",
   "      --db-path <DB_PATH>  Path to the cache",
   "  -v, --verbose...         Verbosity (-v, -vv, -vvv)",
   "  -h, --help               Print help",
   "  -V, --version            Print version"]

namespace Host

/-- Where the cache is: what the request says, or else what the settings say. -/
def cacheOf (h : Host) (r : Request) : Path :=
  (r.cachePath.or h.settings.cachePath).getD h.cachePath

end Host

/-- Runs a command line. -/
def run (h : Host) (words : List String) : Reply × Host :=
  match Reading.ofWords words with
  | .version => ({ lines := [versionLine] }, h)
  | .help => ({ lines := usageLines }, h)
  | .invalid => ({ code := 2 }, h)
  | .request r =>
    let (answer, h) := h.perform h.settings (h.cacheOf r) r.command
    match answer with
    | .ok lines => ({ lines }, h)
    | .error f => (f.reply, h)

end MediaIndex.CommandLine
