import MediaIndex.CommandLine.Run

/-!
# The program

The outermost layer: it gathers the files that a run may want to know about, runs, shows the reply
and keeps the cache. Media files are not read, only their size and time are noted, and links to
directories are not followed. Tools cannot be started from here, and who calls one is told so.
-/

set_option autoImplicit false

namespace MediaIndex.CommandLine

/-- Whether the bytes of a file may be wanted. -/
def wantsBytes (path : Path) : Bool := FileRole.ofPath? path != some .media

/-- The names on the way to a path that starts at the root. -/
def placeOf (path : Path) : Place := path.components.filter (· != "/")

/-- Adds a directory and those on the way to it. -/
def addWay (t : FileTree) (p : Place) : FileTree := (t.makeWay p).setNode p .directory

/-- Adds what is at a path that starts at the root, and all below it. What cannot be read is left
out. -/
partial def gather (t : FileTree) (path : Path) : IO FileTree := do
  try
    let found ← IO.FS.realPath path
    let about ← found.metadata
    let p := placeOf path
    match about.type with
    | .dir =>
      let mut t := addWay t p
      for e in ← found.readDir do
        let below := Path.join path e.fileName
        let isLink := (← e.path.symlinkMetadata).type == .symlink
        unless isLink && (← e.path.isDir) do
          t ← gather t below
      return t
    | .file =>
      let bytes ← if wantsBytes path then some <$> IO.FS.readBinFile found else pure none
      let time := about.modified.sec * 1000 + about.modified.nsec.toNat / 1000000
      return (t.makeWay p).setNode p (.file (UInt64.ofNat about.byteSize.toNat) bytes time)
    | _ => return t
  catch _ => return t

/-- A directory of the user: as the environment says, or else below the home directory. -/
def userDirectory (name fallback : String) : IO Path := do
  let home := (← IO.getEnv "HOME").getD "/"
  return ((← IO.getEnv name).filter Path.isAbsolute).getD (Path.join home fallback)

/-- Gathers what is around a run with the given words. -/
def gatherHost (words : List String) : IO Host := do
  let here := toString (← IO.currentDir)
  let settingsPath :=
    Path.join (← userDirectory "XDG_CONFIG_HOME" ".config") "mediameta/config.toml"
  let cachePath :=
    Path.join (← userDirectory "XDG_DATA_HOME" ".local/share") "mediameta/mediameta.db"
  let mut tree ← gather { here := placeOf here } here
  for path in [settingsPath, cachePath] ++ words.filter Path.isAbsolute do
    tree ← gather tree path
  let host : Host :=
    { tree, settingsPath, cachePath
      outcome := fun _ => .notStarted "tools cannot be started from here" }
  let s := host.settings
  for path in s.mediaDirectories ++ s.cachePath.toList ++ s.summaryTool.toList ++
      s.trackListTool.toList do
    if path.isAbsolute then tree ← gather tree path
  return { host with tree }

/-- Keeps the cache, if the run wanted it. -/
def keepCache (before after : Host) (words : List String) : IO Unit := do
  match Reading.ofWords words with
  | .request r =>
    let path := before.cacheOf r
    match (after.tree.text path).toOption, (before.tree.text path).toOption with
    | some new, old =>
      if old != some new then
        match path.parent? with
        | some parent => unless parent.isEmpty do IO.FS.createDirAll parent
        | none => pure ()
        IO.FS.writeFile path new
    | none, _ => pure ()
  | _ => pure ()

/-- Runs the program. -/
def program (words : List String) : IO UInt32 := do
  let host ← gatherHost words
  let (reply, after) := run host words
  keepCache host after words
  IO.print reply.output
  for line in reply.error.toList do
    IO.eprintln line
  if reply.code == 2 then
    for line in usageLines do
      IO.eprintln line
  return UInt32.ofNat reply.code

end MediaIndex.CommandLine

/-- The entry of the program. -/
def main (words : List String) : IO UInt32 := MediaIndex.CommandLine.program words
