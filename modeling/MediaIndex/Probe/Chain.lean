import MediaIndex.Probe.Failure
import MediaIndex.Text.Lower

/-!
# Chains of probers

A `Prober` answers by path. Several of them in a row stand in for each other: the first one that
takes a path and describes the file wins, and if all who took it failed the last failure is told.
-/

set_option autoImplicit false

namespace MediaIndex

/-- A source of descriptors. -/
structure Prober where
  name : String
  /-- Whether the prober takes a path at all. -/
  supports : Path → Bool
  probe : Path → ProbeAnswer

namespace Prober

/-- The extensions of the files whose tags can be read. -/
def taggedExtensions : List String :=
  ["aac", "aif", "aiff", "ape", "flac", "m4a", "mp3", "mpc", "oga", "ogg", "opus", "wav", "wv"]

/-- Whether tags may be looked for in a file: a question of the extension, in any letters. -/
def mayHoldTags (path : Path) : Bool :=
  path.extension?.any fun e => taggedExtensions.contains (Text.lower e)

/-- Asks the probers in turn. Beside the answer stand the probers that were asked. `failure` is what
is told if no more is to come. -/
def askInTurn (path : Path) : (failure : ProbeFailure) → List Prober → ProbeAnswer × List Prober
  | failure, [] => (.error failure, [])
  | failure, p :: rest =>
    if p.supports path then
      match p.probe path with
      | .ok d => (.ok d, [p])
      | .error e =>
        let (answer, asked) := askInTurn path e rest
        (answer, p :: asked)
    else askInTurn path failure rest

/-- The prober that stands for a row of probers. -/
def chain (probers : List Prober) : Prober where
  name := "composite"
  supports path := probers.any (·.supports path)
  probe path := (askInTurn path (.unsupported path) probers).1

end Prober

end MediaIndex
