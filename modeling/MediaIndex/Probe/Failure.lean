import MediaIndex.Descriptor
import MediaIndex.Path

/-!
# Why a file could not be described

A prober answers with a descriptor or with a `ProbeFailure`. The causes are kept apart, since who
asks may treat them differently; `ProbeFailure.message` is the text for people.
-/

set_option autoImplicit false

namespace MediaIndex

/-- A span of time in whole milliseconds. -/
abbrev Milliseconds : Type := Nat

/-- The text of a span: whole milliseconds below a second, else seconds with as many decimals as are
needed. A span of no length is written in the smallest unit. -/
def Milliseconds.text (span : Milliseconds) : String :=
  if span = 0 then "0ns"
  else if span < 1000 then toString span ++ "ms"
  else
    let rest := (toString (1000 + span % 1000)).toList.drop 1
    let decimals := Text.dropEndWhile (· == '0') rest
    toString (span / 1000) ++
      (if decimals.isEmpty then "" else "." ++ String.ofList decimals) ++ "s"

/-- Why a probe of a file gave no descriptor. -/
inductive ProbeFailure where
  /-- The tool could not be started. -/
  | notStarted (tool reason : String)
  /-- The tool did not end in time. -/
  | timedOut (tool : String) (limit : Milliseconds)
  /-- The tool ended with a complaint. -/
  | toolFailed (tool status complaint : String)
  /-- What the tool wrote is no report. -/
  | unreadable (tool reason : String)
  /-- The report names no format that is known. -/
  | unresolved (path : Path)
  /-- No prober knows what to do with the file. -/
  | unsupported (path : Path)
  /-- The system failed on a path. -/
  | systemFault (path : Path) (reason : String)
  /-- The tags inside the file could not be read. -/
  | badTags (reason : String)
  deriving Repr, DecidableEq

/-- The text of a failure. -/
def ProbeFailure.message : ProbeFailure → String
  | .notStarted tool reason => "failed to spawn " ++ tool ++ ": " ++ reason
  | .timedOut tool limit => tool ++ " timed out after " ++ limit.text
  | .toolFailed tool status complaint => tool ++ " exited with " ++ status ++ ": " ++ complaint
  | .unreadable tool reason => "could not parse " ++ tool ++ " output: " ++ reason
  | .unresolved path => "no usable format resolved for " ++ path
  | .unsupported path => "no prober supports " ++ path
  | .systemFault path reason => "I/O error on " ++ path ++ ": " ++ reason
  | .badTags reason => "tag read failed: " ++ reason

/-- What a probe answers. -/
abbrev ProbeAnswer : Type := Except ProbeFailure Descriptor

end MediaIndex
