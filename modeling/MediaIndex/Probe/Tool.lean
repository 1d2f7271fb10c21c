import MediaIndex.Probe.Failure
import MediaIndex.Text.Blank

/-!
# Runs of external tools

A prober does not run a tool itself. It says which call it wants to make and how it goes on after
each outcome: that is a `ToolDialogue`. Who plays the other part decides where the outcomes come
from: a list that was recorded (`play`), or a function of the call (`answer`).
-/

set_option autoImplicit false

namespace MediaIndex

/-- A call of a tool. -/
structure ToolCall where
  program : String
  arguments : List String
  limit : Milliseconds
  deriving Repr, DecidableEq

namespace ToolCall

/-- The tool that is called, as messages name it. -/
def tool (call : ToolCall) : String := (Path.fileName? call.program).getD call.program

end ToolCall

/-- What is left of a tool that has ended. Without a code it was ended by a signal. -/
structure ToolOutput where
  code : Option Int := none
  output : ByteArray := .empty
  complaints : ByteArray := .empty

namespace ToolOutput

/-- Whether the tool was content. -/
def isSuccess (o : ToolOutput) : Bool := o.code == some 0

/-- How the tool ended. -/
def status (o : ToolOutput) : String :=
  match o.code with
  | some code => "exit code " ++ toString code
  | none => "signal"

end ToolOutput

/-- How a call came out. -/
inductive ToolOutcome where
  | ended (output : ToolOutput)
  | timedOut
  | notStarted (reason : String)
  /-- The call came to nothing in another way, such as by a fault of the system. -/
  | givenUp (failure : ProbeFailure)

/-- The output of a call, or why there is none. -/
def ToolCall.outputOf (call : ToolCall) : ToolOutcome → Except ProbeFailure ToolOutput
  | .ended output => .ok output
  | .timedOut => .error (.timedOut call.tool call.limit)
  | .notStarted reason => .error (.notStarted call.tool reason)
  | .givenUp failure => .error failure

/-- A computation that calls tools on its way. -/
inductive ToolDialogue (α : Type) where
  | done (answer : α)
  | ask (call : ToolCall) (next : ToolOutcome → ToolDialogue α)

namespace ToolDialogue

variable {α β : Type}

/-- Goes on after the end of a dialogue. -/
def bind : ToolDialogue α → (α → ToolDialogue β) → ToolDialogue β
  | .done answer, next => next answer
  | .ask call continuation, next => .ask call fun outcome => (continuation outcome).bind next

/-- The answer of a dialogue when outcomes depend on the call alone. -/
def answer (outcome : ToolCall → ToolOutcome) : ToolDialogue α → α
  | .done answer => answer
  | .ask call next => (next (outcome call)).answer outcome

/-- Plays a dialogue with outcomes from a list, and tells also the calls that it made. Where the
list is used up, tools are ended by a signal at once. -/
def play : ToolDialogue α → List ToolOutcome → α × List ToolCall
  | .done answer, _ => (answer, [])
  | .ask call next, outcomes =>
    let (answer, calls) := (next (outcomes.headD (.ended {}))).play outcomes.tail
    (answer, call :: calls)

end ToolDialogue

end MediaIndex
