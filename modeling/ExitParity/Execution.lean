import ExitParity.Fault

namespace ExitParity

/-- How one run of a tool ended. -/
structure Execution where
  exitCode : Int
  timedOut : Bool
  deriving DecidableEq

namespace Execution

/-- Exit codes at or below this one stand for a fatal signal. -/
def signalThreshold : Int := -6

/-- The exit code reported for a run that was stopped at its time limit. -/
def timeoutExitCode : Int := -9

def exited (code : Int) : Execution := ⟨code, false⟩

def timeout : Execution := ⟨timeoutExitCode, true⟩

def success (execution : Execution) : Bool :=
  !execution.timedOut && execution.exitCode == 0

/-- Ended by a signal or at the time limit: the exit code means nothing. -/
def isFatal (execution : Execution) : Bool :=
  execution.timedOut || execution.exitCode ≤ signalThreshold

end Execution

/-- The status word of an ended process. -/
structure WaitStatus where
  raw : Int
  deriving DecidableEq

namespace WaitStatus

def ofExit (code : Nat) : WaitStatus := ⟨code % 256 * 256⟩

def ofSignal (signal : Nat) : WaitStatus := ⟨signal % 128⟩

/-- The exit code in bits 8 to 15 when the low seven bits are zero, else the
negated signal number in the low seven bits, else -1. -/
def exitCode (status : WaitStatus) : Int :=
  let low := status.raw % 128
  if low = 0 then status.raw / 256 % 256
  else if low = 127 then -1
  else -low

end WaitStatus

/-- Why a tool gave no result for a file. -/
inductive ToolError where
  | notFound (name versions : String)
  | launch (program file : String) (cause : Fault)
  | wait (program file : String) (cause : Fault)
  | interrupted (program file : String)
  deriving DecidableEq

namespace ToolError

def isInterrupt : ToolError → Bool
  | .interrupted .. => true
  | _ => false

def message : ToolError → String
  | .notFound name versions => s!"{name} is not installed or not in PATH (tried versions: {versions})"
  | .launch program file cause => s!"failed to launch {program} for {file}: {cause.message}"
  | .wait program file cause => s!"failed to wait for {program} on {file}: {cause.message}"
  | .interrupted program file => s!"interrupted while running {program} on {file}"

end ToolError

/-- What a tool gives for a file: how its run ended, or why there is no result. -/
abbrev Answer := Except ToolError Execution

end ExitParity
