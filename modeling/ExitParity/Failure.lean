import ExitParity.Console
import ExitParity.Execution
import ExitParity.Family
import ExitParity.Plan

namespace ExitParity

/-- Why the program gives up instead of reporting a result. -/
inductive Failure where
  | noSuites (family : Family) (protocol : Protocol)
  | unknownSuite (name : String) (family : Family) (protocol : Protocol)
  | notDirectory (dir : Path)
  | lookup (error : ToolError)
  | progress (error : SinkError)
  /-- A path that is no text has no place in a report. -/
  | unserializable
  | unwritable (path : Path) (cause : Fault)
  deriving DecidableEq

namespace Failure

def message : Failure → String
  | .noSuites family protocol => s!"no {protocol.name} suites exist for LLVM {family.tag}"
  | .unknownSuite name family protocol => s!"unknown suite {name} for LLVM {family.tag} ({protocol.name})"
  | .notDirectory dir => s!"{dir.display} is not a directory"
  | .lookup _ => "toolchain lookup failed"
  | .progress _ => "failed to write progress"
  | .unserializable => "failed to serialize report"
  | .unwritable path _ => s!"failed to write report {path.display}"

/-- What lies behind the failure, if anything does. -/
def cause? : Failure → Option String
  | .noSuites .. | .unknownSuite .. | .notDirectory _ => none
  | .lookup error => some error.message
  | .progress error => some error.message
  | .unserializable => some "path contains invalid UTF-8 characters"
  | .unwritable _ cause => some cause.message

/-- The failure and its cause in one line. -/
def chain (failure : Failure) : String :=
  match failure.cause? with
  | none => failure.message
  | some cause => s!"{failure.message}: {cause}"

end Failure
end ExitParity
