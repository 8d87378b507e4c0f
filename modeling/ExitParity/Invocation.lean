import ExitParity.Execution
import ExitParity.Token

namespace ExitParity.Invocation

/-- Times are counted in nanoseconds. -/
def millisecond : Nat := 1000000

/-- The pause between two looks at a running child. -/
def pollInterval : Nat := 10 * millisecond

/-- The exit code of a child that died of an interrupt from the keyboard. -/
def interruptExitCode : Int := -2

/-- How long such a death waits for the token to be set. -/
def grace : Nat := 200 * millisecond

/-- What a look at a child shows. -/
inductive Sighting where
  | running
  | ended (status : WaitStatus)
  | lost (cause : Fault)

/-- One look at a child, with the time at which it is looked at, the time at
which the token is read behind that, and the last time that is taken. -/
structure Poll where
  seen : Sighting
  time : Nat
  read : Nat
  checked : Nat

/-- How the watch over a child ends. -/
inductive Result where
  | exited (code : Int)
  | interrupted
  | timedOut
  | lost (cause : Fault)
  deriving DecidableEq

/-- What was done about the child: its status was collected, or it was killed
and then waited for. -/
inductive Cleanup where
  | collected
  | killedAndReaped
  deriving DecidableEq

structure Ending where
  result : Result
  cleanup : Cleanup
  time : Nat
  deriving DecidableEq

/-- What a look is for: the child, or, when that ended as if interrupted, the
token, which the same interrupt may be about to set. -/
inductive Phase where
  | watching
  | settling (code : Int) (since : Nat)
  deriving DecidableEq

/-- The ending of a child whose status was collected. A child that ended while
the token was set gives no exit code. -/
def collected (token : Token) (code : Int) (time : Nat) : Ending :=
  ⟨if token.isSet time then .interrupted else .exited code, .collected, time⟩

/-- Look at the token only, until it is set or the time for that is over. -/
def settle (token : Token) (code : Int) (since : Nat) (poll : Poll) : Except Ending Phase :=
  if token.isSet poll.read || grace ≤ poll.checked - since then .error (collected token code poll.checked)
  else .ok (.settling code since)

/-- What a look leads to: one more look, or the end of the watch. -/
def look (token : Token) (limit : Option Nat) (started : Nat) (phase : Phase) (poll : Poll) : Except Ending Phase :=
  match phase with
  | .settling code since => settle token code since poll
  | .watching =>
    match poll.seen with
    | .ended status =>
      if status.exitCode = interruptExitCode then settle token status.exitCode poll.time poll
      else .error (collected token status.exitCode poll.read)
    | .lost cause => .error ⟨.lost cause, .killedAndReaped, poll.time⟩
    | .running =>
      if token.isSet poll.read then .error ⟨.interrupted, .killedAndReaped, poll.read⟩
      else if limit.any (· ≤ poll.checked - started) then .error ⟨.timedOut, .killedAndReaped, poll.checked⟩
      else .ok .watching

end ExitParity.Invocation
