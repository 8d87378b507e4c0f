import ExitParity.Proofs.Host.Invoking

namespace ExitParity

/-- Polls of a process one after another, each of them a pause behind the one
before, up to the host that the last of them leaves. -/
inductive Polling.Polls (polling : Polling) (process : Nat) : Nat → Host → List Invocation.Poll → Host → Prop
  | nothing (due : Nat) (host : Host) : Polls polling process due host [] host
  | next {due : Nat} {host after last : Host} {poll : Invocation.Poll} {polls : List Invocation.Poll}
      (polled : polling.poll process due host = (poll, after))
      (rest : Polls polling process (after.clock + Invocation.pollInterval) after polls last) :
      Polls polling process due host (poll :: polls) last

/-- What is polled a second time is the poll that counts when the first one is
not and the watch does not go on behind the second. -/
theorem Polling.Polls.second {polling : Polling} {process due : Nat} {host middle later closing : Host}
    {first second last : Invocation.Poll} {before after : List Invocation.Poll}
    (polls : polling.Polls process due host (before ++ last :: after) closing)
    (polledFirst : polling.poll process due host = (first, middle))
    (polledSecond : polling.poll process (middle.clock + Invocation.pollInterval) middle = (second, later))
    (early : last ≠ first) (decisive : second ∉ before) : before = [first] ∧ last = second := by
  cases before with
  | nil =>
    cases polls with
    | next polled rest => exact absurd (Prod.mk.inj (polled.symm.trans polledFirst)).1 early
  | cons poll others =>
    cases polls with
    | next polled rest =>
      obtain ⟨rfl, rfl⟩ := Prod.mk.inj (polled.symm.trans polledFirst)
      cases others with
      | nil =>
        cases rest with
        | next again _ => exact ⟨rfl, (Prod.mk.inj (again.symm.trans polledSecond)).1⟩
      | cons other others =>
        cases rest with
        | next again _ =>
          obtain rfl := (Prod.mk.inj (again.symm.trans polledSecond)).1
          exact absurd (by simp) decisive

namespace Invocation

variable {token : Token} {limit : Option Nat} {started : Nat}

/-- The ways in which a watch can end behind the last look at the child. -/
inductive Ends (token : Token) (limit : Option Nat) (started : Nat) (last : Poll) : Ending → Prop
  | exited {status : WaitStatus} {time : Nat} (seen : last.seen = .ended status) (later : last.time ≤ time)
      (unset : token.isSet time = false) (waited : status.exitCode = interruptExitCode → last.time + grace ≤ time) :
      Ends token limit started last ⟨.exited status.exitCode, .collected, time⟩
  | overtaken {status : WaitStatus} {time : Nat} (seen : last.seen = .ended status) (later : last.time ≤ time)
      (set : token.isSet time = true) : Ends token limit started last ⟨.interrupted, .collected, time⟩
  | lost {cause : Fault} (seen : last.seen = .lost cause) :
      Ends token limit started last ⟨.lost cause, .killedAndReaped, last.time⟩
  | stopped (seen : last.seen = .running) (later : last.time ≤ last.read) (set : token.isSet last.read = true) :
      Ends token limit started last ⟨.interrupted, .killedAndReaped, last.read⟩
  | timedOut {bound : Nat} (seen : last.seen = .running) (later : last.time ≤ last.read)
      (checked : last.read ≤ last.checked) (unset : token.isSet last.read = false) (configured : limit = some bound)
      (elapsed : bound ≤ last.checked - started) :
      Ends token limit started last ⟨.timedOut, .killedAndReaped, last.checked⟩

/-- A poll behind which a watch just goes on. -/
structure Undecided (token : Token) (limit : Option Nat) (started : Nat) (poll : Poll) : Prop where
  running : poll.seen = .running
  unset : token.isSet poll.read = false
  inTime : ∀ bound, limit = some bound → poll.checked - started < bound

theorem Ends.later {last : Poll} {ending : Ending} (ends : Ends token limit started last ending) :
    last.time ≤ ending.time := by
  cases ends with
  | exited seen later unset waited => exact later
  | overtaken seen later set => exact later
  | lost seen => exact Nat.le_refl _
  | stopped seen later set => exact later
  | timedOut seen later checked unset configured elapsed => exact Nat.le_trans later checked

theorem Ends.isSet {last : Poll} {ending : Ending} (ends : Ends token limit started last ending)
    (interrupted : ending.result = .interrupted) : token.isSet ending.time = true := by
  cases ends with
  | exited seen later unset waited => cases interrupted
  | overtaken seen later set => exact set
  | lost seen => cases interrupted
  | stopped seen later set => exact set
  | timedOut seen later checked unset configured elapsed => cases interrupted


theorem Ends.stop {last : Poll} {ending : Ending} (ends : Ends token limit started last ending)
    (interrupted : ending.result = .interrupted) (running : last.seen = .running) : token.isSet last.read = true := by
  cases ends with
  | exited seen later unset waited => cases interrupted
  | overtaken seen later set => cases seen.symm.trans running
  | lost seen => cases interrupted
  | stopped seen later set => exact set
  | timedOut seen later checked unset configured elapsed => cases interrupted

/-- A child that is not lost once the token is set gives no result of a run. -/
theorem Ends.unset {last : Poll} {ending : Ending} (ends : Ends token limit started last ending)
    (run : (∃ code, ending.result = .exited code) ∨ ending.result = .timedOut) :
    ∃ moment, last.time ≤ moment ∧ moment ≤ ending.time ∧ token.isSet moment = false := by
  cases ends with
  | exited seen later unset waited => exact ⟨_, later, Nat.le_refl _, unset⟩
  | overtaken seen later set => rcases run with ⟨_, other⟩ | other <;> cases other
  | lost seen => rcases run with ⟨_, other⟩ | other <;> cases other
  | stopped seen later set => rcases run with ⟨_, other⟩ | other <;> cases other
  | timedOut seen later checked unset configured elapsed => exact ⟨_, later, checked, unset⟩

theorem Ends.timeout {last : Poll} {ending : Ending} (ends : Ends token limit started last ending)
    (timedOut : ending.result = .timedOut) :
    last.seen = .running ∧ token.isSet last.read = false ∧
      ∃ bound, limit = some bound ∧ bound ≤ last.checked - started := by
  cases ends with
  | exited seen later unset waited => cases timedOut
  | overtaken seen later set => cases timedOut
  | lost seen => cases timedOut
  | stopped seen later set => cases timedOut
  | timedOut seen later checked unset configured elapsed => exact ⟨seen, unset, _, configured, elapsed⟩

theorem Ends.exit {last : Poll} {ending : Ending} {code : Int} (ends : Ends token limit started last ending)
    (exited : ending.result = .exited code) : ∃ status, last.seen = .ended status ∧ status.exitCode = code := by
  cases ends with
  | exited seen later unset waited => exact ⟨_, seen, Result.exited.inj exited⟩
  | overtaken seen later set => cases exited
  | lost seen => cases exited
  | stopped seen later set => cases exited
  | timedOut seen later checked unset configured elapsed => cases exited

end Invocation

namespace Watch

variable {polling : Polling} {looks : Nat} {watch : Watch} {host : Host}

end Watch
end ExitParity
