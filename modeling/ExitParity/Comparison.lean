import ExitParity.Dialogue
import ExitParity.Execution
import ExitParity.Outcome
import ExitParity.Plan
import ExitParity.Stage

namespace ExitParity

/-- One run of an external tool on one file. -/
inductive Call where
  | assemble (textual : Path)
  | interpret (binary : Path)
  | runCandidate (binary : Path)
  deriving DecidableEq

/-- Something that answers calls. The state lets an answer depend on every
earlier call. -/
abbrev Runner (σ : Type) := Call → σ → Answer × σ

namespace Comparison

/-- How a comparison ends: an outcome, or the tool error that stopped it. -/
abbrev Ending := Except ToolError Outcome

/-- The exit code that further runs are held to, and where it is from. -/
inductive Expectation where
  | baseline (code : Int)
  | reference (code : Int)
  deriving DecidableEq

def Expectation.code : Expectation → Int
  | .baseline code | .reference code => code

/-- What a reference run does to the expectation. -/
def settle (expectation : Option Expectation) (run : Execution) : Except Outcome Expectation :=
  if run.isFatal then .error .failedReference
  else match expectation with
    | none => .ok (.reference run.exitCode)
    | some (.baseline code) => if code = run.exitCode then .ok (.baseline code) else .error .wrong
    | some (.reference code) => if code = run.exitCode then .ok (.reference code) else .error .failedReference

/-- What a run that has to reproduce the expected code does to it. Without an
expected code the first run that is not fatal sets it. -/
def reproduce (expected : Option Int) (run : Execution) : Except Outcome Int :=
  if run.timedOut then .error .failed
  else match expected with
    | some code => if code = run.exitCode then .ok code else .error .failed
    | none => if run.isFatal then .error .failed else .ok run.exitCode

/-- What is left of a comparison: calls whose answers decide how it goes on. -/
abbrev Course := Dialogue Call Answer Ending

/-- Make a call and go on with the run that answers it. A tool error ends the
comparison. -/
def Course.after (call : Call) (next : Execution → Course) : Course := .ask call fun
  | .error error => .ended (.error error)
  | .ok run => next run

/-- Assemble every textual artifact once, in order. A path that is the same as
an assembled one is passed over. -/
def assembleAll (next : Course) : List Artifact → List Path → Course
  | [], _ => next
  | artifact :: rest, assembled =>
    if !artifact.kind.needsAssembly || assembled.any (·.same artifact.path) then assembleAll next rest assembled
    else .after (.assemble artifact.path) fun run =>
      if run.success then assembleAll next rest (assembled ++ [artifact.path]) else .ended (.ok .failed)

/-- Run the reference files in order until one of them is decisive. -/
def runReferences (next : Option Expectation → Course) : List Artifact → Option Expectation → Course
  | [], expectation => next expectation
  | artifact :: rest, expectation =>
    .after (.interpret artifact.executable) fun run =>
      match settle expectation run with
      | .error outcome => .ended (.ok outcome)
      | .ok settled => runReferences next rest (some settled)

/-- Run files that have to reproduce the expected code, until one fails. -/
def runReproductions (call : Path → Call) (next : Option Int → Course) : List Artifact → Option Int → Course
  | [], expected => next expected
  | artifact :: rest, expected =>
    .after (call artifact.executable) fun run =>
      match reproduce expected run with
      | .error outcome => .ended (.ok outcome)
      | .ok code => runReproductions call next rest (some code)

end Comparison

open Comparison

/-- The course of the comparison that carries out a plan and judges it. Only
tool errors escape; every difference between the runs is an outcome. -/
def Plan.course (plan : Plan) : Course :=
  let candidates (expected : Option Int) : Course :=
    runReproductions .runCandidate (fun _ => .ended (.ok .passed)) plan.candidate expected
  let interpreted (expectation : Option Expectation) : Course :=
    runReproductions .interpret candidates plan.interpreted (expectation.map (·.code))
  assembleAll (runReferences interpreted plan.reference (plan.expectedExit.map .baseline)) plan.inputs []

/-- Carry out a plan with a runner that answers at once. -/
def Plan.compare {σ : Type} (plan : Plan) (runner : Runner σ) (s : σ) : Ending × σ := plan.course.run runner s

/-- Something that answers calls at once or after a while. Of an answer still
to come it tells the time at which to look for it again. -/
structure Responder (τ σ : Type) where
  begin : Call → σ → Stage τ Answer × σ
  advance : τ → σ → Stage τ Answer × σ
  due : τ → Nat

/-- A runner as something that never keeps anybody waiting. -/
def Runner.responder {σ : Type} (runner : Runner σ) : Responder Empty σ where
  begin call s :=
    let (answer, s) := runner call s
    (.finished answer, s)
  advance := nofun
  due := nofun

namespace Comparison

/-- A comparison that waits for an answer. -/
structure Suspended (τ : Type) where
  task : τ
  next : Answer → Course

variable {τ σ : Type} (responder : Responder τ σ)

/-- Go on with a comparison up to the first answer that is not there at once. -/
def proceed : Course → σ → Stage (Suspended τ) Ending × σ
  | .ended ending, s => (.finished ending, s)
  | .ask call next, s =>
    match responder.begin call s with
    | (.pending task, s) => (.pending ⟨task, next⟩, s)
    | (.finished answer, s) => proceed (next answer) s

/-- Look for the answer that a comparison waits for, and go on when it is there. -/
def resume (suspended : Suspended τ) (s : σ) : Stage (Suspended τ) Ending × σ :=
  match responder.advance suspended.task s with
  | (.pending task, s) => (.pending { suspended with task }, s)
  | (.finished answer, s) => proceed responder (suspended.next answer) s

theorem proceed_responder (runner : Runner σ) (course : Course) (s : σ) :
    proceed runner.responder course s = (.finished (course.run runner s).1, (course.run runner s).2) := by
  induction course generalizing s with
  | ended ending => rfl
  | ask call next ih => exact ih (runner call s).1 (runner call s).2

end Comparison
end ExitParity
