import ExitParity.Env.Scope
import ExitParity.Failure
import ExitParity.Host.Walk
import ExitParity.Pool
import ExitParity.Tally
import ExitParity.Toolchain

namespace ExitParity

/-- How a collection of artifacts is worked through. -/
structure EvaluationOptions where
  jobs : Nat
  /-- The order in which the members of the crew make their steps. -/
  schedule : Pool.Schedule

namespace Evaluation

/-- An evaluation at work: the host and whatever else the runner keeps, the
report so far, and the first progress output that failed. -/
structure State (σ : Type) where
  host : Host
  bench : σ
  report : Report
  sinkError : Option SinkError

variable {σ τ : Type}

/-- An evaluation before anything is reported. -/
def State.opening (name : String) (world : Host × σ) : State σ := ⟨world.1, world.2, .empty name, none⟩

/-- What a comparison counts as: an error of a tool other than an interrupt is
a failure of the artifact. -/
def outcomeOf : Comparison.Ending → Option Outcome
  | .ok outcome => some outcome
  | .error error => if error.isInterrupt then none else some .failed

/-- File an outcome. Only the first progress output that failed is kept. -/
def record (pair : ArtifactPair) (outcome : Outcome) (state : State σ) : State σ :=
  let (result, report, sink) :=
    state.report.record state.host.sink state.host.console.pieces.length pair.root outcome
  let failure := match result with
    | .ok () => none
    | .error error => some error
  { state with host := state.host.withSink sink, report, sinkError := state.sinkError.or failure }

/-- Take the result of a comparison. Once the token is set nothing is filed,
because the comparison may have been cut short, and an interrupt sets it. -/
def collect (pair : ArtifactPair) (ending : Comparison.Ending) (state : State σ) : State σ :=
  let (isSet, host) := state.host.readToken
  let state := { state with host }
  if isSet then state
  else match outcomeOf ending with
    | none => { state with host := state.host.cancel }
    | some outcome => record pair outcome state

/-- What a comparison or a tool is shown of the evaluation. The sink is the
evaluation's own. -/
def State.shown (state : State σ) : Host × σ := (state.host.withSink (.fresh .never), state.bench)

/-- The evaluation behind one that left the world like this. -/
def State.leftWith (state : State σ) (world : Host × σ) : State σ :=
  { state with host := world.1.withSink state.host.sink, bench := world.2 }

/-- Make a step of a comparison a step of the evaluation. -/
def lift {ω β : Type} (step : Host × σ → Stage ω β × (Host × σ)) (state : State σ) : Stage ω β × State σ :=
  let (stage, world) := step state.shown
  (stage, state.leftWith world)

/-- The duty of a pool that compares the pairs met on a walk. -/
def duty (protocol : Protocol) (responder : Responder τ (Host × σ)) :
    Duty Walk ArtifactPair (Comparison.Suspended τ) Comparison.Ending (State σ) where
  pull walk state := walk.next protocol.layout state.host.tree Walk.stepLimit
  begin pair := lift (Comparison.proceed responder (protocol.plan pair).course)
  advance suspended := lift (Comparison.resume responder suspended)
  due suspended := responder.due suspended.task
  collect := collect
  readToken state :=
    let (isSet, host) := state.host.readToken
    (isSet, { state with host })
  cancel state := { state with host := state.host.cancel }

/-- Mark the report when the token is set at the end. -/
def conclude (state : State σ) : State σ :=
  let (isSet, host) := state.host.readToken
  { state with host, report := if isSet then state.report.interrupt else state.report }

/-- Compare every pair below a directory. -/
def evaluate (dir : Path) (protocol : Protocol) (responder : Responder τ (Host × σ)) (options : EvaluationOptions)
    (state : State σ) : State σ :=
  conclude (Pool.run (duty protocol responder) options.schedule (.at_ dir) options.jobs state).world

/-- End the progress line and hand out the report. -/
def finish (state : State σ) : Except Failure Report × (Host × σ) :=
  let (result, sink) := state.report.finish state.host.sink state.host.console.pieces.length
  (result.mapError .progress, (state.host.withSink sink, state.bench))

/-- Hand out the report, or the first progress output that failed. -/
def handOut (state : State σ) : Except Failure Report × (Host × σ) :=
  match state.sinkError with
  | some error => (.error (.progress error), (state.host, state.bench))
  | none => finish state

/-- Compare every pair below a directory and hand out what is reported. -/
def report (dir : Path) (protocol : Protocol) (responder : Responder τ (Host × σ)) (options : EvaluationOptions)
    (state : State σ) : Except Failure Report × (Host × σ) :=
  handOut (evaluate dir protocol responder options state)

end Evaluation

open Evaluation

variable {σ τ : Type}

/-- Judge every artifact below a directory, under a name of its own. -/
def runDirectory (name : String) (dir : Path) (protocol : Protocol) (responder : Responder τ (Host × σ))
    (options : EvaluationOptions) (world : Host × σ) : Except Failure Report × (Host × σ) :=
  report dir protocol responder options (.opening name world)

namespace Suite

/-- Regenerate the artifacts. A failure is noted in the report and the old
artifacts are compared; only an interrupt leaves nothing to compare. -/
def prepare (suite : Suite) (dir : Path) (generate : Option Tool) (state : State σ) : Bool × State σ :=
  match generate with
  | none => (true, state)
  | some generate =>
    let step := suite.generateStep generate
    let (answer, host) := step.invoke dir state.shown.1
    let state := state.leftWith (host, state.bench)
    match answer with
    | .ok run =>
      if run.success then (true, state)
      else
        let failure := s!"{step.name} exited with code {run.exitCode}"
        (true, { state with report := state.report.failPreparation failure })
    | .error error =>
      if error.isInterrupt then (false, { state with report := state.report.interrupt })
      else (true, { state with report := state.report.failPreparation error.message })

/-- The run of a suite inside the scope of its version variable. -/
def runScoped (suite : Suite) (cacheRoot : Path) (generate : Option Tool) (responder : Responder τ (Host × σ))
    (options : EvaluationOptions) (world : Host × σ) : Except Failure Report × (Host × σ) :=
  let dir := suite.cacheDir cacheRoot
  match suite.prepare dir generate (.opening suite.name world) with
  | (false, state) => finish state
  | (true, state) => report dir suite.protocol responder options state

/-- Enter the scope of the version variable. -/
def enter (suite : Suite) (world : Host × σ) : Scope × (Host × σ) :=
  let (scope, env) := Scope.enter world.1.env versionVariable (utf8 suite.family.tag)
  (scope, ({ world.1 with env }, world.2))

/-- Put the version variable back. -/
def leave (scope : Scope) (world : Host × σ) : Host × σ :=
  ({ world.1 with env := scope.leave world.1.env }, world.2)

/-- Run a suite with its family's tag in the version variable, which is put
back whichever way the run ends. -/
def run (suite : Suite) (cacheRoot : Path) (generate : Option Tool) (responder : Responder τ (Host × σ))
    (options : EvaluationOptions) (world : Host × σ) : Except Failure Report × (Host × σ) :=
  let (scope, inside) := suite.enter world
  let (result, left) := suite.runScoped cacheRoot generate responder options inside
  (result, leave scope left)

end Suite
end ExitParity
