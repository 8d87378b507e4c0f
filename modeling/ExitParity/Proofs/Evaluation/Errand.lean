import ExitParity.Evaluation
import ExitParity.Proofs.Pool.Run

namespace ExitParity

open Comparison

variable {τ σ : Type}

namespace Evaluation

/-- What happened in the pool of an evaluation. -/
abbrev History (τ : Type) := Pool.Trace ArtifactPair (Suspended τ) Ending

/-- The evaluations of a directory, one for every order in which the crew can
make its steps and somebody outside can set the token. -/
inductive Closes (dir : Path) (protocol : Protocol) (responder : Responder τ (Host × σ)) (jobs : Nat)
    (state : State σ) : History τ → State σ → Prop
  | ended {history : History τ} {last : Pool.State Walk ArtifactPair (Suspended τ) Ending (State σ)}
      (run : Pool.Run (duty protocol responder) (Pool.start (.at_ dir) jobs state) history last)
      (finished : last.finished = true) : Closes dir protocol responder jobs state history (conclude last.world)

theorem evaluate_closes {dir : Path} {protocol : Protocol} {responder : Responder τ (Host × σ)}
    {options : EvaluationOptions} {state : State σ}
    (finished : (Pool.run (duty protocol responder) options.schedule (.at_ dir) options.jobs state).finished = true) :
    ∃ history, Closes dir protocol responder options.jobs state history (evaluate dir protocol responder options state) ∧
      ∀ who, (who, .cancel) ∉ history := by
  obtain ⟨history, run, alone⟩ := Pool.run_alone (duty protocol responder) options.schedule (.at_ dir) options.jobs state
  exact ⟨history, .ended run finished, alone⟩

end Evaluation

open Evaluation

namespace Suite

/-- How the regeneration of a suite ends: whether the artifacts are compared
after it, and the evaluation behind it. -/
inductive Prepares (suite : Suite) (dir : Path) (state : State σ) : Option Tool → Bool → State σ → Prop
  | nothing : Prepares suite dir state none true state
  | renewed {tool : Tool} {run : Execution} {host : Host}
      (invoked : (suite.generateStep tool).invoke dir state.shown.1 = (.ok run, host)) (success : run.success = true) :
      Prepares suite dir state (some tool) true (state.leftWith (host, state.bench))
  | failed {tool : Tool} {run : Execution} {host : Host}
      (invoked : (suite.generateStep tool).invoke dir state.shown.1 = (.ok run, host)) (failed : run.success = false) :
      Prepares suite dir state (some tool) true { state.leftWith (host, state.bench) with
        report := state.report.failPreparation s!"{(suite.generateStep tool).name} exited with code {run.exitCode}" }
  | unanswered {tool : Tool} {error : ToolError} {host : Host}
      (invoked : (suite.generateStep tool).invoke dir state.shown.1 = (.error error, host))
      (genuine : error.isInterrupt = false) :
      Prepares suite dir state (some tool) true { state.leftWith (host, state.bench) with
        report := state.report.failPreparation error.message }
  | interrupted {tool : Tool} {error : ToolError} {host : Host}
      (invoked : (suite.generateStep tool).invoke dir state.shown.1 = (.error error, host))
      (interrupt : error.isInterrupt = true) :
      Prepares suite dir state (some tool) false { state.leftWith (host, state.bench) with
        report := state.report.interrupt }

/-- The host on which a suite's artifacts are regenerated. -/
def generationHost (suite : Suite) (world : Host × σ) : Host := (State.opening suite.name (suite.enter world).2).shown.1

theorem prepare_prepares (suite : Suite) (dir : Path) (generate : Option Tool) (state : State σ) :
    suite.Prepares dir state generate (suite.prepare dir generate state).1 (suite.prepare dir generate state).2 := by
  cases generate with
  | none => exact .nothing
  | some tool =>
    rcases invoked : (suite.generateStep tool).invoke dir state.shown.1 with ⟨answer, host⟩
    cases answer with
    | ok run =>
      cases success : run.success with
      | true =>
        simp only [prepare, invoked, success, if_true]
        exact .renewed invoked success
      | false =>
        simp only [prepare, invoked, success, Bool.false_eq_true, if_false]
        exact .failed invoked success
    | error error =>
      cases interrupt : error.isInterrupt with
      | true =>
        simp only [prepare, invoked, interrupt, if_true]
        exact .interrupted invoked interrupt
      | false =>
        simp only [prepare, invoked, interrupt, Bool.false_eq_true, if_false]
        exact .unanswered invoked interrupt

theorem prepares_iff {suite : Suite} {dir : Path} {state after : State σ} {generate : Option Tool} {goesOn : Bool} :
    suite.Prepares dir state generate goesOn after ↔ suite.prepare dir generate state = (goesOn, after) := by
  constructor
  · intro prepares
    cases prepares with
    | nothing => rfl
    | renewed invoked success => simp only [prepare, invoked, success, if_true]
    | failed invoked failed => simp only [prepare, invoked, failed, Bool.false_eq_true, if_false]; rfl
    | unanswered invoked genuine => simp only [prepare, invoked, genuine, Bool.false_eq_true, if_false]; rfl
    | interrupted invoked interrupt => simp only [prepare, invoked, interrupt, if_true]; rfl
  · intro prepared
    have prepares := suite.prepare_prepares dir generate state
    rwa [prepared] at prepares

theorem Prepares.sinkError {suite : Suite} {dir : Path} {state after : State σ} {generate : Option Tool} {goesOn : Bool}
    (prepares : suite.Prepares dir state generate goesOn after) : after.sinkError = state.sinkError := by
  cases prepares <;> rfl

/-- The runs of a suite inside its scope, up to the report. Without artifacts
to compare nothing happens in a pool. -/
inductive Closes (suite : Suite) (cacheRoot : Path) (generate : Option Tool) (responder : Responder τ (Host × σ))
    (jobs : Nat) (inside : Host × σ) : History τ → State σ → Prop
  | unprepared {closing : State σ}
      (prepares : suite.Prepares (suite.cacheDir cacheRoot) (.opening suite.name inside) generate false closing) :
      Closes suite cacheRoot generate responder jobs inside [] closing
  | compared {state closing : State σ} {history : History τ}
      (prepares : suite.Prepares (suite.cacheDir cacheRoot) (.opening suite.name inside) generate true state)
      (closes : Evaluation.Closes (suite.cacheDir cacheRoot) suite.protocol responder jobs state history closing) :
      Closes suite cacheRoot generate responder jobs inside history closing

end Suite

/-- What is to be judged: a directory under a name of its own, or a suite of
the cache, whose artifacts a tool may regenerate first. -/
inductive Errand where
  | ofDirectory (name : String) (dir : Path) (protocol : Protocol)
  | ofSuite (suite : Suite) (cacheRoot : Path) (generate : Option Tool)

namespace Errand

/-- The runs of an errand: what happened, the evaluation in the end, and the
answer with the world left behind. -/
inductive Runs (responder : Responder τ (Host × σ)) (jobs : Nat) (world : Host × σ) :
    Errand → History τ → State σ → Except Failure Report × (Host × σ) → Prop
  | ofDirectory {name : String} {dir : Path} {protocol : Protocol} {history : History τ} {closing : State σ}
      (closes : Evaluation.Closes dir protocol responder jobs (.opening name world) history closing) :
      Runs responder jobs world (.ofDirectory name dir protocol) history closing (handOut closing)
  | ofSuite {suite : Suite} {cacheRoot : Path} {generate : Option Tool} {history : History τ} {closing : State σ}
      (closes : suite.Closes cacheRoot generate responder jobs (suite.enter world).2 history closing) :
      Runs responder jobs world (.ofSuite suite cacheRoot generate) history closing
        ((handOut closing).1, Suite.leave (suite.enter world).1 (handOut closing).2)

def run (responder : Responder τ (Host × σ)) (options : EvaluationOptions) (world : Host × σ) :
    Errand → Except Failure Report × (Host × σ)
  | .ofDirectory name dir protocol => runDirectory name dir protocol responder options world
  | .ofSuite suite cacheRoot generate => suite.run cacheRoot generate responder options world

/-- Whether the pool of a run comes to its end within the steps that it is given. -/
def returns (responder : Responder τ (Host × σ)) (options : EvaluationOptions) (world : Host × σ) : Errand → Bool
  | .ofDirectory name dir protocol =>
    (Pool.run (duty protocol responder) options.schedule (.at_ dir) options.jobs (.opening name world)).finished
  | .ofSuite suite cacheRoot generate =>
    let dir := suite.cacheDir cacheRoot
    match suite.prepare dir generate (.opening suite.name (suite.enter world).2) with
    | (false, _) => true
    | (true, state) => (Pool.run (duty suite.protocol responder) options.schedule (.at_ dir) options.jobs state).finished

/-- Whatever the schedule, what the program does for an errand is one of its
runs, in which nobody outside sets the token. -/
theorem run_runs {errand : Errand} {responder : Responder τ (Host × σ)} {options : EvaluationOptions}
    {world : Host × σ} (returns : errand.returns responder options world = true) :
    ∃ history closing, errand.Runs responder options.jobs world history closing (errand.run responder options world) ∧
      ∀ who, (who, .cancel) ∉ history := by
  cases errand with
  | ofDirectory name dir protocol =>
    obtain ⟨history, closes, alone⟩ := evaluate_closes returns
    exact ⟨history, _, .ofDirectory closes, alone⟩
  | ofSuite suite cacheRoot generate =>
    have prepares := suite.prepare_prepares (suite.cacheDir cacheRoot) generate (.opening suite.name (suite.enter world).2)
    rcases prepared : suite.prepare (suite.cacheDir cacheRoot) generate (.opening suite.name (suite.enter world).2) with
      ⟨goesOn, state⟩
    rw [prepared] at prepares
    cases goesOn with
    | false =>
      have quiet : state.sinkError = none := prepares.sinkError
      have same : handOut state = finish state := by simp only [handOut, quiet]
      have closes : suite.Closes cacheRoot generate responder options.jobs (suite.enter world).2 [] state :=
        .unprepared prepares
      have ran := Runs.ofSuite closes
      rw [same] at ran
      refine ⟨[], state, ?_, nofun⟩
      simpa only [run, Suite.run, Suite.runScoped, prepared] using ran
    | true =>
      simp only [Errand.returns, prepared] at returns
      obtain ⟨history, closes, alone⟩ := evaluate_closes returns
      have ran := Runs.ofSuite (.compared prepares closes)
      refine ⟨history, evaluate (suite.cacheDir cacheRoot) suite.protocol responder options state, ?_, alone⟩
      simpa only [run, Suite.run, Suite.runScoped, prepared, report] using ran

end Errand
end ExitParity
