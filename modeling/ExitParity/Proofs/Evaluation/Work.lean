import ExitParity.Evaluation
import ExitParity.Proofs.Comparison.Tasks
import ExitParity.Proofs.Pool.Source

namespace ExitParity

variable {τ σ : Type}

/-- The stages that a call can come to, whatever the worlds in which it is
begun and looked for again. -/
inductive Responder.Reaches (responder : Responder τ σ) (call : Call) : Stage τ Answer → Prop
  | begin (s : σ) : Reaches responder call (responder.begin call s).1
  | advance {task : τ} (s : σ) (reached : Reaches responder call (.pending task)) :
      Reaches responder call (responder.advance task s).1

/-- An error that says no more than that somebody interrupted the run. -/
def Interrupted {α : Type} (result : Except ToolError α) : Prop :=
  ∃ error, result = .error error ∧ error.isInterrupt = true

/-- The answer to a call depends on the call alone, but for interrupts, which
may come instead of any answer. -/
def Responder.Steady (responder : Responder τ σ) (answer : Call → Answer) : Prop :=
  ∀ {call : Call} {given : Answer}, responder.Reaches call (.finished given) → given = answer call ∨ Interrupted given

/-- Whatever answers a call, the host stays of a kind. -/
structure Responder.Keeps (responder : Responder τ (Host × σ)) (kind : Host → Prop) : Prop where
  begin {world : Host × σ} (call : Call) (holds : kind world.1) : kind (responder.begin call world).2.1
  advance {world : Host × σ} (task : τ) (holds : kind world.1) : kind (responder.advance task world).2.1

/-- How a comparison ends when every call has the answer given here. -/
def Plan.endingWith (plan : Plan) (answer : Call → Answer) : Comparison.Ending :=
  (plan.compare (fun call s => (answer call, s)) ()).1

namespace Comparison

/-- An error for an answer is the end of the course. -/
inductive Course.Stops : Course → Prop
  | ended (ending : Ending) : Stops (.ended ending)
  | ask {call : Call} {next : Answer → Course} (stopped : ∀ error, next (.error error) = .ended (.error error))
      (later : ∀ answer, Stops (next answer)) : Stops (.ask call next)

theorem follow_stops (preset : Option Int) (tasks : List Task) (earlier : List Execution) :
    Course.Stops (follow preset tasks earlier) := by
  induction tasks generalizing earlier with
  | nil => exact .ended _
  | cons task rest ih =>
    have decisive (error : ToolError) : task.role.decision? preset earlier (.error error) = some (.error error) := by
      cases task.role <;> rfl
    refine .ask (fun error => by simp only [decisive]) fun answer => ?_
    cases task.role.decision? preset earlier answer with
    | some ending => exact .ended ending
    | none => exact ih _

/-- How a course ends when every call has the answer given here. -/
def Course.endingWith (course : Course) (answer : Call → Answer) : Ending :=
  (course.run (fun call s => (answer call, s)) ()).1

/-- A stage from which a comparison can end as it should or be interrupted. -/
def Heading (responder : Responder τ σ) (answer : Call → Answer) (goal : Ending) : Stage (Suspended τ) Ending → Prop
  | .finished ending => ending = goal ∨ Interrupted ending
  | .pending suspended => ∃ call, responder.Reaches call (.pending suspended.task) ∧
      Course.Stops (.ask call suspended.next) ∧ Course.endingWith (.ask call suspended.next) answer = goal

variable {responder : Responder τ σ} {answer : Call → Answer}

theorem Course.next_heading (steady : responder.Steady answer) {call : Call} {next : Answer → Course}
    (stops : Course.Stops (.ask call next)) {given : Answer} (reached : responder.Reaches call (.finished given)) :
    (next given).endingWith answer = Course.endingWith (.ask call next) answer ∨
      ∃ error, next given = .ended (.error error) ∧ error.isInterrupt = true := by
  cases stops with
  | ask stopped later =>
    rcases steady reached with rfl | ⟨error, rfl, interrupt⟩
    · exact .inl rfl
    · exact .inr ⟨error, stopped error, interrupt⟩

theorem proceed_heading (steady : responder.Steady answer) {course : Course} (stops : course.Stops) (s : σ) :
    Heading responder answer (course.endingWith answer) (proceed responder course s).1 := by
  induction course generalizing s with
  | ended ending => exact .inl rfl
  | ask call next ih =>
    rcases begun : responder.begin call s with ⟨stage, t⟩
    have reached : responder.Reaches call stage := by
      have reached : responder.Reaches call (responder.begin call s).1 := .begin s
      rwa [begun] at reached
    cases stage with
    | pending task =>
      simp only [proceed, begun]
      exact ⟨call, reached, stops, rfl⟩
    | finished given =>
      simp only [proceed, begun]
      rcases Course.next_heading steady stops reached with same | ⟨error, ended, interrupt⟩
      · cases stops with
        | ask stopped later => exact same ▸ ih given (later given) t
      · rw [ended]
        exact .inr ⟨error, rfl, interrupt⟩

theorem resume_heading (steady : responder.Steady answer) {goal : Ending} {suspended : Suspended τ}
    (heading : Heading responder answer goal (.pending suspended)) (s : σ) :
    Heading responder answer goal (resume responder suspended s).1 := by
  obtain ⟨call, waiting, stops, ends⟩ := heading
  rcases looked : responder.advance suspended.task s with ⟨stage, t⟩
  have reached : responder.Reaches call stage := by
    have reached := waiting.advance s
    rwa [looked] at reached
  cases stage with
  | pending task =>
    simp only [resume, looked]
    exact ⟨call, reached, stops, ends⟩
  | finished given =>
    simp only [resume, looked]
    rcases Course.next_heading steady stops reached with same | ⟨error, ended, interrupt⟩
    · cases stops with
      | ask stopped later => exact ends ▸ same ▸ proceed_heading steady (later given) t
    · rw [ended]
      exact .inr ⟨error, rfl, interrupt⟩

theorem proceed_keeps {responder : Responder τ (Host × σ)} {kind : Host → Prop} (keeps : responder.Keeps kind)
    (course : Course) {world : Host × σ} (holds : kind world.1) : kind (proceed responder course world).2.1 := by
  induction course generalizing world with
  | ended ending => exact holds
  | ask call next ih =>
    have kept := keeps.begin call holds
    rcases begun : responder.begin call world with ⟨stage, after⟩
    rw [begun] at kept
    cases stage with
    | pending task => simpa only [proceed, begun] using kept
    | finished given => simpa only [proceed, begun] using ih given kept

theorem resume_keeps {responder : Responder τ (Host × σ)} {kind : Host → Prop} (keeps : responder.Keeps kind)
    (suspended : Suspended τ) {world : Host × σ} (holds : kind world.1) :
    kind (resume responder suspended world).2.1 := by
  have kept := keeps.advance suspended.task holds
  rcases looked : responder.advance suspended.task world with ⟨stage, after⟩
  rw [looked] at kept
  cases stage with
  | pending task => simpa only [resume, looked] using kept
  | finished given => simpa only [resume, looked] using proceed_keeps keeps (suspended.next given) kept

end Comparison

open Comparison

namespace Evaluation

variable {responder : Responder τ (Host × σ)} {answer : Call → Answer} {protocol : Protocol}

/-- The evaluation behind a reading of the token. -/
def State.afterReading (state : State σ) : State σ := { state with host := state.host.readToken.2 }

theorem collect_ignored {state : State σ} (set : state.host.readToken.1 = true) (pair : ArtifactPair)
    (ending : Ending) : collect pair ending state = state.afterReading := by
  simp only [collect, set, if_true, State.afterReading]

theorem collect_interrupted {state : State σ} (unset : state.host.readToken.1 = false) (pair : ArtifactPair)
    {ending : Ending} (interrupted : outcomeOf ending = none) :
    collect pair ending state = { state.afterReading with host := state.host.readToken.2.cancel } := by
  simp only [collect, unset, interrupted, Bool.false_eq_true, if_false, State.afterReading]

theorem collect_counted {state : State σ} (unset : state.host.readToken.1 = false) (pair : ArtifactPair)
    {ending : Ending} {outcome : Outcome} (counted : outcomeOf ending = some outcome) :
    collect pair ending state = record pair outcome state.afterReading := by
  simp only [collect, unset, counted, Bool.false_eq_true, if_false, State.afterReading]

/-- Collecting a result changes nothing on the host but the time, the token and
the sink. -/
theorem collect_host (pair : ArtifactPair) (ending : Ending) (state : State σ) :
    ∃ clock token sink, (collect pair ending state).host = { state.host with clock, token, sink } := by
  cases set : state.host.readToken.1 with
  | true =>
    rw [collect_ignored set]
    exact ⟨_, _, _, rfl⟩
  | false =>
    cases counted : outcomeOf ending with
    | none =>
      rw [collect_interrupted set pair counted]
      exact ⟨_, _, _, rfl⟩
    | some outcome =>
      rw [collect_counted set pair counted]
      exact ⟨_, _, _, rfl⟩

/-- The comparison of a pair ends as its plan says, or with an interrupt,
however its calls are spread over the steps of the pool. -/
theorem ending_of_reaches (steady : responder.Steady answer) {pair : ArtifactPair} {ending : Ending}
    (reached : (duty protocol responder).Reaches pair (.finished ending)) :
    ending = (protocol.plan pair).endingWith answer ∨ Interrupted ending := by
  suffices heading : ∀ stage, (duty protocol responder).Reaches pair stage →
      Heading responder answer ((protocol.plan pair).endingWith answer) stage from heading _ reached
  intro stage reached
  induction reached with
  | begin state =>
    have stops : Course.Stops (protocol.plan pair).course := by
      rw [Plan.course_eq_follow]
      exact follow_stops _ _ _
    exact proceed_heading steady stops state.shown
  | advance state reached ih => exact resume_heading steady ih state.shown

end Evaluation
end ExitParity
