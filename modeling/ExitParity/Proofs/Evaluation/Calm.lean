import ExitParity.Proofs.Evaluation.Account
import ExitParity.Proofs.Evaluation.Errand
import ExitParity.Proofs.Pool.Lockstep

namespace ExitParity

open Comparison

variable {τ σ : Type}

/-- The answer to a call depends on the call alone, and is never an interrupt. -/
structure Responder.Replies (responder : Responder τ σ) (answer : Call → Answer) : Prop where
  given {call : Call} {given : Answer} (reached : responder.Reaches call (.finished given)) : given = answer call
  genuine (call : Call) : ¬ Interrupted (answer call)

theorem Responder.Replies.steady {responder : Responder τ σ} {answer : Call → Answer}
    (replies : responder.Replies answer) : responder.Steady answer :=
  fun reached => .inl (replies.given reached)

/-- Nothing that answers a call sets the token, or unsets it. -/
structure Responder.SparesToken (responder : Responder τ (Host × σ)) : Prop where
  unset : responder.Keeps fun host => host.token = .unset
  set : responder.KeepsToken

namespace Comparison

/-- No interrupt comes out of a course unless one is among the answers. -/
inductive Course.Genuine : Course → Prop
  | ended {ending : Ending} (genuine : ¬ Interrupted ending) : Genuine (.ended ending)
  | ask {call : Call} {next : Answer → Course} (later : ∀ given, ¬ Interrupted given → Genuine (next given)) :
      Genuine (.ask call next)

theorem not_interrupted_ok {α : Type} (value : α) : ¬ Interrupted (.ok value) := nofun

theorem Role.decision?_genuine {role : Role} {preset : Option Int} {earlier : List Execution} {given : Answer}
    {ending : Ending} (decided : role.decision? preset earlier given = some ending) (genuine : ¬ Interrupted given) :
    ¬ Interrupted ending := by
  cases given with
  | error error =>
    have relayed : role.decision? preset earlier (.error error) = some (.error error) := by cases role <;> rfl
    obtain rfl : Except.error error = ending := Option.some.inj (relayed.symm.trans decided)
    rintro ⟨_, same, interrupt⟩
    obtain rfl := Except.error.inj same
    exact genuine ⟨error, rfl, interrupt⟩
  | ok run =>
    obtain ⟨outcome, rfl⟩ : ∃ outcome, ending = .ok outcome := by
      unfold decision? at decided
      cases role with
      | assembly | reference | reproduction =>
        simp only at decided
        repeat' split at decided
        all_goals first
          | exact ⟨_, (Option.some.inj decided).symm⟩
          | cases decided
    exact not_interrupted_ok outcome

theorem follow_genuine (preset : Option Int) (tasks : List Task) (earlier : List Execution) :
    Course.Genuine (follow preset tasks earlier) := by
  induction tasks generalizing earlier with
  | nil => exact .ended (not_interrupted_ok _)
  | cons task rest ih =>
    refine .ask fun given genuine => ?_
    cases decided : task.role.decision? preset earlier given with
    | some ending => exact .ended (Role.decision?_genuine decided genuine)
    | none => exact ih _

/-- A stage from which a comparison is not interrupted. -/
def Undisturbed (responder : Responder τ σ) : Stage (Suspended τ) Ending → Prop
  | .finished ending => ¬ Interrupted ending
  | .pending suspended => ∃ call, responder.Reaches call (.pending suspended.task) ∧
      Course.Genuine (.ask call suspended.next)

variable {responder : Responder τ σ} {answer : Call → Answer}

theorem Course.Genuine.next (replies : responder.Replies answer) {call : Call} {next : Answer → Course}
    (genuine : Course.Genuine (.ask call next)) {given : Answer} (reached : responder.Reaches call (.finished given)) :
    (next given).Genuine := by
  cases genuine with
  | ask later => exact later given (replies.given reached ▸ replies.genuine call)

theorem proceed_undisturbed (replies : responder.Replies answer) {course : Course} (genuine : course.Genuine) (s : σ) :
    Undisturbed responder (proceed responder course s).1 := by
  induction course generalizing s with
  | ended ending =>
    cases genuine with
    | ended genuine => exact genuine
  | ask call next ih =>
    have reached : responder.Reaches call (responder.begin call s).1 := .begin s
    rcases begun : responder.begin call s with ⟨stage, t⟩
    rw [begun] at reached
    cases stage with
    | pending task =>
      simp only [proceed, begun]
      exact ⟨call, reached, genuine⟩
    | finished given =>
      simp only [proceed, begun]
      exact ih given (genuine.next replies reached) t

theorem resume_undisturbed (replies : responder.Replies answer) {suspended : Suspended τ}
    (undisturbed : Undisturbed responder (.pending suspended)) (s : σ) :
    Undisturbed responder (resume responder suspended s).1 := by
  obtain ⟨call, waiting, genuine⟩ := undisturbed
  have reached := waiting.advance s
  rcases looked : responder.advance suspended.task s with ⟨stage, t⟩
  rw [looked] at reached
  cases stage with
  | pending task =>
    simp only [resume, looked]
    exact ⟨call, reached, genuine⟩
  | finished given =>
    simp only [resume, looked]
    exact proceed_undisturbed replies (genuine.next replies reached) t

end Comparison

namespace Evaluation

variable {responder : Responder τ (Host × σ)} {answer : Call → Answer} {protocol : Protocol}

theorem genuine_of_reaches (replies : responder.Replies answer) {pair : ArtifactPair} {ending : Ending}
    (reached : (duty protocol responder).Reaches pair (.finished ending)) : ¬ Interrupted ending := by
  suffices undisturbed : ∀ stage, (duty protocol responder).Reaches pair stage →
      Comparison.Undisturbed responder stage from undisturbed _ reached
  intro stage reached
  induction reached with
  | begin state =>
    have genuine : Course.Genuine (protocol.plan pair).course := by
      rw [Plan.course_eq_follow]
      exact follow_genuine _ _ _
    exact proceed_undisturbed replies genuine state.shown
  | advance state reached ih => exact resume_undisturbed replies ih state.shown

theorem outcomeOf_genuine {ending : Ending} (genuine : ¬ Interrupted ending) : ∃ outcome, outcomeOf ending = some outcome := by
  cases ending with
  | ok outcome => exact ⟨outcome, rfl⟩
  | error error =>
    cases interrupt : error.isInterrupt with
    | true => exact absurd ⟨error, rfl, interrupt⟩ genuine
    | false => exact ⟨.failed, by simp [outcomeOf, interrupt]⟩

variable {walk : Walk} {jobs : Nat} {state : State σ} {history : History τ}
  {last : Pool.State Walk ArtifactPair (Suspended τ) Ending (State σ)}

/-- Unless somebody outside sets the token it stays unset. -/
theorem run_token (replies : responder.Replies answer) (spares : responder.SparesToken)
    (run : Pool.Run (duty protocol responder) (Pool.start walk jobs state) history last) (finished : last.finished = true)
    (alone : ∀ who, (who, .cancel) ∉ history) (unset : state.host.token = .unset) : last.world.host.token = .unset := by
  let harmless (deed : Pool.Deed ArtifactPair (Suspended τ) Ending) : Prop :=
    deed ≠ .cancel ∧ ∀ pair ending, deed = .collect pair ending → ¬ Interrupted ending
  have kept (deed : Pool.Deed ArtifactPair (Suspended τ) Ending) (state : State σ) (harm : harmless deed)
      (unset : state.host.token = .unset) : (deed.worldAfter (duty protocol responder) state).host.token = .unset := by
    cases deed with
    | read | pull | send => exact unset
    | begin pair => exact proceed_keeps spares.unset (protocol.plan pair).course unset
    | advance pair suspended => exact resume_keeps spares.unset suspended unset
    | cancel => exact absurd rfl harm.1
    | collect pair ending =>
      have reading : state.host.readToken.1 = false := by simp [Host.readToken, unset, Token.isSet, Token.unset]
      obtain ⟨outcome, counted⟩ := outcomeOf_genuine (harm.2 pair ending rfl)
      change (collect pair ending state).host.token = .unset
      rw [collect_counted reading pair counted]
      exact unset
  have all : ∀ step ∈ history, harmless step.2 := by
    rintro ⟨who, deed⟩ member
    refine ⟨?_, ?_⟩
    · rintro rfl
      exact alone who member
    · rintro pair ending rfl
      have gathered : (pair, ending) ∈ history.gather Pool.Deed.collects :=
        List.mem_flatMap.mpr ⟨_, member, List.mem_cons_self⟩
      have collected : (pair, ending) ∈ last.collected := by
        rw [run.collected_eq]
        exact List.mem_append_right _ gathered
      have returned := (run.collected_perm finished).subset collected
      exact genuine_of_reaches replies ((run.reaches (Pool.start_idle _ _ _)).2 pair ending returned)
  exact run.kept kept all unset

/-- What an evaluation never changes about its report. -/
structure SameHead (report other : Report) : Prop where
  suite : report.suite = other.suite
  prepareFailure : report.prepareFailure = other.prepareFailure

theorem sameHead_file (report : Report) (path : Path) (outcome : Outcome) : SameHead (report.file path outcome) report := by
  cases outcome <;> exact ⟨rfl, rfl⟩

theorem collect_sameHead (pair : ArtifactPair) (ending : Ending) (state : State σ) :
    SameHead (collect pair ending state).report state.report := by
  rcases collect_cases pair ending state with ⟨same, -⟩ | ⟨-, outcome, -, same⟩
  · rw [same]
    exact ⟨rfl, rfl⟩
  · rw [same]
    exact sameHead_file _ _ _

theorem run_sameHead (run : Pool.Run (duty protocol responder) (Pool.start walk jobs state) history last) :
    SameHead (conclude last.world).report state.report := by
  have kept (deed : Pool.Deed ArtifactPair (Suspended τ) Ending) (before : State σ) (_ : True)
      (same : SameHead before.report state.report) :
      SameHead (deed.worldAfter (duty protocol responder) before).report state.report := by
    cases deed with
    | read | pull | send | begin | advance | cancel => exact same
    | collect pair ending =>
      have here := collect_sameHead pair ending before
      exact ⟨here.suite.trans same.suite, here.prepareFailure.trans same.prepareFailure⟩
  have held : SameHead last.world.report state.report := run.kept kept (fun _ _ => trivial) ⟨rfl, rfl⟩
  unfold conclude
  simp only
  split
  · exact ⟨held.suite, held.prepareFailure⟩
  · exact held

/-- A report that holds these pairs in their order, and nothing else. -/
structure Full (protocol : Protocol) (answer : Call → Answer) (recorded : List ArtifactPair) (report : Report) :
    Prop where
  running : report.interrupted = false
  bucket (outcome : Outcome) :
    report.bucket outcome =
      (recorded.filter fun pair => outcomeWith protocol answer pair = some outcome).map ArtifactPair.root

/-- An evaluation that nobody interrupts reports every pair, and a caller alone
reports them in the order in which they are found. -/
theorem Closes.full {dir : Path} {closing : State σ} {pairs : List ArtifactPair} (replies : responder.Replies answer)
    (spares : responder.SparesToken) (closes : Closes dir protocol responder jobs state history closing)
    (drawn : history.Draws pairs) (alone : ∀ who, (who, .cancel) ∉ history) (unset : state.host.token = .unset)
    (fresh : state.report.Fresh) :
    SameHead closing.report state.report ∧
      ∃ recorded, Full protocol answer recorded closing.report ∧ recorded.Perm pairs ∧
        (jobs ≤ 1 → recorded = pairs) := by
  cases closes with
  | @ended last run finished =>
    have token := run_token replies spares run finished alone unset
    have notSet : last.world.host.isCancelled = false := by simp [Host.isCancelled, token, Token.isSet, Token.unset]
    obtain ⟨marked, recorded, accounts, all⟩ := conclude_accounts replies.steady spares.set fresh run finished drawn
    have running := marked.trans notSet
    have complete := accounts.complete running
    refine ⟨run_sameHead run, recorded, ⟨running, accounts.bucket⟩, complete, fun one => ?_⟩
    obtain ⟨begun, left, taken, -⟩ := run.collected_in_order one finished
    have ordered : last.collected.map Prod.fst <+: pairs := by
      rw [← begun]
      exact (taken ▸ List.prefix_append last.begun left).trans drawn.takes_prefix
    rw [← all notSet] at ordered
    exact ordered.eq_of_length complete.length_eq

end Evaluation
end ExitParity
