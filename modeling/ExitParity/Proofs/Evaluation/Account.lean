import ExitParity.Proofs.Evaluation.Discovery
import ExitParity.Proofs.Evaluation.Filing
import ExitParity.Proofs.Pool.Delivery
import Mathlib.Data.List.Perm.Subperm

namespace ExitParity

/-- Everything in the four buckets. -/
def Report.roots (report : Report) : List Path := Outcome.all.flatMap report.bucket

theorem Report.verdict_eq {report other : Report} (running : report.interrupted = other.interrupted)
    (same : ∀ outcome, (report.bucket outcome).Perm (other.bucket outcome)) : report.verdict = other.verdict := by
  have passed : report.passed.length = other.passed.length := (same .passed).length_eq
  have failed : report.failed.length = other.failed.length := (same .failed).length_eq
  have empty : report.failed.isEmpty = other.failed.isEmpty := (same .failed).isEmpty_eq
  simp only [verdict, total, running, passed, failed, empty]
  rfl

namespace Evaluation

open Comparison

/-- The outcome that a pair has when no call is interrupted. -/
def outcomeWith (protocol : Protocol) (answer : Call → Answer) (pair : ArtifactPair) : Option Outcome :=
  outcomeOf ((protocol.plan pair).endingWith answer)

/-- The reports that an evaluation of these pairs can end with, each with the
last reading of the token. What answers the calls, the number of jobs and the
order of the steps are free, and so is the moment at which the token is set. -/
inductive Reports (protocol : Protocol) (answer : Call → Answer) (pairs : List ArtifactPair) : Report → Bool → Prop
  | ended {τ σ : Type} {responder : Responder τ (Host × σ)} {walk : Walk} {jobs : Nat} {state : State σ}
      {trace : Pool.Trace ArtifactPair (Suspended τ) Ending}
      {last : Pool.State Walk ArtifactPair (Suspended τ) Ending (State σ)}
      (steady : responder.Steady answer) (keeps : responder.KeepsToken) (fresh : state.report.Fresh)
      (run : Pool.Run (duty protocol responder) (Pool.start walk jobs state) trace last)
      (finished : last.finished = true) (drawn : trace.Draws pairs) :
      Reports protocol answer pairs (conclude last.world).report last.world.host.isCancelled

/-- The pairs that a report accounts for are some of those given, all of them
unless it is interrupted, each in the bucket of its own outcome. -/
structure Accounts (protocol : Protocol) (answer : Call → Answer) (pairs recorded : List ArtifactPair)
    (report : Report) : Prop where
  among : recorded.Subperm pairs
  counted : ∀ pair ∈ recorded, (outcomeWith protocol answer pair).isSome = true
  bucket (outcome : Outcome) :
    report.bucket outcome =
      (recorded.filter fun pair => outcomeWith protocol answer pair = some outcome).map ArtifactPair.root
  complete : report.interrupted = false → recorded.Perm pairs

variable {protocol : Protocol} {answer : Call → Answer} {pairs recorded : List ArtifactPair} {report other : Report}

theorem outcomeOf_interrupted {ending : Ending} (interrupted : Interrupted ending) : outcomeOf ending = none := by
  obtain ⟨error, rfl, interrupt⟩ := interrupted
  simp [outcomeOf, interrupt]

theorem conclude_interrupted {σ : Type} {state : State σ} (running : state.report.interrupted = false) :
    (conclude state).report.interrupted = state.host.isCancelled := by
  have reading : state.host.readToken.1 = state.host.isCancelled := rfl
  unfold conclude
  cases set : state.host.isCancelled with
  | true => simp only [reading, set, if_true, Report.interrupt]
  | false => simpa only [reading, set, Bool.false_eq_true, if_false] using running

theorem conclude_bucket {σ : Type} (state : State σ) (outcome : Outcome) :
    (conclude state).report.bucket outcome = state.report.bucket outcome := by
  unfold conclude
  simp only
  split
  · cases outcome <;> rfl
  · rfl

/-- An evaluation that has come to its end accounts for what it has collected,
for all of it unless the token is set. -/
theorem conclude_accounts {τ σ : Type} {responder : Responder τ (Host × σ)} {walk : Walk} {jobs : Nat}
    {state : State σ} {trace : Pool.Trace ArtifactPair (Suspended τ) Ending}
    {last : Pool.State Walk ArtifactPair (Suspended τ) Ending (State σ)} (steady : responder.Steady answer)
    (keeps : responder.KeepsToken) (fresh : state.report.Fresh)
    (run : Pool.Run (duty protocol responder) (Pool.start walk jobs state) trace last) (finished : last.finished = true)
    (drawn : trace.Draws pairs) :
    (conclude last.world).report.interrupted = last.world.host.isCancelled ∧
      ∃ recorded, Accounts protocol answer pairs recorded (conclude last.world).report ∧
        (last.world.host.isCancelled = false → recorded = last.collected.map Prod.fst) := by
  have heeds : (duty protocol responder).Heeds fun state => state.host.isCancelled := duty_heeds keeps
  obtain ⟨taken, inside, filed, running, all⟩ := run_filed keeps run fresh rfl
  have collected := run.collected_perm finished
  have begun : (last.collected.map Prod.fst).Perm last.begun :=
    (collected.map Prod.fst).trans (run.begun_perm finished).symm
  have judged (result : ArtifactPair × Ending) (member : result ∈ taken) :
      outcomeOf result.2 = outcomeWith protocol answer result.1 := by
    have returned := collected.subset (inside.subset member)
    have reached := (run.reaches (Pool.start_idle _ _ _)).2 result.1 result.2 returned
    rcases ending_of_reaches steady reached with same | interrupted
    · rw [same]
      rfl
    · have counted := filed.counted result member
      simp [outcomeOf_interrupted interrupted] at counted
  have marked := conclude_interrupted running
  refine ⟨marked, taken.map Prod.fst, ⟨?_, ?_, ?_, ?_⟩, fun unset => by rw [all unset]⟩
  · obtain ⟨count, first⟩ := run.begun_take finished drawn
    have some_ : (taken.map Prod.fst).Subperm last.begun := (inside.map Prod.fst).subperm.trans begun.subperm
    exact some_.trans (first.subperm.trans (List.take_sublist count pairs).subperm)
  · intro pair member
    obtain ⟨result, inTaken, rfl⟩ := List.mem_map.mp member
    rw [← judged result inTaken]
    exact filed.counted result inTaken
  · intro outcome
    rw [conclude_bucket, filed.bucket, List.filter_map, List.map_map]
    congr 1
    refine List.filter_congr fun result member => ?_
    simp only [Function.comp_apply, judged result member]
  · intro unmarked
    have unset : last.world.host.isCancelled = false := marked.symm.trans unmarked
    rw [all unset]
    exact begun.trans (run.begun_all heeds finished drawn unset)

theorem Reports.accounts {isSet : Bool} (reports : Reports protocol answer pairs report isSet) :
    report.interrupted = isSet ∧ ∃ recorded, Accounts protocol answer pairs recorded report := by
  cases reports with
  | ended steady keeps fresh run finished drawn =>
    obtain ⟨marked, recorded, accounts, -⟩ := conclude_accounts steady keeps fresh run finished drawn
    exact ⟨marked, recorded, accounts⟩

/-- Two modules below the root. -/
def twoModules : FileTree where
  nodes := #[.directory 0o755 0 true [(utf8 "a.ll", 1), (utf8 "b.ll", 2)], .file 0o644 (.data []),
    .file 0o644 (.data [])]
  times := #[0, 0, 0]
  now := 0
  cwd := 0

def twoModulesState : State Unit where
  host := .idle twoModules .empty [] .unset .never 1
  bench := ()
  report := .empty "two"
  sinkError := none

def twoModulesWorld : Host × Unit := (twoModulesState.host, ())

/-- The two modules as a suite below the root. -/
def twoSuite : Suite := .generated "two" "two" ""

/-- Everything ends with 0 but the second module. -/
def secondFails : Call → Answer
  | .assemble _ => .ok (.exited 0)
  | .interpret path | .runCandidate path => .ok (.exited (if path = .ofString "/b.bc" then 1 else 0))

/-- Some calls are interrupted and the others answered. -/
def answering (answer : Call → Answer) (interrupts : Call → Bool) : Responder Empty (Host × Unit) :=
  Runner.responder fun call world => (if interrupts call then .error (.interrupted "" "") else answer call, world)

theorem answering_keeps (answer : Call → Answer) (interrupts : Call → Bool) (kind : Host → Prop) :
    (answering answer interrupts).Keeps kind :=
  ⟨fun _ holds => holds, nofun⟩

end Evaluation
end ExitParity
