import ExitParity.Proofs.Evaluation.Calm
import ExitParity.Proofs.Evaluation.Progress
import ExitParity.Proofs.Host.Invoking

namespace ExitParity

open Comparison Evaluation

variable {τ σ : Type}

theorem Report.eq_of_bucket {report other : Report} (suite : report.suite = other.suite)
    (bucket : ∀ outcome, report.bucket outcome = other.bucket outcome)
    (prepareFailure : report.prepareFailure = other.prepareFailure)
    (interrupted : report.interrupted = other.interrupted) : report = other := by
  have passed : report.passed = other.passed := bucket .passed
  have failed : report.failed = other.failed := bucket .failed
  have failedReference : report.failedReference = other.failedReference := bucket .failedReference
  have wrong : report.wrong = other.wrong := bucket .wrong
  cases report
  cases other
  simp only at suite passed failed failedReference wrong prepareFailure interrupted
  subst suite passed failed failedReference wrong prepareFailure interrupted
  rfl

theorem Execution.success_iff_zero (run : Execution) : run.success = true ↔ run.exitCode = 0 ∧ run.timedOut = false := by
  rw [Execution.success_iff]
  simp [and_comm]

namespace Evaluation

/-- The files below a directory decide which pairs an evaluation finds that
starts on them, whatever else is so and in whatever order its steps are made. -/
def Finds (protocol : Protocol) (responder : Responder τ (Host × σ)) (jobs : Nat) (dir : Path) (tree : FileTree)
    (pairs : List ArtifactPair) : Prop :=
  ∀ (state : State σ) (history : History τ) (closing : State σ), state.host.tree = tree →
    Closes dir protocol responder jobs state history closing → history.Draws pairs

/-- Calls that leave the files as they are do not change what is found. -/
theorem finds_of_keeps {protocol : Protocol} {responder : Responder τ (Host × σ)} {dir : Path} {tree : FileTree}
    (keeps : responder.Keeps fun host => host.tree = tree)
    (ends : (Walk.at_ dir).endsWithin tree Walk.stepLimit = true) (jobs : Nat) :
    Finds protocol responder jobs dir tree (tree.discover dir protocol.layout) := by
  rintro state history closing rfl closes
  cases closes with
  | ended run finished => exact run_draws_discovered keeps ends run

end Evaluation

/-- A run in which nobody sets the token and no progress output fails. -/
structure Calm (world : Host × σ) (history : History τ) : Prop where
  token : world.1.token = .unset
  sink : world.1.sink.faults = .never
  alone : ∀ who, (who, .cancel) ∉ history

namespace Suite

/-- The host that the regeneration leaves. -/
def regenerated (suite : Suite) (cacheRoot : Path) (generate : Option Tool) (world : Host × σ) : Host :=
  (suite.prepare (suite.cacheDir cacheRoot) generate (.opening suite.name (suite.enter world).2)).2.host

/-- What is noted about the regeneration: nothing when there was none or it
succeeded, else its exit code or why there is none. -/
inductive Notes (suite : Suite) (dir : Path) (host : Host) : Option Tool → Option String → Prop
  | nothing : Notes suite dir host none none
  | renewed {tool : Tool} {run : Execution} (ran : ((suite.generateStep tool).invoke dir host).1 = .ok run)
      (success : run.exitCode = 0 ∧ run.timedOut = false) : Notes suite dir host (some tool) none
  | failed {tool : Tool} {run : Execution} (ran : ((suite.generateStep tool).invoke dir host).1 = .ok run)
      (failed : ¬ (run.exitCode = 0 ∧ run.timedOut = false)) :
      Notes suite dir host (some tool) (some s!"{tool.name} exited with code {run.exitCode}")
  | unlaunched {tool : Tool} {cause : Fault}
      (unlaunched : ((suite.generateStep tool).invoke dir host).1 = .error (tool.unlaunched dir cause)) :
      Notes suite dir host (some tool) (some (tool.unlaunched dir cause).message)
  | lost {tool : Tool} {cause : Fault}
      (lost : ((suite.generateStep tool).invoke dir host).1 = .error (.wait tool.program.display dir.display cause)) :
      Notes suite dir host (some tool) (some (ToolError.wait tool.program.display dir.display cause).message)

/-- The report is fresh when a suite goes on to the comparisons. -/
theorem Prepares.fresh {suite : Suite} {dir : Path} {state after : State σ} {generate : Option Tool}
    (prepares : suite.Prepares dir state generate true after) (fresh : state.report.Fresh) : after.report.Fresh := by
  cases prepares with
  | nothing | renewed => exact fresh
  | failed | unanswered => exact fresh.failPreparation _

/-- Unless it is interrupted, a regeneration leaves nothing but a note. -/
theorem Prepares.calm {suite : Suite} {dir : Path} {name : String} {inside : Host × σ} {generate : Option Tool}
    {goesOn : Bool} {after : State σ} (prepares : suite.Prepares dir (.opening name inside) generate goesOn after)
    (unset : inside.1.token = .unset)
    (returns : ∀ tool, generate = some tool →
      (suite.generateStep tool).returns dir (State.opening name inside).shown.1 = true) :
    goesOn = true ∧ after.host.token = .unset ∧ after.report.suite = name ∧
      suite.Notes dir (State.opening name inside).shown.1 generate after.report.prepareFailure := by
  have shown : (State.opening name inside).shown.1.token = .unset := unset
  have kept (tool : Tool) {answer : Answer} {host : Host}
      (invoked : (suite.generateStep tool).invoke dir (State.opening name inside).shown.1 = (answer, host)) :
      host.token = .unset := by
    have passes := (suite.generateStep tool).passes_invoke dir (State.opening name inside).shown.1
    rw [invoked] at passes
    exact passes.token.trans shown
  have concludes (tool : Tool) (same : generate = some tool) {answer : Answer} {host : Host}
      (invoked : (suite.generateStep tool).invoke dir (State.opening name inside).shown.1 = (answer, host)) :
      (suite.generateStep tool).Concludes dir answer := by
    have concludes := Tool.invoke_concludes shown (returns tool same)
    rwa [invoked] at concludes
  cases prepares with
  | nothing => exact ⟨rfl, unset, rfl, .nothing⟩
  | @renewed tool run host invoked success =>
    have token : host.token = .unset := kept tool invoked
    exact ⟨rfl, token, rfl, .renewed (congrArg Prod.fst invoked) (run.success_iff_zero.mp success)⟩
  | @failed tool run host invoked failed =>
    have token : host.token = .unset := kept tool invoked
    refine ⟨rfl, token, rfl, .failed (congrArg Prod.fst invoked) ?_⟩
    rw [← Execution.success_iff_zero, failed]
    exact Bool.false_ne_true
  | @unanswered tool error host invoked genuine =>
    have token : host.token = .unset := kept tool invoked
    refine ⟨rfl, token, rfl, ?_⟩
    cases concludes tool rfl invoked with
    | unlaunched cause => exact .unlaunched (congrArg Prod.fst invoked)
    | lost cause => exact .lost (congrArg Prod.fst invoked)
  | @interrupted tool error host invoked interrupt =>
    rw [(concludes tool rfl invoked).genuine] at interrupt
    cases interrupt

end Suite

namespace Errand

variable {responder : Responder τ (Host × σ)} {answer : Call → Answer} {jobs : Nat} {pairs : List ArtifactPair}

/-- What a calm run of a directory reports. -/
theorem Runs.directory_report {name : String} {dir : Path} {protocol : Protocol} {world : Host × σ}
    {history : History τ} {closing : State σ} {result : Except Failure Report × (Host × σ)}
    (replies : responder.Replies answer) (spares : responder.SparesToken) (calm : Calm world history)
    (finds : Finds protocol responder jobs dir world.1.tree pairs)
    (runs : (Errand.ofDirectory name dir protocol).Runs responder jobs world history closing result) :
    ∃ report recorded, result.1 = .ok report ∧ report.suite = name ∧ report.prepareFailure = none ∧
      Full protocol answer recorded report ∧ recorded.Perm pairs ∧ (jobs ≤ 1 → recorded = pairs) := by
  have told := runs.undisturbed calm.sink
  cases runs with
  | ofDirectory closes =>
    obtain ⟨head, recorded, full, all, ordered⟩ := closes.full replies spares (finds _ _ _ rfl closes) calm.alone
      calm.token (Report.fresh_empty name)
    exact ⟨closing.report, recorded, told, head.suite, head.prepareFailure, full, all, ordered⟩

/-- What a calm run of a suite reports once its artifacts are regenerated. -/
theorem Runs.suite_report {suite : Suite} {cacheRoot : Path} {generate : Option Tool} {world : Host × σ}
    {history : History τ} {closing : State σ} {result : Except Failure Report × (Host × σ)}
    (replies : responder.Replies answer) (spares : responder.SparesToken) (calm : Calm world history)
    (finds : Finds suite.protocol responder jobs (suite.cacheDir cacheRoot)
      (suite.regenerated cacheRoot generate world).tree pairs)
    (returns : ∀ tool, generate = some tool →
      (suite.generateStep tool).returns (suite.cacheDir cacheRoot) (suite.generationHost world) = true)
    (runs : (Errand.ofSuite suite cacheRoot generate).Runs responder jobs world history closing result) :
    ∃ report recorded, result.1 = .ok report ∧ report.suite = suite.name ∧
      suite.Notes (suite.cacheDir cacheRoot) (suite.generationHost world) generate report.prepareFailure ∧
      Full suite.protocol answer recorded report ∧ recorded.Perm pairs ∧ (jobs ≤ 1 → recorded = pairs) := by
  have told := runs.undisturbed calm.sink
  cases runs with
  | ofSuite closes =>
    cases closes with
    | unprepared prepares => cases (prepares.calm calm.token returns).1
    | @compared state _ _ prepares closes =>
      obtain ⟨-, token, name, notes⟩ := prepares.calm calm.token returns
      have fresh := prepares.fresh (Report.fresh_empty suite.name)
      have tree : state.host.tree = (suite.regenerated cacheRoot generate world).tree := by
        rw [Suite.regenerated, Suite.prepares_iff.mp prepares]
      obtain ⟨head, recorded, full, all, ordered⟩ := closes.full replies spares (finds _ _ _ tree closes) calm.alone
        token fresh
      exact ⟨closing.report, recorded, told, head.suite.trans name, head.prepareFailure ▸ notes, full, all, ordered⟩

end Errand

/-- What the report of a suite and the report of a directory that starts on the
regenerated files have in common: with a caller alone every field but the note
about the regeneration, and with workers the buckets up to their order. -/
structure Suite.LikeDirectory (suite : Suite) (cacheRoot : Path) (generate : Option Tool) (jobs : Nat)
    (world : Host × σ) (report other : Report) : Prop where
  name : report.suite = suite.name
  otherName : other.suite = suite.name
  running : report.interrupted = false
  otherRunning : other.interrupted = false
  bucket : ∀ outcome, (report.bucket outcome).Perm (other.bucket outcome)
  alone : jobs ≤ 1 → report = { other with prepareFailure := report.prepareFailure }
  verdict : report.verdict = other.verdict
  nothing : other.prepareFailure = none
  notes : suite.Notes (suite.cacheDir cacheRoot) (suite.generationHost world) generate report.prepareFailure

theorem Errand.Runs.like_directory {suite : Suite} {cacheRoot : Path} {generate : Option Tool}
    {responder : Responder τ (Host × σ)} {answer : Call → Answer} {jobs : Nat} {pairs : List ArtifactPair}
    {world other : Host × σ} {history otherHistory : History τ} {closing otherClosing : State σ}
    {result otherResult : Except Failure Report × (Host × σ)}
    (runs : (Errand.ofSuite suite cacheRoot generate).Runs responder jobs world history closing result)
    (otherRuns : (Errand.ofDirectory suite.name (suite.cacheDir cacheRoot) suite.protocol).Runs responder jobs other
      otherHistory otherClosing otherResult)
    (replies : responder.Replies answer) (spares : responder.SparesToken)
    (finds : Finds suite.protocol responder jobs (suite.cacheDir cacheRoot)
      (suite.regenerated cacheRoot generate world).tree pairs)
    (returns : ∀ tool, generate = some tool →
      (suite.generateStep tool).returns (suite.cacheDir cacheRoot) (suite.generationHost world) = true)
    (calm : Calm world history) (otherCalm : Calm other otherHistory)
    (started : other.1.tree = (suite.regenerated cacheRoot generate world).tree) :
    ∃ report otherReport, result.1 = .ok report ∧ otherResult.1 = .ok otherReport ∧
      suite.LikeDirectory cacheRoot generate jobs world report otherReport := by
  obtain ⟨report, recorded, told, name, notes, full, all, ordered⟩ := runs.suite_report replies spares calm finds returns
  obtain ⟨otherReport, others, otherTold, otherName, nothing, otherFull, otherAll, otherOrdered⟩ :=
    otherRuns.directory_report replies spares otherCalm (started ▸ finds)
  have bucket (outcome : Outcome) : (report.bucket outcome).Perm (otherReport.bucket outcome) := by
    rw [full.bucket, otherFull.bucket]
    exact ((all.trans otherAll.symm).filter _).map _
  have running := full.running.trans otherFull.running.symm
  have alone (one : jobs ≤ 1) : report = { otherReport with prepareFailure := report.prepareFailure } := by
    refine Report.eq_of_bucket (name.trans otherName.symm) (fun outcome => ?_) rfl running
    have here := full.bucket outcome
    have there := otherFull.bucket outcome
    rw [ordered one] at here
    rw [otherOrdered one] at there
    cases outcome <;> exact here.trans there.symm
  exact ⟨report, otherReport, told, otherTold, name, otherName, full.running, otherFull.running, bucket, alone,
    Report.verdict_eq running bucket, nothing, notes⟩

/-- When the calls leave the files alone, nothing has to be known about what is
found. -/
theorem regenerated_like_directory_of_keeps {suite : Suite} {cacheRoot : Path} {generate : Option Tool}
    {responder : Responder τ (Host × σ)} {answer : Call → Answer} {jobs : Nat} {world other : Host × σ}
    {history otherHistory : History τ} {closing otherClosing : State σ}
    {result otherResult : Except Failure Report × (Host × σ)}
    (replies : responder.Replies answer) (spares : responder.SparesToken)
    (keeps : ∀ tree, responder.Keeps fun host => host.tree = tree)
    (ends : (Walk.at_ (suite.cacheDir cacheRoot)).endsWithin (suite.regenerated cacheRoot generate world).tree
      Walk.stepLimit = true)
    (returns : ∀ tool, generate = some tool →
      (suite.generateStep tool).returns (suite.cacheDir cacheRoot) (suite.generationHost world) = true)
    (calm : Calm world history) (otherCalm : Calm other otherHistory)
    (started : other.1.tree = (suite.regenerated cacheRoot generate world).tree)
    (runs : (Errand.ofSuite suite cacheRoot generate).Runs responder jobs world history closing result)
    (otherRuns : (Errand.ofDirectory suite.name (suite.cacheDir cacheRoot) suite.protocol).Runs responder jobs other
      otherHistory otherClosing otherResult) :
    ∃ report otherReport, result.1 = .ok report ∧ otherResult.1 = .ok otherReport ∧
      suite.LikeDirectory cacheRoot generate jobs world report otherReport :=
  runs.like_directory otherRuns replies spares (finds_of_keeps (keeps _) ends jobs) returns calm otherCalm started

/-- A generator that is not there. -/
def missingGenerator : Tool := .ofProgram (.ofString "/generator")

end ExitParity
