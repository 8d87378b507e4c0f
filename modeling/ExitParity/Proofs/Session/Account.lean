import ExitParity.Proofs.Evaluation.Filing
import ExitParity.Session

namespace ExitParity

theorem Report.isSuccess_iff (report : Report) :
    report.isSuccess = true ↔ report.passed ≠ [] ∧ report.failed = [] ∧ report.interrupted = false := by
  unfold isSuccess verdict
  cases interrupted : report.interrupted with
  | true => simp [Verdict.isPassed]
  | false =>
    cases failed : report.failed with
    | cons path rest => simp [Verdict.isPassed]
    | nil =>
      cases passed : report.passed with
      | nil => simp [Verdict.isPassed, total, passed, failed]
      | cons path rest => simp [Verdict.isPassed, total, passed]

theorem RunSummary.success_iff (reports : List Report) :
    (RunSummary.of reports).success = true ↔ reports ≠ [] ∧ ∀ report ∈ reports, report.isSuccess = true := by
  simp [RunSummary.of]

/-- A set token stays set while the report is stored. -/
theorem RunSummary.isCancelled_send {summary : RunSummary} {path : Path} {host after : Host}
    (sent : summary.send path host = .ok after) (set : host.isCancelled = true) : after.isCancelled = true := by
  obtain ⟨token, later⟩ := RunSummary.send_keeps sent
  unfold Host.isCancelled at set ⊢
  rw [token]
  exact Token.isSet_of_le later set

/-- Where a request wants the machine readable report to go. -/
def Request.reportJson? : Request → Option Path
  | .run options => options.tools.reportJson
  | .dir options => options.tools.reportJson
  | .list => none

namespace Session

/-- A piece of what a command is for, a suite or a directory, as what it does
to the world and the report it gives. -/
abbrev Stint (σ : Type) := Host × σ → Except Failure Report × (Host × σ)

variable {τ σ : Type}

/-- The stint of a suite. The token is read before it is begun. -/
def suiteStint (responder : Responder τ (Host × σ)) (options : RunOptions) (evaluation : EvaluationOptions)
    (suite : Suite) : Stint σ := fun world =>
  suite.run options.cacheDir (generator options) responder evaluation (world.1.readToken.2, world.2)

def directoryStint (responder : Responder τ (Host × σ)) (options : DirOptions) (evaluation : EvaluationOptions) :
    Stint σ :=
  runDirectory options.dir.display options.dir options.protocol responder evaluation

/-- Stints done one after another, each with the report that it gave. -/
inductive Done : List (Stint σ) → Host × σ → List Report → Host × σ → Prop
  | nothing (world : Host × σ) : Done [] world [] world
  | next {stint : Stint σ} {rest : List (Stint σ)} {world last : Host × σ} {report : Report} {reports : List Report}
      {host : Host} {bench : σ} (gave : stint world = (.ok report, (host, bench)))
      (later : Done rest (printSummary report host, bench) reports last) :
      Done (stint :: rest) world (report :: reports) last

theorem Done.length_eq {stints : List (Stint σ)} {world last : Host × σ} {reports : List Report}
    (done : Done stints world reports last) : reports.length = stints.length := by
  induction done with
  | nothing => rfl
  | next gave later ih => simp only [List.length_cons, ih]

/-- The suites that a run got through before it found the token set, if it did. -/
theorem runSuites_done {responder : Responder τ (Host × σ)} {options : RunOptions} {evaluation : EvaluationOptions}
    {suites : List Suite} {before reports : List Report} {world last : Host × σ}
    (ran : runSuites responder options evaluation suites before world = (.ok reports, last)) :
    ∃ done left later between, suites = done ++ left ∧ reports = before ++ later ∧
      Done (done.map (suiteStint responder options evaluation)) world later between ∧
      (left = [] ∧ last = between ∨
        left ≠ [] ∧ between.1.isCancelled = true ∧ last = (between.1.readToken.2, between.2)) := by
  induction suites generalizing before world with
  | nil =>
    obtain ⟨all, rfl⟩ := Prod.mk.inj ran
    obtain rfl := Except.ok.inj all
    exact ⟨[], [], [], world, rfl, (List.append_nil _).symm, .nothing world, .inl ⟨rfl, rfl⟩⟩
  | cons suite rest ih =>
    obtain ⟨host, bench⟩ := world
    have reading : host.readToken.1 = host.isCancelled := rfl
    unfold runSuites at ran
    cases set : host.isCancelled with
    | true =>
      simp only [reading, set, if_true] at ran
      obtain ⟨all, rfl⟩ := Prod.mk.inj ran
      obtain rfl := Except.ok.inj all
      exact ⟨[], suite :: rest, [], (host, bench), rfl, (List.append_nil _).symm, .nothing _,
        .inr ⟨List.cons_ne_nil _ _, set, rfl⟩⟩
    | false =>
      simp only [reading, set, Bool.false_eq_true, if_false] at ran
      split at ran
      · cases (Prod.mk.inj ran).1
      · next report after bench' gave =>
        obtain ⟨done, left, later, between, split, all, course, ended⟩ := ih ran
        refine ⟨suite :: done, left, report :: later, between, ?_, ?_, .next gave course, ended⟩
        · rw [split, List.cons_append]
        · rw [all, List.append_assoc, List.singleton_append]

theorem forall₂_of_mapM {α β ε : Type} {find : α → Except ε β} {names : List α} {found : List β}
    (all : names.mapM find = .ok found) : List.Forall₂ (fun name value => find name = .ok value) names found := by
  induction names generalizing found with
  | nil =>
    obtain rfl := Except.ok.inj all
    exact .nil
  | cons name rest ih =>
    rw [List.mapM_cons] at all
    cases first : find name with
    | error error => rw [first] at all; cases all
    | ok value =>
      cases others : rest.mapM find with
      | error error => rw [first, others] at all; cases all
      | ok values =>
        rw [first, others] at all
        obtain rfl := Except.ok.inj all
        exact .cons first (ih others)

theorem selectSuites_ne_nil {names : List String} {family : Family} {protocol : Protocol} {suites : List Suite}
    (selected : selectSuites names family protocol = .ok suites) : suites ≠ [] := by
  unfold selectSuites at selected
  cases names with
  | nil =>
    simp only [List.isEmpty_nil, if_true] at selected
    split at selected
    · cases selected
    · next some_ =>
      obtain rfl := Except.ok.inj selected
      simpa using some_
  | cons name rest =>
    have chosen := forall₂_of_mapM selected
    cases chosen
    exact List.cons_ne_nil _ _

/-- The report is where it is asked for, and the token is about to be read. -/
inductive Stored (reports : List Report) : Option Path → Host → Host → Prop
  | nowhere (host : Host) : Stored reports none host host
  | sent {path : Path} {host after : Host} (stored : (RunSummary.of reports).send path host = .ok after) :
      Stored reports (some path) host after

theorem Stored.isCancelled {reports : List Report} {path : Option Path} {host after : Host}
    (stored : Stored reports path host after) (set : host.isCancelled = true) : after.isCancelled = true := by
  cases stored with
  | nowhere => exact set
  | sent sent => exact RunSummary.isCancelled_send sent set

/-- The exit status for some reports, given the last reading of the token. -/
def statusOf (isSet : Bool) (reports : List Report) : Nat :=
  if isSet || reports.any (·.interrupted) then interruptedStatus
  else if (RunSummary.of reports).success then passedStatus else failedStatus

theorem finish_ok {reports : List Report} {path : Option Path} {host after : Host} {status : Nat}
    (finished : finish reports path host = (.ok status, after)) :
    ∃ checked, Stored reports path host checked ∧ after = checked.readToken.2 ∧
      status = statusOf checked.isCancelled reports := by
  have told {checked : Host} (stored : Stored reports path host checked)
      (same : finish reports path host =
        (.ok (statusOf checked.isCancelled reports), checked.readToken.2)) :
      ∃ checked, Stored reports path host checked ∧ after = checked.readToken.2 ∧
        status = statusOf checked.isCancelled reports := by
    obtain ⟨statusEq, rfl⟩ := Prod.mk.inj (finished.symm.trans same)
    exact ⟨checked, stored, rfl, Except.ok.inj statusEq⟩
  have reading (checked : Host) : checked.readToken.1 = checked.isCancelled := rfl
  cases path with
  | none =>
    refine told (.nowhere host) ?_
    simp only [finish, statusOf, reading]
    split <;> rfl
  | some path =>
    cases sent : (RunSummary.of reports).send path host with
    | error failure => simp [finish, sent] at finished
    | ok checked =>
      refine told (.sent sent) ?_
      simp only [finish, sent, statusOf, reading]
      split <;> rfl

theorem runSelected_ok {responder : Responder τ (Host × σ)} {options : RunOptions} {evaluation : EvaluationOptions}
    {suites : List Suite} {world : Host × σ} {status : Nat} {after : Host × σ}
    (ran : runSelected responder options evaluation suites world = (.ok status, after)) :
    ∃ done left reports between last checked, suites = done ++ left ∧
      Done (done.map (suiteStint responder options evaluation)) world reports between ∧
      (left = [] ∧ last = between.1 ∨ left ≠ [] ∧ between.1.isCancelled = true ∧ last = between.1.readToken.2) ∧
      Stored reports options.tools.reportJson last checked ∧ after.1 = checked.readToken.2 ∧
      status = statusOf checked.isCancelled reports := by
  unfold runSelected at ran
  split at ran
  · cases (Prod.mk.inj ran).1
  · next reports host bench gathered =>
    obtain ⟨done, left, later, between, split, all, course, ended⟩ := runSuites_done gathered
    obtain rfl : reports = later := all
    obtain ⟨told, rfl⟩ := Prod.mk.inj ran
    obtain ⟨checked, stored, afterEq, statusEq⟩ := finish_ok (Prod.ext told rfl)
    refine ⟨done, left, reports, between, host, checked, split, course, ?_, stored, afterEq, statusEq⟩
    rcases ended with ⟨none_, last⟩ | ⟨some_, set, last⟩
    · exact .inl ⟨none_, congrArg Prod.fst last⟩
    · exact .inr ⟨some_, set, congrArg Prod.fst last⟩

theorem runOne_ok {responder : Responder τ (Host × σ)} {options : DirOptions} {evaluation : EvaluationOptions}
    {world : Host × σ} {status : Nat} {after : Host × σ}
    (ran : runOne responder options evaluation world = (.ok status, after)) :
    ∃ report between checked, Done [directoryStint responder options evaluation] world [report] between ∧
      Stored [report] options.tools.reportJson between.1 checked ∧ after.1 = checked.readToken.2 ∧
      status = statusOf checked.isCancelled [report] := by
  unfold runOne at ran
  split at ran
  · cases (Prod.mk.inj ran).1
  · next report host bench gave =>
    obtain ⟨told, rfl⟩ := Prod.mk.inj ran
    obtain ⟨checked, stored, afterEq, statusEq⟩ := finish_ok (Prod.ext told rfl)
    exact ⟨report, _, checked, .next gave (.nothing _), stored, afterEq, statusEq⟩

/-- The stints that a request is for, and the host on which its tools were
found. -/
inductive Commissioned (schedule : Pool.Schedule) (host : Host) : Request → List (Stint Unit) → Host → Prop
  | run {options : RunOptions} {suites : List Suite} {tools : Toolchain} {ready : Host}
      (selected : selectSuites options.suites options.tools.family options.protocol = .ok suites)
      (found : resolve options.tools host = (.ok tools, ready)) :
      Commissioned schedule host (.run options)
        (suites.map (suiteStint tools.responder options (evaluationOptions options.tools schedule ready))) ready
  | dir {options : DirOptions} {tools : Toolchain} {ready : Host} (isDirectory : host.tree.isDirectory options.dir = true)
      (found : resolve options.tools host = (.ok tools, ready)) :
      Commissioned schedule host (.dir options)
        [directoryStint tools.responder options (evaluationOptions options.tools schedule ready)] ready

theorem Commissioned.ne_nil {schedule : Pool.Schedule} {host ready : Host} {request : Request}
    {stints : List (Stint Unit)} (commissioned : Commissioned schedule host request stints ready) : stints ≠ [] := by
  cases commissioned with
  | run selected =>
    intro nothing
    exact selectSuites_ne_nil selected (List.map_eq_nil_iff.mp nothing)
  | dir => exact List.cons_ne_nil _ _

/-- How a command comes to its last reading of the token: the stints that were
done and those that were left when the token was found set, the reports, and
the host before they are stored and after. -/
structure Account (schedule : Pool.Schedule) (host : Host) (request : Request) (done left : List (Stint Unit))
    (reports : List Report) (last checked : Host) : Prop where
  course : ∃ ready between, Commissioned schedule host request (done ++ left) ready ∧
    Done done (ready, ()) reports (between, ()) ∧
    (left = [] ∧ last = between ∨ left ≠ [] ∧ between.isCancelled = true ∧ last = between.readToken.2)
  stored : Stored reports request.reportJson? last checked

theorem perform_account {schedule : Pool.Schedule} {host after : Host} {request : Request} {status : Nat}
    (performed : perform request schedule host = (.ok status, after)) (asked : request ≠ .list) :
    ∃ done left reports last checked, Account schedule host request done left reports last checked ∧
      after = checked.readToken.2 ∧ status = statusOf checked.isCancelled reports := by
  cases request with
  | list => exact absurd rfl asked
  | run options =>
    unfold perform run at performed
    simp only at performed
    split at performed
    · cases (Prod.mk.inj performed).1
    · next suites selected =>
      split at performed
      · cases (Prod.mk.inj performed).1
      · next tools ready found =>
        obtain ⟨told, rfl⟩ := Prod.mk.inj performed
        obtain ⟨done, left, reports, between, last, checked, split, course, ended, stored, afterEq, statusEq⟩ :=
          runSelected_ok (Prod.ext told rfl)
        subst split
        have commissioned : Commissioned schedule host (.run options) _ ready := .run selected found
        rw [List.map_append] at commissioned
        refine ⟨_, _, reports, last, checked, ⟨⟨ready, between.1, commissioned, course, ?_⟩, stored⟩, afterEq, statusEq⟩
        simpa only [List.map_eq_nil_iff, ne_eq] using ended
  | dir options =>
    unfold perform dir at performed
    simp only at performed
    split at performed
    · cases (Prod.mk.inj performed).1
    · next isDirectory =>
      split at performed
      · cases (Prod.mk.inj performed).1
      · next tools ready found =>
        obtain ⟨told, rfl⟩ := Prod.mk.inj performed
        obtain ⟨report, between, checked, course, stored, afterEq, statusEq⟩ := runOne_ok (Prod.ext told rfl)
        have commissioned : Commissioned schedule host (.dir options) _ ready := .dir (by simpa using isDirectory) found
        exact ⟨_, [], [report], between.1, checked,
          ⟨⟨ready, between.1, commissioned, course, .inl ⟨rfl, rfl⟩⟩, stored⟩, afterEq, statusEq⟩

end Session
end ExitParity
