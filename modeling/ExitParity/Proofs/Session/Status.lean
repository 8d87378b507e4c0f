import ExitParity.Proofs.Session.Account

namespace ExitParity.Session

theorem statusOf_eq_interrupted_iff {isSet : Bool} {reports : List Report} :
    statusOf isSet reports = 130 ↔ isSet = true ∨ ∃ report ∈ reports, report.interrupted = true := by
  unfold statusOf
  split
  · next interrupted => simpa [interruptedStatus] using interrupted
  · next running =>
    have other : (if (RunSummary.of reports).success then passedStatus else failedStatus) ≠ 130 := by split <;> decide
    simpa [other] using running

theorem statusOf_eq_passed_iff {isSet : Bool} {reports : List Report} :
    statusOf isSet reports = 0 ↔ isSet = false ∧ (RunSummary.of reports).success = true := by
  unfold statusOf
  split
  · next interrupted =>
    have failing : ¬(isSet = false ∧ (RunSummary.of reports).success = true) := by
      rintro ⟨unset, success⟩
      obtain ⟨-, passed⟩ := (RunSummary.success_iff reports).mp success
      simp only [unset, Bool.false_or, List.any_eq_true] at interrupted
      obtain ⟨report, member, interrupted⟩ := interrupted
      have running := ((Report.isSuccess_iff report).mp (passed report member)).2.2
      simp [running] at interrupted
    simpa [interruptedStatus] using failing
  · next running =>
    have unset : isSet = false := by simp_all
    split <;> simp_all [passedStatus, failedStatus]

theorem statusOf_cases (isSet : Bool) (reports : List Report) :
    statusOf isSet reports = 130 ∨ statusOf isSet reports = 0 ∨ statusOf isSet reports = 1 := by
  unfold statusOf
  split
  · exact .inl rfl
  · split
    · exact .inr (.inl rfl)
    · exact .inr (.inr rfl)

namespace Account

variable {schedule : Pool.Schedule} {host last checked : Host} {request : Request} {done left : List (Stint Unit)}
  {reports : List Report}

theorem isCancelled_of_left (account : Account schedule host request done left reports last checked)
    (stopped : left ≠ []) : checked.isCancelled = true := by
  obtain ⟨ready, between, -, -, ⟨none_, -⟩ | ⟨-, set, rfl⟩⟩ := account.course
  · exact absurd none_ stopped
  · exact account.stored.isCancelled (Host.isCancelled_readToken set)

/-- Something was reported when nothing was left out, for a command is never
for nothing. -/
theorem reports_ne_nil (account : Account schedule host request done left reports last checked) (all : left = []) :
    reports ≠ [] := by
  obtain ⟨ready, between, commissioned, course, -⟩ := account.course
  have some_ := commissioned.ne_nil
  rw [all, List.append_nil, ← List.length_pos_iff_ne_nil, ← course.length_eq] at some_
  exact List.length_pos_iff_ne_nil.mp some_

end Account

/-- The exit status of a command that gives no error. It is 130 when the token
is set at the last reading or a report is marked as interrupted. Otherwise it is
0 when every suite that was asked for was run, in order, and each has an
artifact that passed and none that failed, and 1 when not so. -/
theorem status_of_perform {schedule : Pool.Schedule} {host after : Host} {request : Request} {status : Nat}
    (performed : perform request schedule host = (.ok status, after)) (asked : request ≠ .list) :
    ∃ done left reports last checked, Account schedule host request done left reports last checked ∧
      after = checked.readToken.2 ∧
      (status = 130 ↔ checked.isCancelled = true ∨ ∃ report ∈ reports, report.interrupted = true) ∧
      (status ≠ 130 → (status = 0 ↔ left = [] ∧
        ∀ report ∈ reports, report.passed ≠ [] ∧ report.failed = [] ∧ report.interrupted = false)) ∧
      (status ≠ 130 → status ≠ 0 → status = 1) ∧
      (left ≠ [] → status = 130) ∧ (status = 0 → reports ≠ []) := by
  obtain ⟨done, left, reports, last, checked, account, afterEq, rfl⟩ := perform_account performed asked
  have interrupted : statusOf checked.isCancelled reports = 130 ↔ _ := statusOf_eq_interrupted_iff
  have stopped (some_ : left ≠ []) : statusOf checked.isCancelled reports = 130 :=
    interrupted.mpr (.inl (account.isCancelled_of_left some_))
  refine ⟨done, left, reports, last, checked, account, afterEq, interrupted, fun running => ?_, ?_, stopped, ?_⟩
  · have all : left = [] := by
      by_contra some_
      exact running (stopped some_)
    have unset : checked.isCancelled = false := by
      rw [← Bool.not_eq_true]
      exact fun set => running (interrupted.mpr (.inl set))
    rw [statusOf_eq_passed_iff, RunSummary.success_iff]
    simp only [Report.isSuccess_iff]
    constructor
    · rintro ⟨-, -, clean⟩
      exact ⟨all, clean⟩
    · rintro ⟨-, clean⟩
      exact ⟨unset, account.reports_ne_nil all, clean⟩
  · intro running failing
    rcases statusOf_cases checked.isCancelled reports with status | status | status
    · exact absurd status running
    · exact absurd status failing
    · exact status
  · intro passed
    exact ((RunSummary.success_iff reports).mp (statusOf_eq_passed_iff.mp passed).2).1

/-- One module for each of two suites, beside tools that always succeed. -/
def twoSuites : FileTree where
  nodes := #[.directory 0o755 0 true [(utf8 "llvm-as-3.8", 1), (utf8 "lli-3.8", 1), (utf8 "cand", 1),
      (utf8 "irbuilder", 2)], .file 0o755 (.applet .succeed),
    .directory 0o755 0 true [(utf8 "fibonacci", 3), (utf8 "vector", 4)],
    .directory 0o755 2 true [(utf8 "a.ll", 5)], .directory 0o755 2 true [(utf8 "b.ll", 5)], .file 0o644 (.data [])]
  times := #[0, 0, 0, 0, 0, 0]
  now := 0
  cwd := 0

def twoSuitesHost (setAt : Option Nat) : Host :=
  .idle twoSuites (Env.empty.put (utf8 "PATH") (some (utf8 "/"))) [] ⟨setAt⟩ .never 1

def twoSuitesOptions : RunOptions where
  suites := ["fibonacci", "binary_vector"]
  protocol := .selfConsistency
  cacheDir := .ofString "/"
  generateCommand := none
  generateArgs := []
  tools := {
    family := .llvm38
    candidate := .ofString "/cand"
    candidateArgs := []
    timeout := 30
    jobs := 1
    showOutput := false
    reportJson := some (.ofString "/o.json") }

def twoSuitesTools : Toolchain where
  assembler := (Tool.ofProgram (.ofString "/llvm-as-3.8")).withOutput true
  interpreter := (Tool.ofProgram (.ofString "/lli-3.8")).withTimeout (some 30000)
  candidate := ((Tool.ofProgram (.ofString "/cand")).withEnv versionVariable (utf8 "3.8")).withTimeout (some 30000)

theorem perform_eq {request : Request} {schedule : Pool.Schedule} {host : Host} {status : Nat}
    (told : (perform request schedule host).1 = .ok status) :
    perform request schedule host = (.ok status, (perform request schedule host).2) :=
  Prod.ext told rfl

/-- The two suites pass, and a token set after the first one leaves out the
second. -/
theorem twoSuites_status :
    (∃ done reports last checked, Account id (twoSuitesHost none) (.run twoSuitesOptions) done [] reports last checked ∧
      ∀ report ∈ reports, report.passed ≠ []) ∧
    (perform (.run twoSuitesOptions) id (twoSuitesHost (some 30000010))).1 = .ok 130 := by
  have passed : (perform (.run twoSuitesOptions) id (twoSuitesHost none)).1 = .ok 0 := by decide +kernel
  obtain ⟨done, left, reports, last, checked, account, -, -, clean, -⟩ :=
    status_of_perform (perform_eq passed) (by nofun)
  obtain ⟨rfl, all⟩ := (clean (by decide)).mp rfl
  exact ⟨⟨done, reports, last, checked, account, fun report member => (all report member).1⟩, by decide +kernel⟩

/-- The stored report says success whenever the exit status does, and then
every suite is in it. The two agree unless all that was reported passed and the
token is found set only after the report is stored. -/
theorem written_success_iff {schedule : Pool.Schedule} {host after : Host} {request : Request} {path : Path}
    {status : Nat} (performed : perform request schedule host = (.ok status, after))
    (written : request.reportJson? = some path) :
    ∃ done left reports last checked, Account schedule host request done left reports last checked ∧
      (RunSummary.of reports).send path last = .ok checked ∧ after = checked.readToken.2 ∧
      (status = 0 → (RunSummary.of reports).success = true ∧ left = []) ∧
      (((RunSummary.of reports).success = true ↔ status = 0) ↔
        ((RunSummary.of reports).success = true → checked.isCancelled = false)) ∧
      (checked.isCancelled = false → left = []) := by
  have asked : request ≠ .list := by
    rintro rfl
    cases written
  obtain ⟨done, left, reports, last, checked, account, afterEq, rfl⟩ := perform_account performed asked
  have sent : (RunSummary.of reports).send path last = .ok checked := by
    have stored := account.stored
    rw [written] at stored
    cases stored
    assumption
  have all (unset : checked.isCancelled = false) : left = [] := by
    by_contra some_
    simp [account.isCancelled_of_left some_] at unset
  rw [statusOf_eq_passed_iff]
  refine ⟨done, left, reports, last, checked, account, sent, afterEq, ?_, ?_, all⟩
  · rintro ⟨unset, success⟩
    exact ⟨success, all unset⟩
  · constructor
    · intro agree success
      exact (agree.mp success).1
    · intro unset
      exact ⟨fun success => ⟨unset success, success⟩, And.right⟩

/-- Both suites pass, and what is stored says success. -/
theorem twoSuites_written :
    ∃ reports last checked, (RunSummary.of reports).send (.ofString "/o.json") last = .ok checked ∧
      (RunSummary.of reports).success = true := by
  have passed : (perform (.run twoSuitesOptions) id (twoSuitesHost none)).1 = .ok 0 := by decide +kernel
  obtain ⟨done, left, reports, last, checked, -, sent, -, success, -⟩ := written_success_iff (perform_eq passed) rfl
  exact ⟨reports, last, checked, sent, (success rfl).1⟩

/-- A token that is set between the suites makes the exit status 130, while the
one report there is makes for success. -/
theorem success_beside_interrupt :
    let host := twoSuitesHost (some 30000010)
    let suites := [Suite.generated "fibonacci" "fibonacci-call" "irbuilder/fibonacci",
      Suite.generated "binary_vector" "binary-vector" "irbuilder/vector"]
    let report := (Report.empty "fibonacci").file (.ofString "/irbuilder/fibonacci/a.ll") .passed
    (perform (.run twoSuitesOptions) id host).1 = .ok 130 ∧ (RunSummary.of [report]).success = true ∧
      selectSuites twoSuitesOptions.suites .llvm38 .selfConsistency = .ok suites ∧
      (resolve twoSuitesOptions.tools host).1 = .ok twoSuitesTools ∧
      (runSuites twoSuitesTools.responder twoSuitesOptions ⟨1, id⟩ suites [] (host, ())).1 = .ok [report] := by
  intro host suites report
  exact ⟨by decide +kernel, by decide +kernel, by decide +kernel, by decide +kernel, by decide +kernel⟩

end ExitParity.Session
