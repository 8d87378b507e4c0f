import ExitParity.Outcome
import ExitParity.Path

namespace ExitParity

/-- The overall result of a suite. -/
inductive Verdict where
  | passed (total : Nat)
  | failed (failed total : Nat)
  /-- Nothing was compared, which is never a success. -/
  | empty
  | interrupted
  deriving DecidableEq

namespace Verdict

def message : Verdict → String
  | .passed total => s!"Passed all {total} tests!"
  | .failed failures total => s!"Failed {failures} of {total} tests!"
  | .empty => "There is something odd with the testsuite, 0 tests executed!"
  | .interrupted => "Interrupted, results are incomplete!"

/-- The spelling used in machine readable text. -/
def tag : Verdict → String
  | .passed .. => "passed"
  | .failed .. => "failed"
  | .empty => "empty"
  | .interrupted => "interrupted"

def isPassed : Verdict → Bool
  | .passed .. => true
  | _ => false

end Verdict

/-- The files of a suite by outcome, each list in order of arrival. -/
structure Report where
  suite : String
  passed : List Path
  failed : List Path
  failedReference : List Path
  wrong : List Path
  /-- What went wrong with the regeneration of the artifacts. -/
  prepareFailure : Option String
  interrupted : Bool
  deriving DecidableEq

namespace Report

def empty (suite : String) : Report where
  suite := suite
  passed := []
  failed := []
  failedReference := []
  wrong := []
  prepareFailure := none
  interrupted := false

/-- The number of tests. Crashed references and wrong baselines are none. -/
def total (report : Report) : Nat := report.passed.length + report.failed.length

def processed (report : Report) : Nat :=
  report.total + report.failedReference.length + report.wrong.length

/-- An interrupt outranks failures, and failures outrank an empty suite. -/
def verdict (report : Report) : Verdict :=
  if report.interrupted then .interrupted
  else if !report.failed.isEmpty then .failed report.failed.length report.total
  else if report.total = 0 then .empty
  else .passed report.total

def isSuccess (report : Report) : Bool := report.verdict.isPassed

def bucket (report : Report) : Outcome → List Path
  | .passed => report.passed
  | .failed => report.failed
  | .failedReference => report.failedReference
  | .wrong => report.wrong

/-- File a path under its outcome. -/
def file (report : Report) (path : Path) : Outcome → Report
  | .passed => { report with passed := report.passed ++ [path] }
  | .failed => { report with failed := report.failed ++ [path] }
  | .failedReference => { report with failedReference := report.failedReference ++ [path] }
  | .wrong => { report with wrong := report.wrong ++ [path] }

theorem bucket_file (report : Report) (path : Path) (outcome other : Outcome) :
    (report.file path outcome).bucket other =
      if other = outcome then report.bucket other ++ [path] else report.bucket other := by
  cases outcome <;> cases other <;> rfl

end Report

/-- The result of a whole run: it is a success when at least one suite ran
and every suite passed. -/
structure RunSummary where
  success : Bool
  suites : List (Verdict × Report)
  deriving DecidableEq

def RunSummary.of (reports : List Report) : RunSummary where
  success := !reports.isEmpty && reports.all Report.isSuccess
  suites := reports.map fun report => (report.verdict, report)

end ExitParity
