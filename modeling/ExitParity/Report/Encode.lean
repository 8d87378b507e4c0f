import ExitParity.Json.Printer
import ExitParity.Report

namespace ExitParity

def Json.text (text : String) : Json := .string (some text)

def Json.count (value : Nat) : Json := .number (.natural value)

/-- A path as a string; only a path that is text throughout has one. -/
def Path.toJson? (path : Path) : Option Json :=
  (Utf8.text? path.bytes).map Json.text

/-- A list of paths, if every one of them has a string. -/
def Path.listToJson? (paths : List Path) : Option Json :=
  (paths.mapM Path.toJson?).map Json.array

namespace Verdict

/-- The tag and the counts, as members of the object that holds them. -/
def members (verdict : Verdict) : List (Option String × Json) :=
  (some "verdict", Json.text verdict.tag) :: match verdict with
    | .passed total => [(some "total", Json.count total)]
    | .failed failures total => [(some "failed", Json.count failures), (some "total", Json.count total)]
    | .empty | .interrupted => []

def toJson (verdict : Verdict) : Json := .object verdict.members

end Verdict

/-- The object of a report. A missing preparation failure has no member. -/
def Report.toJson? (report : Report) : Option Json := do
  let passed ← Path.listToJson? report.passed
  let failed ← Path.listToJson? report.failed
  let failedReference ← Path.listToJson? report.failedReference
  let wrong ← Path.listToJson? report.wrong
  some (.object (
    [(some "suite", Json.text report.suite), (some "passed", passed), (some "failed", failed),
      (some "failed_reference", failedReference), (some "wrong", wrong)] ++
    (report.prepareFailure.toList.map fun failure => (some "prepare_failure", Json.text failure)) ++
    [(some "interrupted", .bool report.interrupted)]))

/-- The object of one suite: the verdict's members beside the report. -/
def Report.child? (verdict : Verdict) (report : Report) : Option Json :=
  report.toJson?.map fun inner => .object (verdict.members ++ [(some "report", inner)])

def RunSummary.toJson? (summary : RunSummary) : Option Json := do
  let entries ← summary.suites.mapM fun (verdict, report) => report.child? verdict
  some (.object [(some "success", .bool summary.success), (some "suites", .array entries)])

/-- The text of the machine readable report, if every path has a string. -/
def RunSummary.text? (summary : RunSummary) : Option String :=
  summary.toJson?.map fun json => String.ofList (json.pretty 0)

end ExitParity
