import ExitParity.Family
import ExitParity.Json.Reader
import ExitParity.Plan
import ExitParity.Report

namespace ExitParity

abbrev Members := List (Option String × Json)

namespace Json

/-- Every value of a member called `key`, in order. -/
def valuesOf (key : String) (members : Members) : List Json :=
  (members.filter fun member => member.1 == some key).map (·.2)

/-- The value of a member that has to be there exactly once. -/
def required? (key : String) (members : Members) : Option Json :=
  match valuesOf key members with
  | [value] => some value
  | _ => none

/-- The value of a member that may be missing; twice is too often. -/
def optional? (key : String) (members : Members) : Option (Option Json) :=
  match valuesOf key members with
  | [] => some none
  | [value] => some (some value)
  | _ => none

/-- Whether every key is a string with a value. -/
def keysHold (members : Members) : Bool := members.all fun member => member.1.isSome

def toText? : Json → Option String
  | .string text => text
  | _ => none

def toBool? : Json → Option Bool
  | .bool value => some value
  | _ => none

def toCount? : Json → Option Nat
  | .number (.natural value) => some value
  | _ => none

/-- A string or nothing; `null` is nothing. -/
def toOptionalText? : Json → Option (Option String)
  | .null => some none
  | json => json.toText?.map some

def toPath? (json : Json) : Option Path := json.toText?.map Path.ofString

def toPaths? : Json → Option (List Path)
  | .array items => items.mapM toPath?
  | _ => none

/-- The name of a case without content: a string, or an object whose only
member has that name and the value `null`. -/
def caseName? : Json → Option String
  | .string text => text
  | .object [(key, .null)] => key
  | _ => none

end Json

def Outcome.ofJson? (json : Json) : Option Outcome := do
  let name ← json.caseName?
  Outcome.all.find? (·.tag == name)

def Protocol.ofJson? (json : Json) : Option Protocol := do
  let name ← json.caseName?
  Protocol.all.find? (·.name == name)

def Family.ofJson? (json : Json) : Option Family := do
  let name ← json.caseName?
  Family.all.find? (·.tag == name)

namespace Verdict

/-- The cases of a verdict, by tag and by position. -/
inductive Case where
  | passed
  | failed
  | empty
  | interrupted
  deriving DecidableEq

def Case.ofTag? : String → Option Case
  | "passed" => some .passed
  | "failed" => some .failed
  | "empty" => some .empty
  | "interrupted" => some .interrupted
  | _ => none

def Case.ofIndex? (index : Nat) : Option Case :=
  [Case.passed, .failed, .empty, .interrupted][index]?

/-- The verdict of a case with its counts among the members. -/
def ofMembers? (members : Members) : Case → Option Verdict
  | .passed => do
    let total ← (← Json.required? "total" members).toCount?
    some (.passed total)
  | .failed => do
    let failures ← (← Json.required? "failed" members).toCount?
    let total ← (← Json.required? "total" members).toCount?
    some (.failed failures total)
  | .empty => some .empty
  | .interrupted => some .interrupted

/-- The verdict of a case with its counts in order. -/
def ofItems? (items : List Json) : Case → Option Verdict
  | .passed => match items with
    | [total] => total.toCount?.map .passed
    | _ => none
  | .failed => match items with
    | [failures, total] => do
      let failures ← failures.toCount?
      let total ← total.toCount?
      some (.failed failures total)
    | _ => none
  | .empty => if items.isEmpty then some .empty else none
  | .interrupted => if items.isEmpty then some .interrupted else none

/-- Read a verdict that stands by itself. What stands beside the tag is held
as a value before the tag is known to need it. -/
def ofJson? : Json → Option Verdict
  | .object members => do
    let case ← Case.ofTag? (← (← Json.required? "verdict" members).toText?)
    if Json.holdableMembers (Json.depthLimit - 1) members then ofMembers? members case else none
  | .array (tag :: items) => do
    let case ← Case.ofTag? (← tag.toText?)
    if Json.holdableItems (Json.depthLimit - 1) items then ofItems? items case else none
  | _ => none

/-- The case behind a tag that was held as a value: its name or its position. -/
def Case.ofHeld? : Json → Option Case
  | .string (some tag) => Case.ofTag? tag
  | .number (.natural index) => Case.ofIndex? index
  | _ => none

end Verdict

namespace Report

/-- Read a report from an object, where unknown members are passed over, or
from an array with a value for every member. -/
def ofJson? : Json → Option Report
  | .object members => do
    if !Json.keysHold members then none
    let suite ← (← Json.required? "suite" members).toText?
    let passed ← (← Json.required? "passed" members).toPaths?
    let failed ← (← Json.required? "failed" members).toPaths?
    let failedReference ← (← Json.required? "failed_reference" members).toPaths?
    let wrong ← (← Json.required? "wrong" members).toPaths?
    let prepareFailure ← match ← Json.optional? "prepare_failure" members with
      | none => some none
      | some json => json.toOptionalText?
    let interrupted ← (← Json.required? "interrupted" members).toBool?
    some { suite, passed, failed, failedReference, wrong, prepareFailure, interrupted }
  | .array [suite, passed, failed, failedReference, wrong, prepareFailure, interrupted] => do
    let suite ← suite.toText?
    let passed ← passed.toPaths?
    let failed ← failed.toPaths?
    let failedReference ← failedReference.toPaths?
    let wrong ← wrong.toPaths?
    let prepareFailure ← prepareFailure.toOptionalText?
    let interrupted ← interrupted.toBool?
    some { suite, passed, failed, failedReference, wrong, prepareFailure, interrupted }
  | _ => none

/-- Read the object of one suite. Every member but the report is held for the
verdict, three levels deep in the whole text. -/
def entryOfJson? : Json → Option (Verdict × Report)
  | .object members => do
    if !Json.keysHold members then none
    let report ← Report.ofJson? (← Json.required? "report" members)
    let others := members.filter fun member => member.1 != some "report"
    if !Json.holdableMembers (Json.depthLimit - 3) others then none
    let case ← Verdict.Case.ofHeld? (← Json.required? "verdict" others)
    let verdict ← Verdict.ofMembers? others case
    some (verdict, report)
  | _ => none

end Report

namespace RunSummary

def suitesOfJson? : Json → Option (List (Verdict × Report))
  | .array items => items.mapM Report.entryOfJson?
  | _ => none

def ofJson? : Json → Option RunSummary
  | .object members => do
    if !Json.keysHold members then none
    let success ← (← Json.required? "success" members).toBool?
    let suites ← suitesOfJson? (← Json.required? "suites" members)
    some { success, suites }
  | .array [success, suites] => do
    let success ← success.toBool?
    let suites ← suitesOfJson? suites
    some { success, suites }
  | _ => none

end RunSummary
end ExitParity
