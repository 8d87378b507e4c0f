namespace ExitParity

/-- The judgement on one comparison. -/
inductive Outcome where
  /-- Every run gave the expected exit code. -/
  | passed
  /-- A module did not assemble, or a run gave another exit code. -/
  | failed
  /-- The reference run itself crashed, timed out or contradicted another. -/
  | failedReference
  /-- The reference run ended with another code than the one required of it. -/
  | wrong
  deriving DecidableEq

namespace Outcome

/-- The progress symbol of one comparison. -/
def symbol : Outcome → Char
  | .passed => '.'
  | .failed => 'E'
  | .failedReference => 'S'
  | .wrong => 'W'

/-- Whether the comparison is counted among the tests. -/
def countsTowardTotal : Outcome → Bool
  | .passed | .failed => true
  | .failedReference | .wrong => false

def label : Outcome → String
  | .passed => "passed"
  | .failed => "failed"
  | .failedReference => "failed-reference"
  | .wrong => "wrong"

/-- The spelling used in machine readable text. -/
def tag : Outcome → String
  | .passed => "passed"
  | .failed => "failed"
  | .failedReference => "failed_reference"
  | .wrong => "wrong"

def all : List Outcome := [.passed, .failed, .failedReference, .wrong]

end Outcome
end ExitParity
