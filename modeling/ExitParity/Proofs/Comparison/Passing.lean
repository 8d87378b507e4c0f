import ExitParity.Proofs.Comparison.Tasks

namespace ExitParity

open Comparison

/-- The same call on the same file, however its path is spelled. -/
def Call.same : Call → Call → Bool
  | .assemble path, .assemble other => path.same other
  | .interpret path, .interpret other => path.same other
  | .runCandidate path, .runCandidate other => path.same other
  | _, _ => false

namespace Path

end Path

namespace Plan

/-- Every execution of a plan, references first. -/
def runs (plan : Plan) : List Call :=
  plan.reference.map (fun artifact => .interpret artifact.executable) ++
    (plan.interpreted.map (fun artifact => .interpret artifact.executable) ++
    plan.candidate.map fun artifact => .runCandidate artifact.executable)

/-- Two plans with the same artifacts in each of their sets. -/
structure Alike (plan other : Plan) : Prop where
  reference (artifact : Artifact) : artifact ∈ plan.reference ↔ artifact ∈ other.reference
  interpreted (artifact : Artifact) : artifact ∈ plan.interpreted ↔ artifact ∈ other.interpreted
  candidate (artifact : Artifact) : artifact ∈ plan.candidate ↔ artifact ∈ other.candidate
  expectedExit : plan.expectedExit = other.expectedExit

variable {plan other : Plan} {result : Call → Execution}

theorem Alike.symm (alike : plan.Alike other) : other.Alike plan :=
  ⟨fun artifact => (alike.reference artifact).symm, fun artifact => (alike.interpreted artifact).symm,
    fun artifact => (alike.candidate artifact).symm, alike.expectedExit.symm⟩

end Plan

namespace Comparison

variable {σ : Type} {result : Call → Execution} {preset : Option Int}

/-- No task of a list is decisive when the calls have these results. -/
def Passes (preset : Option Int) (result : Call → Execution) : List Task → List Execution → Prop
  | [], _ => True
  | task :: rest, earlier =>
    task.role.decision? preset earlier (.ok (result task.call)) = none ∧
      Passes preset result rest (earlier ++ task.role.executions (.ok (result task.call)))

instance Ending.decidableEq : DecidableEq Ending
  | .ok outcome, .ok other => decidable_of_iff (outcome = other) (by simp)
  | .error error, .error other => decidable_of_iff (error = other) (by simp)
  | .ok _, .error _ | .error _, .ok _ => isFalse (by simp)

end Comparison

namespace Plan

variable {plan : Plan} {result : Call → Execution}

end Plan

end ExitParity
