import ExitParity.Comparison

namespace ExitParity

namespace Path

theorem same_iff {path other : Path} : path.same other = true ↔ path.components = other.components := beq_iff_eq

/-- Each path where it comes first, under whatever spelling. -/
def firsts : List Path → List Path
  | [] => []
  | path :: rest => path :: (firsts rest).filter fun other => !path.same other

end Path

theorem Execution.success_iff {run : Execution} : run.success = true ↔ ¬ (run.timedOut = true ∨ run.exitCode ≠ 0) := by
  simp [success]

namespace Comparison

/-- The code expected behind some executions: the preset one, or else that of
the first. -/
def expected? (preset : Option Int) (earlier : List Execution) : Option Int :=
  preset.or (earlier.head?.map Execution.exitCode)

/-- What a call of a comparison is made for. -/
inductive Role where
  | assembly
  | reference
  /-- A run that has to reproduce the expected code. -/
  | reproduction
  deriving DecidableEq

structure Task where
  role : Role
  call : Call

namespace Role

/-- The executions among the answers. The code of an assembler is none. -/
def executions : Role → Answer → List Execution
  | .assembly, _ => []
  | _, .ok run => [run]
  | _, .error _ => []

/-- What an answer decides, behind the executions so far. A reference that has
not the preset code is wrong, and one that differs from the first has failed. -/
def decision? (preset : Option Int) (earlier : List Execution) : Role → Answer → Option Ending
  | _, .error error => some (.error error)
  | .assembly, .ok run => if run.timedOut ∨ run.exitCode ≠ 0 then some (.ok .failed) else none
  | .reference, .ok run =>
    if run.isFatal then some (.ok .failedReference)
    else match preset, earlier.head? with
      | some code, _ => if run.exitCode ≠ code then some (.ok .wrong) else none
      | none, some first => if run.exitCode ≠ first.exitCode then some (.ok .failedReference) else none
      | none, none => none
  | .reproduction, .ok run =>
    if run.timedOut then some (.ok .failed)
    else match expected? preset earlier with
      | some code => if run.exitCode ≠ code then some (.ok .failed) else none
      | none => if run.isFatal then some (.ok .failed) else none

end Role

/-- Carry out tasks in order until an answer is decisive. -/
def follow (preset : Option Int) : List Task → List Execution → Course
  | [], _ => .ended (.ok .passed)
  | task :: rest, earlier => .ask task.call fun answer =>
    match task.role.decision? preset earlier answer with
    | some ending => .ended ending
    | none => follow preset rest (earlier ++ task.role.executions answer)

end Comparison

open Comparison

namespace Plan

def textuals (artifacts : List Artifact) : List Path :=
  (artifacts.filter (·.kind.needsAssembly)).map Artifact.path

def assemblies (plan : Plan) : List Task :=
  (Path.firsts (textuals plan.inputs)).map fun path => ⟨.assembly, .assemble path⟩

def executed (plan : Plan) : List Task :=
  plan.reference.map (fun artifact => ⟨.reference, .interpret artifact.executable⟩) ++
    (plan.interpreted.map (fun artifact => ⟨.reproduction, .interpret artifact.executable⟩) ++
    plan.candidate.map fun artifact => ⟨.reproduction, .runCandidate artifact.executable⟩)

/-- Everything a comparison may have to do: assemble every textual file once,
then run the references, the interpreted files and the candidates. -/
def tasks (plan : Plan) : List Task := plan.assemblies ++ plan.executed

def calls (plan : Plan) : List Call := plan.tasks.map Task.call

end Plan

namespace Comparison

variable {preset : Option Int} {rest : List Task}

/-- The textual files still to be assembled behind those that are. -/
def unassembled (artifacts : List Artifact) (assembled : List Path) : List Path :=
  (Path.firsts (Plan.textuals artifacts)).filter fun path => !assembled.any (·.same path)

theorem unassembled_cons_passed {artifact : Artifact} {artifacts : List Artifact} {assembled : List Path}
    (passed : (!artifact.kind.needsAssembly || assembled.any (·.same artifact.path)) = true) :
    unassembled (artifact :: artifacts) assembled = unassembled artifacts assembled := by
  by_cases needed : artifact.kind.needsAssembly = true
  · have known : assembled.any (·.same artifact.path) = true := by simpa [needed] using passed
    simp only [unassembled, Plan.textuals, List.filter_cons, needed, if_true, List.map_cons, Path.firsts, known,
      Bool.not_true, Bool.false_eq_true, if_false, List.filter_filter]
    refine List.filter_congr fun other _ => ?_
    by_cases equal : artifact.path.same other = true
    · obtain ⟨path, member, same⟩ := List.any_eq_true.mp known
      have again : assembled.any (·.same other) = true :=
        List.any_eq_true.mpr ⟨path, member, Path.same_iff.mpr ((Path.same_iff.mp same).trans (Path.same_iff.mp equal))⟩
      simp [again]
    · simp [equal]
  · simp [unassembled, Plan.textuals, needed]

theorem unassembled_cons_new {artifact : Artifact} {artifacts : List Artifact} {assembled : List Path}
    (new : ¬ (!artifact.kind.needsAssembly || assembled.any (·.same artifact.path)) = true) :
    unassembled (artifact :: artifacts) assembled =
      artifact.path :: unassembled artifacts (assembled ++ [artifact.path]) := by
  simp only [Bool.or_eq_true, Bool.not_eq_true', not_or, Bool.not_eq_false, Bool.not_eq_true] at new
  obtain ⟨needed, unknown⟩ := new
  simp only [unassembled, Plan.textuals, List.filter_cons, needed, if_true, List.map_cons, Path.firsts, unknown,
    Bool.not_false, List.filter_filter, List.any_append, List.any_cons, List.any_nil, Bool.or_false, Bool.not_or]

theorem assembleAll_eq (artifacts : List Artifact) (assembled : List Path) :
    assembleAll (follow preset rest []) artifacts assembled =
      follow preset ((unassembled artifacts assembled).map (fun path => ⟨.assembly, .assemble path⟩) ++ rest) [] := by
  induction artifacts generalizing assembled with
  | nil => rfl
  | cons artifact artifacts ih =>
    simp only [assembleAll]
    split
    · next passed => rw [ih, unassembled_cons_passed passed]
    · next new =>
      rw [unassembled_cons_new new]
      simp only [Course.after, List.map_cons, List.cons_append, follow]
      congr 1
      funext answer
      cases answer with
      | error error => rfl
      | ok run =>
        by_cases failed : run.timedOut = true ∨ run.exitCode ≠ 0
        · have unsuccessful : ¬ run.success = true := fun success => Execution.success_iff.mp success failed
          simp [Role.decision?, failed, unsuccessful]
        · have success : run.success = true := Execution.success_iff.mpr failed
          simp [Role.decision?, Role.executions, failed, success, ih]

/-- The expectation that a comparison has come to, with its origin. -/
def expectationOf (preset : Option Int) (earlier : List Execution) : Option Expectation :=
  match preset with
  | some code => some (.baseline code)
  | none => earlier.head?.map fun first => .reference first.exitCode

theorem expectationOf_code (preset : Option Int) (earlier : List Execution) :
    (expectationOf preset earlier).map Expectation.code = expected? preset earlier := by
  cases preset with
  | some code => rfl
  | none => cases earlier <;> rfl

/-- A reference run decides what it should, and leaves the expectation that
the executions including it give. -/
theorem settle_eq (preset : Option Int) (earlier : List Execution) (run : Execution) :
    match Role.decision? preset earlier .reference (.ok run) with
    | some ending => ∃ outcome, ending = .ok outcome ∧ settle (expectationOf preset earlier) run = .error outcome
    | none => ∃ settled, settle (expectationOf preset earlier) run = .ok settled ∧
        some settled = expectationOf preset (earlier ++ [run]) := by
  by_cases fatal : run.isFatal = true
  · simp [Role.decision?, settle, fatal]
  · cases preset with
    | some code =>
      by_cases equal : run.exitCode = code
      · simp [Role.decision?, settle, fatal, expectationOf, equal]
      · simp [Role.decision?, settle, fatal, expectationOf, equal, Ne.symm equal]
    | none =>
      cases earlier with
      | nil => simp [Role.decision?, settle, fatal, expectationOf]
      | cons first later =>
        by_cases equal : run.exitCode = first.exitCode
        · simp [Role.decision?, settle, fatal, expectationOf, equal]
        · simp [Role.decision?, settle, fatal, expectationOf, equal, Ne.symm equal]

theorem runReferences_eq (next : Option Expectation → Course)
    (continued : ∀ earlier, next (expectationOf preset earlier) = follow preset rest earlier)
    (artifacts : List Artifact) (earlier : List Execution) :
    runReferences next artifacts (expectationOf preset earlier) =
      follow preset (artifacts.map (fun artifact => ⟨.reference, .interpret artifact.executable⟩) ++ rest) earlier := by
  induction artifacts generalizing earlier with
  | nil => exact continued earlier
  | cons artifact artifacts ih =>
    simp only [runReferences, Course.after, List.map_cons, List.cons_append, follow]
    congr 1
    funext answer
    cases answer with
    | error error => rfl
    | ok run =>
      have settled := settle_eq preset earlier run
      split at settled
      · next =>
        obtain ⟨outcome, rfl, ended⟩ := settled
        simp [ended]
      · next =>
        obtain ⟨expectation, ended, next⟩ := settled
        simp only [ended, next, ih, Role.executions]

theorem reproduce_eq (preset : Option Int) (earlier : List Execution) (run : Execution) :
    match Role.decision? preset earlier .reproduction (.ok run) with
    | some ending => ∃ outcome, ending = .ok outcome ∧
        reproduce (expected? preset earlier) run = .error outcome
    | none => ∃ code, reproduce (expected? preset earlier) run = .ok code ∧
        some code = expected? preset (earlier ++ [run]) := by
  by_cases late : run.timedOut = true
  · simp [Role.decision?, reproduce, late]
  · cases preset with
    | some code =>
      by_cases equal : run.exitCode = code
      · simp [Role.decision?, expected?, reproduce, late, equal]
      · simp [Role.decision?, expected?, reproduce, late, equal, Ne.symm equal]
    | none =>
      cases earlier with
      | nil => by_cases fatal : run.isFatal = true <;> simp [Role.decision?, expected?, reproduce, late, fatal]
      | cons first later =>
        by_cases equal : run.exitCode = first.exitCode
        · simp [Role.decision?, expected?, reproduce, late, equal]
        · simp [Role.decision?, expected?, reproduce, late, equal, Ne.symm equal]

theorem runReproductions_eq (next : Option Int → Course)
    (continued : ∀ earlier, next (expected? preset earlier) = follow preset rest earlier)
    (call : Path → Call) (artifacts : List Artifact) (earlier : List Execution) :
    runReproductions call next artifacts (expected? preset earlier) =
      follow preset (artifacts.map (fun artifact => ⟨.reproduction, call artifact.executable⟩) ++ rest) earlier := by
  induction artifacts generalizing earlier with
  | nil => exact continued earlier
  | cons artifact artifacts ih =>
    simp only [runReproductions, Course.after, List.map_cons, List.cons_append, follow]
    congr 1
    funext answer
    cases answer with
    | error error => rfl
    | ok run =>
      have reproduced := reproduce_eq preset earlier run
      split at reproduced
      · next =>
        obtain ⟨outcome, rfl, ended⟩ := reproduced
        simp [ended]
      · next =>
        obtain ⟨code, ended, next⟩ := reproduced
        simp only [ended, next, ih, Role.executions]

end Comparison

/-- A comparison follows its tasks: the three phases with their accumulators
are one walk over one list. -/
theorem Plan.course_eq_follow (plan : Plan) : plan.course = follow plan.expectedExit plan.tasks [] := by
  have last (earlier : List Execution) : .ended (.ok .passed) = follow plan.expectedExit [] earlier := rfl
  have candidates := runReproductions_eq (fun _ => .ended (.ok .passed)) last .runCandidate plan.candidate
  have interpreted := runReproductions_eq
    (runReproductions .runCandidate (fun _ => .ended (.ok .passed)) plan.candidate) candidates .interpret
    plan.interpreted
  have references := runReferences_eq
    (fun expectation => runReproductions .interpret
      (runReproductions .runCandidate (fun _ => .ended (.ok .passed)) plan.candidate) plan.interpreted
      (expectation.map Expectation.code))
    (fun earlier => by rw [expectationOf_code]; exact interpreted earlier) plan.reference []
  have nothing : plan.expectedExit.map .baseline = expectationOf plan.expectedExit [] := by
    cases plan.expectedExit <;> rfl
  have assembled : unassembled plan.inputs [] = Path.firsts (textuals plan.inputs) := by
    simp [unassembled]
  unfold Plan.course
  simp only [nothing]
  rw [references, assembleAll_eq, assembled]
  simp [tasks, assemblies, executed]

end ExitParity
