import ExitParity.Proofs.Comparison.Tasks

namespace ExitParity

open Comparison

variable {σ : Type}

/-- A runner that also keeps a list of its calls and answers. -/
def Runner.logged (runner : Runner σ) : Runner (σ × List (Call × Answer)) := fun call (s, log) =>
  let (answer, s) := runner call s
  (answer, (s, log ++ [(call, answer)]))

namespace Plan

/-- The executions among the first answers of a comparison. -/
def executions (plan : Plan) (answers : List Answer) : List Execution :=
  (plan.tasks.zip answers).flatMap fun pair => pair.1.role.executions pair.2

/-- What the next answer decides, by the task that it is given to. -/
def decision? (plan : Plan) (answers : List Answer) (answer : Answer) : Option Ending :=
  plan.tasks[answers.length]?.bind fun task => task.role.decision? plan.expectedExit (plan.executions answers) answer

/-- No answer so far was decisive. -/
def Undecided (plan : Plan) (log : List (Call × Answer)) : Prop :=
  ∀ before call answer after, log = before ++ (call, answer) :: after →
    plan.decision? (before.map Prod.snd) answer = none

variable {plan : Plan}

theorem Undecided.next {log : List (Call × Answer)} (undecided : plan.Undecided log) {call : Call} {answer : Answer}
    (decision : plan.decision? (log.map Prod.snd) answer = none) : plan.Undecided (log ++ [(call, answer)]) := by
  intro before other given after split
  rcases List.eq_nil_or_concat after with rfl | ⟨rest, last, rfl⟩
  · obtain ⟨rfl, same⟩ := List.append_inj' split rfl
    simp only [List.cons.injEq, Prod.mk.injEq, and_true] at same
    exact same.2 ▸ decision
  · rw [List.concat_eq_append, ← List.cons_append, ← List.append_assoc] at split
    exact undecided before other given rest (List.append_inj' split rfl).1

end Plan

end ExitParity
