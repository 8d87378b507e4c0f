namespace ExitParity

/-- A course of questions in which the answers decide what is asked next, and
what it comes to in the end. -/
inductive Dialogue (κ α ρ : Type) where
  | ended (result : ρ)
  | ask (question : κ) (next : α → Dialogue κ α ρ)

namespace Dialogue

variable {κ α ρ σ : Type}

/-- Let the questions be answered one after another. -/
def run (answer : κ → σ → α × σ) : Dialogue κ α ρ → σ → ρ × σ
  | .ended result, s => (result, s)
  | .ask question next, s => run answer (next (answer question s).1) (answer question s).2

end Dialogue
end ExitParity
