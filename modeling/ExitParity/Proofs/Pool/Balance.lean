import ExitParity.Proofs.Pool.Token
import Mathlib.Algebra.Order.Group.Multiset
import Mathlib.Tactic.Abel

namespace ExitParity.Pool

variable {ζ α ω β σ : Type} {duty : Duty ζ α ω β σ}

/-- An item pulled and not yet begun. -/
@[simp]
def Caller.held : Caller α ω β → List α
  | .checking item | .working item => [item]
  | _ => []

/-- An item whose work has not returned. -/
@[simp]
def Caller.occupied : Caller α ω β → List α
  | .busy item _ => [item]
  | _ => []

/-- A result that has not been collected. -/
@[simp]
def Caller.carried : Caller α ω β → List (α × β)
  | .collecting item result => [(item, result)]
  | _ => []

@[simp]
def Worker.held : Worker α ω β → List α
  | .working item => [item]
  | _ => []

@[simp]
def Worker.occupied : Worker α ω β → List α
  | .busy item _ => [item]
  | _ => []

@[simp]
def Worker.carried : Worker α ω β → List (α × β)
  | .sending item result => [(item, result)]
  | _ => []

/-- What the members of a crew have together. -/
def together {γ : Type} (view : Worker α ω β → List γ) (workers : List (Worker α ω β)) : Multiset γ :=
  (workers.map fun worker => (view worker : Multiset γ)).sum

theorem together_set {γ : Type} (view : Worker α ω β → List γ) {workers : List (Worker α ω β)} {index : Nat}
    {worker : Worker α ω β} (found : workers[index]? = some worker) (next : Worker α ω β) :
    together view (workers.set index next) + (view worker : Multiset γ) =
      together view workers + (view next : Multiset γ) := by
  induction workers generalizing index with
  | nil => simp at found
  | cons first rest ih =>
    cases index with
    | zero =>
      obtain rfl : first = worker := by simpa using found
      simp only [together, List.set_cons_zero, List.map_cons, List.sum_cons]
      abel
    | succ index =>
      have inRest := ih (by simpa using found)
      simp only [together, List.set_cons_succ, List.map_cons, List.sum_cons] at inRest ⊢
      rw [add_assoc, inRest, add_assoc]

/-- What one member takes in and gives out, all of them do together. -/
theorem together_move {γ : Type} (view : Worker α ω β → List γ) {workers : List (Worker α ω β)} {index : Nat}
    {worker next : Worker α ω β} (found : workers[index]? = some worker) {into out : Multiset γ}
    (member : (view next : Multiset γ) + out = (view worker : Multiset γ) + into) :
    together view (workers.set index next) + out = together view workers + into := by
  apply add_right_cancel (b := (view worker : Multiset γ))
  calc together view (workers.set index next) + out + view worker
      = together view (workers.set index next) + view worker + out := add_right_comm _ _ _
    _ = together view workers + (view next + out) := by rw [together_set view found, add_assoc]
    _ = together view workers + into + view worker := by rw [member]; abel

/-- When every member has nothing, they have nothing together. -/
theorem together_eq_zero {γ : Type} (view : Worker α ω β → List γ) {workers : List (Worker α ω β)}
    (nothing : ∀ worker ∈ workers, view worker = []) : together view workers = 0 := by
  induction workers with
  | nil => rfl
  | cons first rest ih =>
    have inRest := ih fun worker member => nothing worker (List.mem_cons_of_mem _ member)
    simp only [together, List.map_cons, List.sum_cons] at inRest ⊢
    simp [inRest, nothing first List.mem_cons_self]

def Crew.held : Crew α ω β → Multiset α
  | .alone caller => caller.held
  | .team workers _ => together Worker.held workers

def Crew.occupied : Crew α ω β → Multiset α
  | .alone caller => caller.occupied
  | .team workers _ => together Worker.occupied workers

def Crew.carried : Crew α ω β → Multiset (α × β)
  | .alone caller => caller.carried
  | .team workers sent => together Worker.carried workers + sent

/-- The number of workers, when the caller does not work alone. -/
def Crew.staff : Crew α ω β → Option Nat
  | .alone _ => none
  | .team workers _ => some workers.length

theorem Crew.Moves.staff_eq {crew next : Crew α ω β} {event : Event} {deed : Deed α ω β}
    (move : crew.Moves event deed next) : next.staff = crew.staff := by
  cases move <;> simp [Crew.staff]

theorem Run.staff_eq {first last : State ζ α ω β σ} {trace : Trace α ω β} (run : Run duty first trace last) :
    last.crew.staff = first.crew.staff := by
  induction run with
  | start => rfl
  | next previous step ih => rw [step.crew.staff_eq, ih]

theorem Caller.Moves.occupied_balance {caller next : Caller α ω β} {deed : Deed α ω β} (move : caller.Moves deed next) :
    (next.occupied : Multiset α) + (deed.returns.map Prod.fst : List α) =
      (caller.occupied : Multiset α) + (deed.begins : Multiset α) := by
  cases move with
  | begin item stage | advance item rest stage => cases stage <;> simp [Caller.atStage]
  | exhaust | pull | heed | check | collect => simp

theorem Worker.Moves.occupied_balance {worker next : Worker α ω β} {deed : Deed α ω β} (move : worker.Moves deed next) :
    (next.occupied : Multiset α) + (deed.returns.map Prod.fst : List α) =
      (worker.occupied : Multiset α) + (deed.begins : Multiset α) := by
  cases move with
  | begin item stage | advance item rest stage => cases stage <;> simp [Worker.atStage]
  | exhaust | pull | heed | check | send => simp

/-- What is begun either returns in the same step or is in work after it. -/
theorem Crew.Moves.occupied_balance {crew next : Crew α ω β} {event : Event} {deed : Deed α ω β}
    (move : crew.Moves event deed next) :
    next.occupied + (deed.returns.map Prod.fst : List α) = crew.occupied + (deed.begins : Multiset α) := by
  cases move with
  | caller move => exact move.occupied_balance
  | worker found move => exact together_move Worker.occupied found move.occupied_balance
  | collect | cancel => simp [Crew.occupied]

theorem Caller.Moves.carried_balance {caller next : Caller α ω β} {deed : Deed α ω β} (move : caller.Moves deed next) :
    (next.carried : Multiset (α × β)) + (deed.collects : Multiset (α × β)) =
      (caller.carried : Multiset (α × β)) + (deed.returns : Multiset (α × β)) := by
  cases move with
  | begin item stage | advance item rest stage => cases stage <;> simp [Caller.atStage]
  | exhaust | pull | heed | check | collect => simp

theorem Worker.Moves.carried_balance {worker next : Worker α ω β} {deed : Deed α ω β} (move : worker.Moves deed next) :
    (next.carried : Multiset (α × β)) + (deed.sends : Multiset (α × β)) =
      (worker.carried : Multiset (α × β)) + (deed.returns : Multiset (α × β)) := by
  cases move with
  | begin item stage | advance item rest stage => cases stage <;> simp [Worker.atStage]
  | exhaust | pull | heed | check | send => simp

theorem Worker.Moves.collects_eq_nil {worker next : Worker α ω β} {deed : Deed α ω β} (move : worker.Moves deed next) :
    deed.collects = [] := by
  cases move <;> rfl

/-- What returns is either collected in the same step or carried after it. -/
theorem Crew.Moves.carried_balance {crew next : Crew α ω β} {event : Event} {deed : Deed α ω β}
    (move : crew.Moves event deed next) :
    next.carried + (deed.collects : Multiset (α × β)) = crew.carried + (deed.returns : Multiset (α × β)) := by
  cases move with
  | caller move => exact move.carried_balance
  | @worker workers sent index worker next deed found move =>
    have moved := together_move Worker.carried found move.carried_balance
    calc together Worker.carried (workers.set index next) + ↑(sent ++ deed.sends) + ↑deed.collects
        = together Worker.carried (workers.set index next) + ↑deed.sends + ↑sent := by
          rw [move.collects_eq_nil, ← Multiset.coe_add, Multiset.coe_nil]; abel
      _ = together Worker.carried workers + ↑sent + ↑deed.returns := by rw [moved]; abel
  | collect workers item result sent =>
    have cons : (((item, result) :: sent : List (α × β)) : Multiset (α × β)) = ↑sent + ↑[(item, result)] := by
      rw [← Multiset.cons_coe, Multiset.coe_singleton, Multiset.add_comm, Multiset.singleton_add]
    simp only [Crew.carried, Deed.collects, Deed.returns, cons, Multiset.coe_nil, add_zero, add_assoc]
  | cancel => simp

theorem Worker.Moves.held_balance {worker next : Worker α ω β} {deed : Deed α ω β} (move : worker.Moves deed next) :
    (next.held : Multiset α) + (deed.begins : Multiset α) = (worker.held : Multiset α) + (deed.takes : Multiset α) := by
  cases move with
  | begin item stage | advance item rest stage => cases stage <;> simp [Worker.atStage]
  | exhaust | pull | heed | check | send => simp

/-- A worker begins whatever it has pulled. A caller that works alone need not. -/
theorem Crew.Moves.held_balance {crew next : Crew α ω β} {event : Event} {deed : Deed α ω β}
    (move : crew.Moves event deed next) (team : crew.staff ≠ none) :
    next.held + (deed.begins : Multiset α) = crew.held + (deed.takes : Multiset α) := by
  cases move with
  | caller => exact absurd rfl team
  | worker found move => exact together_move Worker.held found move.held_balance
  | collect | cancel => simp [Crew.held]

/-- What every move of a crew balances, a run balances. -/
theorem Run.balance {γ : Type} {first last : State ζ α ω β σ} {trace : Trace α ω β} (run : Run duty first trace last)
    (hand : Crew α ω β → Multiset γ) (into out : Deed α ω β → List γ)
    (moves : ∀ {crew next : Crew α ω β} {event : Event} {deed : Deed α ω β}, crew.staff = first.crew.staff →
      crew.Moves event deed next → hand next + (out deed : Multiset γ) = hand crew + (into deed : Multiset γ)) :
    hand last.crew + (trace.gather out : Multiset γ) = hand first.crew + (trace.gather into : Multiset γ) := by
  induction run with
  | start => simp
  | @next trace before after event deed previous step ih =>
    have balance := moves previous.staff_eq step.crew
    simp only [Trace.gather_append, Trace.gather_cons, Trace.gather_nil, List.append_nil, ← Multiset.coe_add]
    rw [add_left_comm, balance, add_left_comm, ← add_assoc, ih, add_assoc]

/-- Every item begun is in work or has returned. -/
theorem Run.begins_balance {first last : State ζ α ω β σ} {trace : Trace α ω β} (run : Run duty first trace last) :
    last.crew.occupied + ((trace.gather Deed.returns).map Prod.fst : List α) =
      first.crew.occupied + (trace.gather Deed.begins : Multiset α) := by
  rw [Trace.map_gather]
  exact run.balance Crew.occupied Deed.begins (fun deed => deed.returns.map Prod.fst)
    fun _ move => move.occupied_balance

/-- Every result returned is on its way or has been collected. -/
theorem Run.returns_balance {first last : State ζ α ω β σ} {trace : Trace α ω β} (run : Run duty first trace last) :
    last.crew.carried + (trace.gather Deed.collects : Multiset (α × β)) =
      first.crew.carried + (trace.gather Deed.returns : Multiset (α × β)) :=
  run.balance Crew.carried Deed.returns Deed.collects fun _ move => move.carried_balance

/-- Every item that a team has pulled is held by a worker or has been begun. -/
theorem Run.takes_balance {first last : State ζ α ω β σ} {trace : Trace α ω β} (run : Run duty first trace last)
    (team : first.crew.staff ≠ none) :
    last.crew.held + (trace.gather Deed.begins : Multiset α) =
      first.crew.held + (trace.gather Deed.takes : Multiset α) :=
  run.balance Crew.held Deed.takes Deed.begins fun same move => move.held_balance (same ▸ team)

end ExitParity.Pool
