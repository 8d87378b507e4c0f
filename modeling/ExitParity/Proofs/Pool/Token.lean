import ExitParity.Proofs.Pool.Run

namespace ExitParity

/-- The token of a pool's world: readings tell whether it is set, cancelling
sets it, and nothing that the pool calls unsets it. -/
structure Duty.Heeds {ζ α ω β σ : Type} (duty : Duty ζ α ω β σ) (isSet : σ → Bool) : Prop where
  read (world : σ) : (duty.readToken world).1 = isSet world
  cancel (world : σ) : isSet (duty.cancel world) = true
  kept_read {world : σ} (set : isSet world = true) : isSet (duty.readToken world).2 = true
  kept_begin {world : σ} (item : α) (set : isSet world = true) : isSet (duty.begin item world).2 = true
  kept_advance {world : σ} (rest : ω) (set : isSet world = true) : isSet (duty.advance rest world).2 = true
  kept_collect {world : σ} (item : α) (result : β) (set : isSet world = true) :
    isSet (duty.collect item result world) = true

namespace Pool

variable {ζ α ω β σ : Type} {duty : Duty ζ α ω β σ} {isSet : σ → Bool}

theorem Step.token_kept (heeds : duty.Heeds isSet) {before after : State ζ α ω β σ} {event : Event} {deed : Deed α ω β}
    (step : Step duty before event deed after) (set : isSet before.world = true) : isSet after.world = true := by
  rw [step.world]
  cases deed with
  | read => exact heeds.kept_read set
  | begin item => exact heeds.kept_begin item set
  | advance _ rest => exact heeds.kept_advance rest set
  | collect item result => exact heeds.kept_collect item result set
  | cancel => exact heeds.cancel _
  | pull | send => exact set

theorem Run.token_kept (heeds : duty.Heeds isSet) {first last : State ζ α ω β σ} {trace : Trace α ω β}
    (run : Run duty first trace last) (set : isSet first.world = true) : isSet last.world = true := by
  induction run with
  | start => exact set
  | next previous step ih => exact step.token_kept heeds ih

/-- A reading that found the token set leaves it set. -/
theorem Run.set_of_read (heeds : duty.Heeds isSet) {first last : State ζ α ω β σ} {trace : Trace α ω β} {who : Event}
    (run : Run duty first trace last) (seen : (who, .read true) ∈ trace) : isSet last.world = true := by
  induction run with
  | start => simp at seen
  | @next trace before after event deed previous step ih =>
    rcases List.mem_append.mp seen with old | new
    · exact step.token_kept heeds (ih old)
    · cases List.mem_singleton.mp new
      have found : isSet before.world = true := by rw [← heeds.read]; exact step.answered
      exact step.token_kept heeds found

/-- How many items a caller still begins once the token is set. -/
def Caller.allowance : Caller α ω β → Nat
  | .working _ => 1
  | _ => 0

/-- How many items a worker still begins once the token is set: the token is
read before the pull, so the pull and the work behind it still happen. -/
def Worker.allowance : Worker α ω β → Nat
  | .pulling | .working _ => 1
  | _ => 0

def Crew.allowance (who : Event) : Crew α ω β → Nat
  | .alone caller => if who = .caller then caller.allowance else 0
  | .team workers _ =>
    match who with
    | .worker index => ((workers[index]?).map Worker.allowance).getD 0
    | _ => 0

theorem Caller.allowance_le_one (caller : Caller α ω β) : caller.allowance ≤ 1 := by
  cases caller <;> simp [Caller.allowance]

theorem Worker.allowance_le_one (worker : Worker α ω β) : worker.allowance ≤ 1 := by
  cases worker <;> simp [Worker.allowance]

theorem Crew.allowance_le_one (who : Event) (crew : Crew α ω β) : crew.allowance who ≤ 1 := by
  rcases crew with caller | ⟨workers, sent⟩
  · simp only [Crew.allowance]
    split
    · exact caller.allowance_le_one
    · exact Nat.zero_le 1
  · cases who with
    | worker index =>
      cases found : workers[index]? with
      | none => simp [Crew.allowance, found]
      | some worker => simpa [Crew.allowance, found] using worker.allowance_le_one
    | caller | cancel => exact Nat.zero_le 1

@[simp]
theorem Caller.allowance_working (item : α) : (Caller.working item : Caller α ω β).allowance = 1 := rfl

@[simp]
theorem Worker.allowance_working (item : α) : (Worker.working item : Worker α ω β).allowance = 1 := rfl

@[simp]
theorem Caller.allowance_atStage (item : α) (stage : Stage ω β) : (Caller.atStage item stage).allowance = 0 := by
  cases stage <;> rfl

@[simp]
theorem Worker.allowance_atStage (item : α) (stage : Stage ω β) : (Worker.atStage item stage).allowance = 0 := by
  cases stage <;> rfl

theorem Caller.Moves.allowance_le {caller next : Caller α ω β} {deed : Deed α ω β} (move : caller.Moves deed next)
    (heeded : deed ≠ .read false) : deed.begins.length + next.allowance ≤ caller.allowance := by
  cases move with
  | check => exact absurd rfl heeded
  | begin => simp
  | advance => simp
  | exhaust | pull | heed | collect => exact Nat.zero_le _

theorem Worker.Moves.allowance_le {worker next : Worker α ω β} {deed : Deed α ω β} (move : worker.Moves deed next)
    (heeded : deed ≠ .read false) : deed.begins.length + next.allowance ≤ worker.allowance := by
  cases move with
  | check => exact absurd rfl heeded
  | begin => simp
  | advance => simp
  | exhaust | heed | send => exact Nat.zero_le _
  | pull => exact Nat.le_refl 1

theorem Crew.Moves.allowance_le {crew next : Crew α ω β} {event : Event} {deed : Deed α ω β}
    (move : crew.Moves event deed next) (heeded : deed ≠ .read false) (who : Event) :
    (if event = who then deed.begins.length else 0) + next.allowance who ≤ crew.allowance who := by
  cases move with
  | caller move =>
    have bound := move.allowance_le heeded
    by_cases own : who = .caller
    · simpa [Crew.allowance, own] using bound
    · simp [Crew.allowance, own, Ne.symm own]
  | @worker workers sent index worker next deed found move =>
    have bound := move.allowance_le heeded
    cases who with
    | worker other =>
      by_cases own : index = other
      · subst own
        have inside : index < workers.length := (List.getElem?_eq_some_iff.mp found).1
        simpa [Crew.allowance, List.getElem?_set_self inside, found] using bound
      · simp [Crew.allowance, own, List.getElem?_set_ne own]
    | caller | cancel => simp [Crew.allowance]
  | collect => cases who <;> simp [Crew.allowance]
  | cancel => simp

/-- Once the token is set nobody begins more items than the place where it
was allows. -/
theorem Run.begins_le_allowance (heeds : duty.Heeds isSet) {first last : State ζ α ω β σ} {trace : Trace α ω β}
    (run : Run duty first trace last) (set : isSet first.world = true) (who : Event) :
    ((trace.of_ who).gather Deed.begins).length + last.crew.allowance who ≤ first.crew.allowance who := by
  induction run with
  | start => simp [Trace.of_]
  | @next trace before after event deed previous step ih =>
    have heeded : deed ≠ .read false := by
      rintro rfl
      have answer : isSet before.world = false := (heeds.read _).symm.trans step.answered
      simp [previous.token_kept heeds set] at answer
    have bound := step.crew.allowance_le heeded who
    rw [Trace.length_gather_of_next]
    omega

end Pool
end ExitParity
