namespace ExitParity

/-- What is left of a thread of control over a shared state. A thread makes
one step after another; between two steps others may change the state. -/
inductive Thread (σ : Type) where
  | ended
  | act (step : σ → Thread σ × σ)
  | rest (duration : Nat) (next : Unit → Thread σ)
  | wait (ready : σ → Bool) (next : Unit → Thread σ)
  | fork (number : Nat) (child next : Unit → Thread σ)

/-- A part of a thread that yields a value: it says how the whole goes on once
it is said how to go on with the value. -/
def Activity (σ α : Type) : Type := (α → Thread σ) → Thread σ

namespace Activity

variable {σ α : Type}

instance : Monad (Activity σ) where
  pure value next := next value
  bind activity continue_ next := activity fun value => continue_ value next

instance : LawfulMonad (Activity σ) :=
  LawfulMonad.mk' (Activity σ) (fun _ => rfl) (fun _ _ => rfl) (fun _ _ _ => rfl)

/-- Change the state in one step. -/
def act (step : σ → α × σ) : Activity σ α := fun next => .act fun s =>
  let (value, s) := step s
  (next value, s)

/-- Look at the state. -/
def look (view : σ → α) : Activity σ α := act fun s => (view s, s)

/-- Let time pass. -/
def rest (duration : Nat) : Activity σ Unit := fun next => .rest duration next

/-- Wait until the state allows to go on. -/
def wait (ready : σ → Bool) : Activity σ Unit := fun next => .wait ready next

/-- Start another thread under a number, and go on. -/
def fork (number : Nat) (child : Unit → Thread σ) : Activity σ Unit := fun next => .fork number child next

/-- Leave everything behind and go on with another thread. -/
def become (thread : Unit → Thread σ) : Activity σ α := fun _ => thread ()

/-- End here. -/
def stop : Activity σ α := fun _ => .ended

/-- An activity as a whole thread. -/
def thread (activity : Activity σ Unit) : Thread σ := activity fun () => .ended

end Activity
end ExitParity
