import ExitParity.Stage

namespace ExitParity

/-- What a pool does: it pulls items from a source, begins the work on them
and goes on with it, collects results, and heeds a token that stops it. -/
structure Duty (ζ α ω β σ : Type) where
  /-- The next item of the source, if there is one, and what is left of it. -/
  pull : ζ → σ → Option α × ζ
  begin : α → σ → Stage ω β × σ
  advance : ω → σ → Stage ω β × σ
  /-- The time at which work can be gone on with. -/
  due : ω → Nat
  collect : α → β → σ → σ
  readToken : σ → Bool × σ
  cancel : σ → σ

namespace Pool

/-- Take the items of a list one by one. -/
def pullList {α σ : Type} : List α → σ → Option α × List α
  | [], _ => (none, [])
  | item :: rest, _ => (some item, rest)

/-- Where the caller is when it does the work itself. -/
inductive Caller (α ω β : Type) where
  | pulling
  | checking (item : α)
  | working (item : α)
  | busy (item : α) (rest : ω)
  | collecting (item : α) (result : β)
  | ended

/-- Where a worker is. -/
inductive Worker (α ω β : Type) where
  | ready
  | pulling
  | working (item : α)
  | busy (item : α) (rest : ω)
  | sending (item : α) (result : β)
  | gone

/-- Who does the work: the caller alone, or workers that send results to the
caller. -/
inductive Crew (α ω β : Type) where
  | alone (caller : Caller α ω β)
  | team (workers : List (Worker α ω β)) (sent : List (α × β))

/-- A pool at work: what is left of the source, the items begun and the
results collected so far. -/
structure State (ζ α ω β σ : Type) where
  source : ζ
  begun : List α
  collected : List (α × β)
  crew : Crew α ω β
  world : σ

/-- Whose step is next. Somebody outside may cancel at any time. -/
inductive Event where
  | caller
  | worker (index : Nat)
  | cancel
  deriving DecidableEq

/-- A pool with its source and its crew. -/
def start {ζ α ω β σ : Type} (source : ζ) (jobs : Nat) (world : σ) : State ζ α ω β σ where
  source := source
  begun := []
  collected := []
  crew := if jobs ≤ 1 then .alone .pulling else .team (List.replicate jobs .ready) []
  world := world

variable {ζ α ω β σ : Type} (duty : Duty ζ α ω β σ)

/-- Where the caller is when its work on an item has come to a stage. -/
def Caller.atStage (item : α) : Stage ω β → Caller α ω β
  | .finished result => .collecting item result
  | .pending rest => .busy item rest

/-- Where a worker is when its work on an item has come to a stage. -/
def Worker.atStage (item : α) : Stage ω β → Worker α ω β
  | .finished result => .sending item result
  | .pending rest => .busy item rest

/-- One step of a caller that works alone. The token is read between the pull
of an item and the work on it. -/
def stepAlone (state : State ζ α ω β σ) : Caller α ω β → Option (State ζ α ω β σ)
  | .pulling =>
    match duty.pull state.source state.world with
    | (none, source) => some { state with source, crew := .alone .ended }
    | (some item, source) => some { state with source, crew := .alone (.checking item) }
  | .checking item =>
    let (isSet, world) := duty.readToken state.world
    some { state with crew := .alone (if isSet then .ended else .working item), world }
  | .working item =>
    let (stage, world) := duty.begin item state.world
    some { state with begun := state.begun ++ [item], crew := .alone (.atStage item stage), world }
  | .busy item rest =>
    let (stage, world) := duty.advance rest state.world
    some { state with crew := .alone (.atStage item stage), world }
  | .collecting item result =>
    some { state with
      collected := state.collected ++ [(item, result)]
      crew := .alone .pulling
      world := duty.collect item result state.world }
  | .ended => none

/-- One step of a worker. The token is read before the pull of an item. -/
def stepWorker (state : State ζ α ω β σ) (workers : List (Worker α ω β)) (sent : List (α × β)) (index : Nat) :
    Worker α ω β → Option (State ζ α ω β σ)
  | .ready =>
    let (isSet, world) := duty.readToken state.world
    some { state with crew := .team (workers.set index (if isSet then .gone else .pulling)) sent, world }
  | .pulling =>
    match duty.pull state.source state.world with
    | (none, source) => some { state with source, crew := .team (workers.set index .gone) sent }
    | (some item, source) => some { state with source, crew := .team (workers.set index (.working item)) sent }
  | .working item =>
    let (stage, world) := duty.begin item state.world
    some { state with
      begun := state.begun ++ [item]
      crew := .team (workers.set index (.atStage item stage)) sent
      world }
  | .busy item rest =>
    let (stage, world) := duty.advance rest state.world
    some { state with crew := .team (workers.set index (.atStage item stage)) sent, world }
  | .sending item result =>
    some { state with crew := .team (workers.set index .ready) (sent ++ [(item, result)]) }
  | .gone => none

/-- The state behind a step, if the one whose turn it is can make one. -/
def step? (state : State ζ α ω β σ) : Event → Option (State ζ α ω β σ)
  | .cancel => some { state with world := duty.cancel state.world }
  | .caller =>
    match state.crew with
    | .alone caller => stepAlone duty state caller
    | .team _ [] => none
    | .team workers ((item, result) :: sent) =>
      some { state with
        collected := state.collected ++ [(item, result)]
        crew := .team workers sent
        world := duty.collect item result state.world }
  | .worker index =>
    match state.crew with
    | .alone _ => none
    | .team workers sent => (workers[index]?).bind (stepWorker duty state workers sent index)

def Caller.isEnded : Caller α ω β → Bool
  | .ended => true
  | _ => false

def Worker.isGone : Worker α ω β → Bool
  | .gone => true
  | _ => false

/-- Whether the pool has returned: nobody works, and every result sent has
been collected. -/
def State.finished (state : State ζ α ω β σ) : Bool :=
  match state.crew with
  | .alone caller => caller.isEnded
  | .team workers sent => workers.all Worker.isGone && sent.isEmpty

/-- The time from which on the caller can make its step. -/
def Caller.due : Caller α ω β → Nat
  | .busy _ rest => duty.due rest
  | _ => 0

/-- The time from which on a worker can make its step. -/
def Worker.due : Worker α ω β → Nat
  | .busy _ rest => duty.due rest
  | _ => 0

/-- The members of the crew that can make a step, the caller first, each with
the time from which on it can. -/
def State.movers (state : State ζ α ω β σ) : List (Event × Nat) :=
  match state.crew with
  | .alone caller => if caller.isEnded then [] else [(.caller, caller.due duty)]
  | .team workers sent =>
    (if sent.isEmpty then [] else [(.caller, 0)]) ++
      workers.zipIdx.filterMap fun (worker, index) =>
        if worker.isGone then none else some (.worker index, worker.due duty)

/-- An order of steps: for every turn, which of the possible steps is made. -/
abbrev Schedule := Nat → Nat

/-- The step that is made next: one of the earliest, by the schedule. -/
def State.next? (state : State ζ α ω β σ) (choice : Nat) : Option Event :=
  let movers := state.movers duty
  let earliest := ((movers.map (·.2)).min?).getD 0
  let first := movers.filter (·.2 == earliest)
  (first[choice % first.length]?).map (·.1)

/-- Make at most so many steps in the order of the schedule. -/
def runFor (schedule : Schedule) : Nat → Nat → State ζ α ω β σ → State ζ α ω β σ
  | 0, _, state => state
  | fuel + 1, turn, state =>
    match (state.next? duty (schedule turn)).bind (step? duty state) with
    | none => state
    | some state => runFor schedule fuel (turn + 1) state

/-- The number of steps after which a pool is given up. -/
def stepLimit : Nat := 1000000000

/-- Run a pool until nobody can make a step. -/
def run (schedule : Schedule) (source : ζ) (jobs : Nat) (world : σ) : State ζ α ω β σ :=
  runFor duty schedule stepLimit 0 (start source jobs world)

end Pool

/-- The number of workers for a request that names one. -/
def effectiveJobs (requested processors : Nat) : Nat :=
  if requested > 0 then requested else processors

end ExitParity
