import ExitParity.Pool

namespace ExitParity.Pool

/-- What a step of a pool does, with the answer that its duty gives there. -/
inductive Deed (α ω β : Type) where
  | read (isSet : Bool)
  | pull (answer : Option α)
  | begin (item : α) (stage : Stage ω β)
  | advance (item : α) (rest : ω) (stage : Stage ω β)
  | send (item : α) (result : β)
  | collect (item : α) (result : β)
  | cancel

variable {ζ α ω β σ : Type}

namespace Deed

@[simp]
def pulls : Deed α ω β → List (Option α)
  | .pull answer => [answer]
  | _ => []

@[simp]
def takes : Deed α ω β → List α
  | .pull answer => answer.toList
  | _ => []

@[simp]
def begins : Deed α ω β → List α
  | .begin item _ => [item]
  | _ => []

/-- The item and the result of a call of the work that returns in the step. -/
@[simp]
def returns : Deed α ω β → List (α × β)
  | .begin item (.finished result) => [(item, result)]
  | .advance item _ (.finished result) => [(item, result)]
  | _ => []

@[simp]
def sends : Deed α ω β → List (α × β)
  | .send item result => [(item, result)]
  | _ => []

@[simp]
def collects : Deed α ω β → List (α × β)
  | .collect item result => [(item, result)]
  | _ => []

/-- Whether the step runs the work or takes a result, so that whoever wrote
these can set the token in it. -/
@[simp]
def callsOut : Deed α ω β → Bool
  | .begin .. | .advance .. | .collect .. => true
  | _ => false

variable (duty : Duty ζ α ω β σ)

/-- The answer in a deed is the one that the duty gives. -/
def Answered (source : ζ) (world : σ) : Deed α ω β → Prop
  | .read isSet => (duty.readToken world).1 = isSet
  | .pull answer => (duty.pull source world).1 = answer
  | .begin item stage => (duty.begin item world).1 = stage
  | .advance _ rest stage => (duty.advance rest world).1 = stage
  | _ => True

def sourceAfter (source : ζ) (world : σ) : Deed α ω β → ζ
  | .pull _ => (duty.pull source world).2
  | _ => source

def worldAfter (world : σ) : Deed α ω β → σ
  | .read _ => (duty.readToken world).2
  | .begin item _ => (duty.begin item world).2
  | .advance _ rest _ => (duty.advance rest world).2
  | .collect item result => duty.collect item result world
  | .cancel => duty.cancel world
  | .pull _ | .send .. => world

end Deed

/-- What a caller that works alone does next, and where it is then. -/
inductive Caller.Moves : Caller α ω β → Deed α ω β → Caller α ω β → Prop
  | exhaust : Moves .pulling (.pull none) .ended
  | pull (item : α) : Moves .pulling (.pull (some item)) (.checking item)
  | heed (item : α) : Moves (.checking item) (.read true) .ended
  | check (item : α) : Moves (.checking item) (.read false) (.working item)
  | begin (item : α) (stage : Stage ω β) : Moves (.working item) (.begin item stage) (.atStage item stage)
  | advance (item : α) (rest : ω) (stage : Stage ω β) :
      Moves (.busy item rest) (.advance item rest stage) (.atStage item stage)
  | collect (item : α) (result : β) : Moves (.collecting item result) (.collect item result) .pulling

/-- What a worker does next, and where it is then. -/
inductive Worker.Moves : Worker α ω β → Deed α ω β → Worker α ω β → Prop
  | heed : Moves .ready (.read true) .gone
  | check : Moves .ready (.read false) .pulling
  | exhaust : Moves .pulling (.pull none) .gone
  | pull (item : α) : Moves .pulling (.pull (some item)) (.working item)
  | begin (item : α) (stage : Stage ω β) : Moves (.working item) (.begin item stage) (.atStage item stage)
  | advance (item : α) (rest : ω) (stage : Stage ω β) :
      Moves (.busy item rest) (.advance item rest stage) (.atStage item stage)
  | send (item : α) (result : β) : Moves (.sending item result) (.send item result) .ready

/-- Whose step a deed is, and where the crew is after it. Nothing is said of
the answers here: every answer is possible. -/
inductive Crew.Moves : Crew α ω β → Event → Deed α ω β → Crew α ω β → Prop
  | caller {caller next : Caller α ω β} {deed : Deed α ω β} (move : caller.Moves deed next) :
      Moves (.alone caller) .caller deed (.alone next)
  | worker {workers : List (Worker α ω β)} {sent : List (α × β)} {index : Nat} {worker next : Worker α ω β}
      {deed : Deed α ω β} (found : workers[index]? = some worker) (move : worker.Moves deed next) :
      Moves (.team workers sent) (.worker index) deed (.team (workers.set index next) (sent ++ deed.sends))
  | collect (workers : List (Worker α ω β)) (item : α) (result : β) (sent : List (α × β)) :
      Moves (.team workers ((item, result) :: sent)) .caller (.collect item result) (.team workers sent)
  | cancel (crew : Crew α ω β) : Moves crew .cancel .cancel crew

variable (duty : Duty ζ α ω β σ)

/-- Everything that a step does: the move of the crew, and what becomes of
the source, the world and the two lists. -/
structure Step (before : State ζ α ω β σ) (event : Event) (deed : Deed α ω β) (after : State ζ α ω β σ) : Prop where
  crew : before.crew.Moves event deed after.crew
  answered : deed.Answered duty before.source before.world
  source : after.source = deed.sourceAfter duty before.source before.world
  world : after.world = deed.worldAfter duty before.world
  begun : after.begun = before.begun ++ deed.begins
  collected : after.collected = before.collected ++ deed.collects

variable {duty}

theorem stepAlone_moves {state next : State ζ α ω β σ} {caller : Caller α ω β} (alone : state.crew = .alone caller)
    (stepped : stepAlone duty state caller = some next) : ∃ deed, Step duty state .caller deed next := by
  cases caller with
  | pulling =>
    rcases pulled : duty.pull state.source state.world with ⟨answer, rest⟩
    have source : (duty.pull state.source state.world).2 = rest := by rw [pulled]
    have answered : (duty.pull state.source state.world).1 = answer := by rw [pulled]
    cases answer with
    | none =>
      simp only [stepAlone, pulled, Option.some.injEq] at stepped
      subst stepped
      exact ⟨.pull none, alone ▸ .caller .exhaust, answered, source.symm, rfl, by simp, by simp⟩
    | some item =>
      simp only [stepAlone, pulled, Option.some.injEq] at stepped
      subst stepped
      exact ⟨.pull (some item), alone ▸ .caller (.pull item), answered, source.symm, rfl, by simp, by simp⟩
  | checking item =>
    simp only [stepAlone, Option.some.injEq] at stepped
    subst stepped
    refine ⟨.read (duty.readToken state.world).1, ?_, rfl, rfl, rfl, by simp, by simp⟩
    rw [alone]
    cases (duty.readToken state.world).1 with
    | true => exact .caller (.heed item)
    | false => exact .caller (.check item)
  | working item =>
    simp only [stepAlone, Option.some.injEq] at stepped
    subst stepped
    exact ⟨.begin item _, alone ▸ .caller (.begin item _), rfl, rfl, rfl, rfl, by simp⟩
  | busy item rest =>
    simp only [stepAlone, Option.some.injEq] at stepped
    subst stepped
    exact ⟨.advance item rest _, alone ▸ .caller (.advance item rest _), rfl, rfl, rfl, by simp, by simp⟩
  | collecting item result =>
    simp only [stepAlone, Option.some.injEq] at stepped
    subst stepped
    exact ⟨.collect item result, alone ▸ .caller (.collect item result), trivial, rfl, rfl, by simp, rfl⟩
  | ended => simp [stepAlone] at stepped

theorem stepWorker_moves {state next : State ζ α ω β σ} {workers : List (Worker α ω β)} {sent : List (α × β)}
    {index : Nat} {worker : Worker α ω β} (team : state.crew = .team workers sent)
    (found : workers[index]? = some worker) (stepped : stepWorker duty state workers sent index worker = some next) :
    ∃ deed, Step duty state (.worker index) deed next := by
  have move {deed : Deed α ω β} {later : Worker α ω β} (quiet : deed.sends = []) (moves : worker.Moves deed later) :
      state.crew.Moves (.worker index) deed (.team (workers.set index later) sent) := by
    have moved : Crew.Moves (.team workers sent) (.worker index) deed _ := .worker found moves
    rw [quiet, List.append_nil] at moved
    rwa [team]
  cases worker with
  | ready =>
    simp only [stepWorker, Option.some.injEq] at stepped
    subst stepped
    refine ⟨.read (duty.readToken state.world).1, ?_, rfl, rfl, rfl, by simp, by simp⟩
    cases (duty.readToken state.world).1 with
    | true => exact move rfl .heed
    | false => exact move rfl .check
  | pulling =>
    rcases pulled : duty.pull state.source state.world with ⟨answer, rest⟩
    have source : (duty.pull state.source state.world).2 = rest := by rw [pulled]
    have answered : (duty.pull state.source state.world).1 = answer := by rw [pulled]
    cases answer with
    | none =>
      simp only [stepWorker, pulled, Option.some.injEq] at stepped
      subst stepped
      exact ⟨.pull none, move rfl .exhaust, answered, source.symm, rfl, by simp, by simp⟩
    | some item =>
      simp only [stepWorker, pulled, Option.some.injEq] at stepped
      subst stepped
      exact ⟨.pull (some item), move rfl (.pull item), answered, source.symm, rfl, by simp, by simp⟩
  | working item =>
    simp only [stepWorker, Option.some.injEq] at stepped
    subst stepped
    exact ⟨.begin item _, move rfl (.begin item _), rfl, rfl, rfl, rfl, by simp⟩
  | busy item rest =>
    simp only [stepWorker, Option.some.injEq] at stepped
    subst stepped
    exact ⟨.advance item rest _, move rfl (.advance item rest _), rfl, rfl, rfl, by simp, by simp⟩
  | sending item result =>
    simp only [stepWorker, Option.some.injEq] at stepped
    subst stepped
    exact ⟨.send item result, team ▸ .worker found (.send item result), trivial, rfl, rfl, by simp, by simp⟩
  | gone => simp [stepWorker] at stepped

/-- Nothing happens in a step but what `Step` says. -/
theorem step?_moves {state next : State ζ α ω β σ} {event : Event} (stepped : step? duty state event = some next) :
    ∃ deed, Step duty state event deed next := by
  cases event with
  | caller =>
    rcases crew : state.crew with caller | ⟨workers, sent⟩
    · exact stepAlone_moves crew (by simpa only [step?, crew] using stepped)
    · rcases sent with _ | ⟨⟨item, result⟩, sent⟩
      · simp [step?, crew] at stepped
      · simp only [step?, crew, Option.some.injEq] at stepped
        subst stepped
        exact ⟨.collect item result, crew ▸ .collect workers item result sent, trivial, rfl, rfl, by simp, rfl⟩
  | worker index =>
    rcases crew : state.crew with caller | ⟨workers, sent⟩
    · simp [step?, crew] at stepped
    · simp only [step?, crew] at stepped
      obtain ⟨worker, found, moved⟩ := Option.bind_eq_some_iff.mp stepped
      exact stepWorker_moves crew found moved
  | cancel =>
    simp only [step?, Option.some.injEq] at stepped
    subst stepped
    exact ⟨.cancel, .cancel _, trivial, rfl, rfl, by simp, by simp⟩

theorem Step.stepAlone_eq {before after : State ζ α ω β σ} {caller next : Caller α ω β} {event : Event}
    {deed : Deed α ω β} (step : Step duty before event deed after) (move : caller.Moves deed next)
    (alone : after.crew = .alone next) : stepAlone duty before caller = some after := by
  obtain ⟨_, answered, source, world, begun, collected⟩ := step
  obtain ⟨sourceAfter, begunAfter, collectedAfter, crewAfter, worldAfter⟩ := after
  subst alone source world begun collected
  cases move with
  | exhaust | pull =>
    rcases pulled : duty.pull before.source before.world with ⟨answer, rest⟩
    simp only [Deed.Answered, pulled] at answered
    subst answered
    simp [stepAlone, pulled, Deed.sourceAfter, Deed.worldAfter]
  | heed | check | begin | advance =>
    simp only [Deed.Answered] at answered
    simp [stepAlone, answered, Deed.sourceAfter, Deed.worldAfter]
  | collect => simp [stepAlone, Deed.sourceAfter, Deed.worldAfter]

theorem Step.stepWorker_eq {before after : State ζ α ω β σ} {workers : List (Worker α ω β)} {sent : List (α × β)}
    {index : Nat} {worker next : Worker α ω β} {event : Event} {deed : Deed α ω β}
    (step : Step duty before event deed after) (move : worker.Moves deed next)
    (team : after.crew = .team (workers.set index next) (sent ++ deed.sends)) :
    stepWorker duty before workers sent index worker = some after := by
  obtain ⟨_, answered, source, world, begun, collected⟩ := step
  obtain ⟨sourceAfter, begunAfter, collectedAfter, crewAfter, worldAfter⟩ := after
  subst team source world begun collected
  cases move with
  | exhaust | pull =>
    rcases pulled : duty.pull before.source before.world with ⟨answer, rest⟩
    simp only [Deed.Answered, pulled] at answered
    subst answered
    simp [stepWorker, pulled, Deed.sourceAfter, Deed.worldAfter]
  | heed | check | begin | advance =>
    simp only [Deed.Answered] at answered
    simp [stepWorker, answered, Deed.sourceAfter, Deed.worldAfter]
  | send => simp [stepWorker, Deed.sourceAfter, Deed.worldAfter]

theorem step?_iff {before after : State ζ α ω β σ} {event : Event} :
    step? duty before event = some after ↔ ∃ deed, Step duty before event deed after := by
  refine ⟨step?_moves, ?_⟩
  rintro ⟨deed, step⟩
  have moved := step.crew
  generalize from_ : before.crew = crew, into : after.crew = next at moved
  cases moved with
  | caller move => simpa only [step?, from_] using step.stepAlone_eq move into
  | worker found move =>
    simpa only [step?, from_, found, Option.bind_some] using step.stepWorker_eq move into
  | collect workers item result sent =>
    obtain ⟨_, _, source, world, begun, collected⟩ := step
    obtain ⟨sourceAfter, begunAfter, collectedAfter, crewAfter, worldAfter⟩ := after
    subst into source world begun collected
    simp [step?, from_, Deed.sourceAfter, Deed.worldAfter]
  | cancel =>
    have stays : after.crew = before.crew := into.trans from_.symm
    obtain ⟨_, _, source, world, begun, collected⟩ := step
    obtain ⟨sourceAfter, begunAfter, collectedAfter, crewAfter, worldAfter⟩ := after
    subst stays source world begun collected
    simp [step?, Deed.sourceAfter, Deed.worldAfter]

/-- What happened in a run, step by step. -/
abbrev Trace (α ω β : Type) := List (Event × Deed α ω β)

namespace Trace

/-- Everything that the steps show under a view, in order of time. -/
def gather {γ : Type} (view : Deed α ω β → List γ) (trace : Trace α ω β) : List γ :=
  trace.flatMap fun step => view step.2

/-- The steps that somebody made. -/
def of_ (who : Event) (trace : Trace α ω β) : Trace α ω β := trace.filter (·.1 = who)

variable {γ : Type} (view : Deed α ω β → List γ)

@[simp]
theorem gather_nil : gather view [] = [] := rfl

@[simp]
theorem gather_append (early late : Trace α ω β) :
    gather view (early ++ late) = gather view early ++ gather view late :=
  List.flatMap_append

@[simp]
theorem gather_cons (event : Event) (deed : Deed α ω β) (late : Trace α ω β) :
    gather view ((event, deed) :: late) = view deed ++ gather view late := rfl

theorem map_gather {δ : Type} (change : γ → δ) (trace : Trace α ω β) :
    (gather view trace).map change = gather (fun deed => (view deed).map change) trace :=
  List.map_flatMap

theorem length_gather_of_next (who event : Event) (trace : Trace α ω β) (deed : Deed α ω β) :
    (gather view (of_ who (trace ++ [(event, deed)]))).length =
      (gather view (of_ who trace)).length + if event = who then (view deed).length else 0 := by
  by_cases own : event = who
  · simp [of_, own]
  · simp [of_, own]

end Trace

variable (duty)

/-- The runs of a pool: every order in which its members and somebody outside
can make their steps. -/
inductive Run (first : State ζ α ω β σ) : Trace α ω β → State ζ α ω β σ → Prop
  | start : Run first [] first
  | next {trace : Trace α ω β} {before after : State ζ α ω β σ} {event : Event} {deed : Deed α ω β}
      (previous : Run first trace before) (step : Step duty before event deed after) :
      Run first (trace ++ [(event, deed)]) after

variable {duty}

theorem Run.begun_eq {first last : State ζ α ω β σ} {trace : Trace α ω β} (run : Run duty first trace last) :
    last.begun = first.begun ++ trace.gather Deed.begins := by
  induction run with
  | start => simp
  | next previous step ih => simp [step.begun, ih]

theorem Run.collected_eq {first last : State ζ α ω β σ} {trace : Trace α ω β} (run : Run duty first trace last) :
    last.collected = first.collected ++ trace.gather Deed.collects := by
  induction run with
  | start => simp
  | next previous step ih => simp [step.collected, ih]

theorem Run.trans {first middle last : State ζ α ω β σ} {early late : Trace α ω β} (run : Run duty first early middle)
    (further : Run duty middle late last) : Run duty first (early ++ late) last := by
  induction further with
  | start => simpa using run
  | next previous step ih => simpa using ih.next step

theorem State.next?_ne_cancel {state : State ζ α ω β σ} {choice : Nat} {event : Event}
    (chosen : state.next? duty choice = some event) : event ≠ .cancel := by
  obtain ⟨mover, found, rfl⟩ := Option.map_eq_some_iff.mp chosen
  have member : mover ∈ state.movers duty := (List.mem_filter.mp (List.mem_of_getElem? found)).1
  rcases crew : state.crew with caller | ⟨workers, sent⟩
  · simp only [State.movers, crew] at member
    split at member
    · cases member
    · obtain rfl := List.mem_singleton.mp member
      nofun
  · simp only [State.movers, crew] at member
    rcases List.mem_append.mp member with own | other
    · split at own
      · cases own
      · obtain rfl := List.mem_singleton.mp own
        nofun
    · obtain ⟨⟨worker, index⟩, -, shown⟩ := List.mem_filterMap.mp other
      split at shown
      · cases shown
      · obtain rfl := Option.some.inj shown
        nofun

theorem Crew.Moves.eq_cancel {crew next : Crew α ω β} {event : Event} (move : crew.Moves event .cancel next) :
    event = .cancel := by
  generalize same : Deed.cancel = deed at move
  cases move with
  | caller move | worker _ move => subst same; cases move
  | collect => cases same
  | cancel => rfl

/-- A schedule is a run in which nobody outside sets the token. -/
theorem runFor_run (schedule : Schedule) (fuel turn : Nat) (first : State ζ α ω β σ) :
    ∃ trace, Run duty first trace (runFor duty schedule fuel turn first) ∧ ∀ who, (who, .cancel) ∉ trace := by
  induction fuel generalizing turn first with
  | zero => exact ⟨[], .start, nofun⟩
  | succ fuel ih =>
    simp only [runFor]
    split
    · exact ⟨[], .start, nofun⟩
    · next state stepped =>
      obtain ⟨event, chosen, moved⟩ := Option.bind_eq_some_iff.mp stepped
      obtain ⟨deed, step⟩ := step?_moves moved
      obtain ⟨trace, further, alone⟩ := ih (turn + 1) state
      refine ⟨_, (Run.start.next step).trans further, fun who member => ?_⟩
      rcases List.mem_append.mp member with here | later
      · obtain ⟨rfl, rfl⟩ := Prod.mk.inj (List.mem_singleton.mp here)
        exact State.next?_ne_cancel chosen step.crew.eq_cancel
      · exact alone who later

variable (duty)

theorem run_alone (schedule : Schedule) (source : ζ) (jobs : Nat) (world : σ) :
    ∃ trace, Run duty (start source jobs world) trace (run duty schedule source jobs world) ∧
      ∀ who, (who, .cancel) ∉ trace :=
  runFor_run schedule stepLimit 0 _

/-- Whatever the schedule, running a pool is one of its runs. -/
theorem run_run (schedule : Schedule) (source : ζ) (jobs : Nat) (world : σ) :
    ∃ trace, Run duty (start source jobs world) trace (run duty schedule source jobs world) := by
  obtain ⟨trace, run, -⟩ := run_alone duty schedule source jobs world
  exact ⟨trace, run⟩

end ExitParity.Pool
