import ExitParity.Proofs.Pool.Delivery
import Mathlib.Logic.Hydra

namespace ExitParity

variable {ζ α ω β σ : Type}

/-- What is left of some work before and behind one more step of it. -/
def Duty.Continues (duty : Duty ζ α ω β σ) (later earlier : ω) : Prop :=
  ∃ world, (duty.advance earlier world).1 = .pending later

/-- The work on every item returns, whatever becomes of the world between its
steps. How many steps it makes may depend on that world. -/
def Duty.Returns (duty : Duty ζ α ω β σ) : Prop :=
  ∀ {item : α} {world : σ} {rest : ω}, (duty.begin item world).1 = .pending rest → Acc duty.Continues rest

/-- A source of finitely many items: it has less left behind every item, and
never more. -/
structure Duty.Rations (duty : Duty ζ α ω β σ) (left : ζ → Nat) : Prop where
  item {source rest : ζ} {world : σ} {item : α} (given : duty.pull source world = (some item, rest)) :
    left rest < left source
  exhausted {source rest : ζ} {world : σ} (given : duty.pull source world = (none, rest)) : left rest ≤ left source

theorem Duty.rations_of_pullList {duty : Duty (List α) α ω β σ} (taken : duty.pull = Pool.pullList) :
    duty.Rations List.length where
  item {source rest world item} given := by
    rw [taken] at given
    cases source with
    | nil => simp [Pool.pullList] at given
    | cons first others =>
      obtain ⟨-, rfl⟩ := Prod.mk.inj given
      exact Nat.lt_succ_self _
  exhausted {source rest world} given := by
    rw [taken] at given
    cases source with
    | nil =>
      obtain ⟨-, rfl⟩ := Prod.mk.inj given
      exact le_rfl
    | cons first others => simp [Pool.pullList] at given

namespace Pool

open Relation

variable (duty : Duty ζ α ω β σ)

/-- What a worker can be next, unless it takes an item. -/
def Worker.Follows (next worker : Worker α ω β) : Prop :=
  ∃ deed source world, worker.Moves deed next ∧ deed.Answered duty source world ∧ deed.takes = []

namespace Worker

theorem acc_gone : Acc (Follows duty) .gone := by
  refine .intro _ ?_
  rintro next ⟨deed, source, world, move, -, -⟩
  cases move

theorem acc_pulling : Acc (Follows duty) .pulling := by
  refine .intro _ ?_
  rintro next ⟨deed, source, world, move, -, nothing⟩
  cases move with
  | exhaust => exact acc_gone duty
  | pull => simp at nothing

theorem acc_ready : Acc (Follows duty) .ready := by
  refine .intro _ ?_
  rintro next ⟨deed, source, world, move, -, -⟩
  cases move with
  | heed => exact acc_gone duty
  | check => exact acc_pulling duty

theorem acc_sending (item : α) (result : β) : Acc (Follows duty) (.sending item result) := by
  refine .intro _ ?_
  rintro next ⟨deed, source, world, move, -, -⟩
  cases move
  exact acc_ready duty

variable {duty}

theorem acc_busy {rest : ω} (ends : Acc duty.Continues rest) (item : α) : Acc (Follows duty) (.busy item rest) := by
  induction ends with
  | intro rest _ ih =>
    refine .intro _ ?_
    rintro next ⟨deed, source, world, move, answered, -⟩
    cases move with
    | advance _ _ stage =>
      cases stage with
      | finished result => exact acc_sending duty item result
      | pending later => exact ih later ⟨world, answered⟩

theorem acc_working (returns : duty.Returns) (item : α) : Acc (Follows duty) (.working item) := by
  refine .intro _ ?_
  rintro next ⟨deed, source, world, move, answered, -⟩
  cases move with
  | begin _ stage =>
    cases stage with
    | finished result => exact acc_sending duty item result
    | pending rest => exact acc_busy (returns answered) item

variable (duty)

/-- One move of a worker that cannot go on for ever without taking an item. -/
def Descends (next worker : Worker α ω β) : Prop :=
  Acc (Follows duty) worker ∧ Follows duty next worker

theorem wellFounded_descends : WellFounded (Descends duty) := by
  refine ⟨fun worker => ?_⟩
  by_cases ends : Acc (Follows duty) worker
  · induction ends with
    | intro worker _ ih => exact .intro _ fun next below => ih next below.2
  · exact .intro _ fun next below => absurd below.1 ends

variable {duty}

/-- What a worker does with a returning work, it does not do for ever. -/
theorem Moves.acc (returns : duty.Returns) {worker next : Worker α ω β} {deed : Deed α ω β} {source : ζ} {world : σ}
    (move : worker.Moves deed next) (answered : deed.Answered duty source world)
    (ends : Acc (Follows duty) worker) : Acc (Follows duty) next := by
  by_cases takes : deed.takes = []
  · exact ends.inv ⟨deed, source, world, move, answered, takes⟩
  · cases move with
    | pull item => exact acc_working returns item
    | heed | check | exhaust | begin | advance | send => simp at takes

end Worker

/-- No worker of a team goes on for ever without taking an item. -/
def Crew.Ends : Crew α ω β → Prop
  | .alone _ => False
  | .team workers _ => ∀ worker ∈ workers, Acc (Worker.Follows duty) worker

/-- What a crew has before it: its workers, and the results to be collected. -/
def Crew.load : Crew α ω β → Multiset (Worker α ω β) × Nat
  | .alone _ => (0, 0)
  | .team workers sent => (together (fun worker => [worker]) workers, sent.length)

/-- What a pool has before it: the items of its source, and the crew's load. -/
def State.load (left : ζ → Nat) (state : State ζ α ω β σ) : Nat × Multiset (Worker α ω β) × Nat :=
  (left state.source, state.crew.load)

/-- A load is lighter for fewer items, and for as many items when a worker is
farther on, and for the same workers when there are fewer results to collect. -/
def Lighter : Nat × Multiset (Worker α ω β) × Nat → Nat × Multiset (Worker α ω β) × Nat → Prop :=
  Prod.Lex (· < ·) (Prod.Lex (CutExpand (Worker.Descends duty)) (· < ·))

theorem wellFounded_lighter : WellFounded (Lighter duty) :=
  wellFounded_lt.prod_lex ((Worker.wellFounded_descends duty).cutExpand.prod_lex wellFounded_lt)

variable {duty}

theorem Lighter.of_le {items fewer : Nat} {load lighter : Multiset (Worker α ω β) × Nat} (order : fewer ≤ items)
    (below : Prod.Lex (CutExpand (Worker.Descends duty)) (· < ·) lighter load) :
    Lighter duty (fewer, lighter) (items, load) := by
  rcases order.lt_or_eq with less | rfl
  · exact .left _ _ less
  · exact .right _ below

theorem Step.ends (returns : duty.Returns) {before after : State ζ α ω β σ} {event : Event} {deed : Deed α ω β}
    (step : Step duty before event deed after) (ends : before.crew.Ends duty) : after.crew.Ends duty := by
  have moved := step.crew
  generalize before.crew = crew, after.crew = next at moved ends
  cases moved with
  | caller => exact ends.elim
  | @worker workers sent index worker next deed found move =>
    intro member inside
    rcases List.mem_or_eq_of_mem_set inside with old | rfl
    · exact ends member old
    · exact move.acc returns step.answered (ends worker (List.mem_of_getElem? found))
  | collect | cancel => exact ends

/-- Only a pull leaves another source, and no pull one with more in it. -/
theorem Step.source_le {left : ζ → Nat} (rations : duty.Rations left) {before after : State ζ α ω β σ} {event : Event}
    {deed : Deed α ω β} (step : Step duty before event deed after) : left after.source ≤ left before.source := by
  rw [step.source]
  cases deed with
  | pull answer =>
    rcases pulled : duty.pull before.source before.world with ⟨given, rest⟩
    simp only [Deed.sourceAfter, pulled]
    cases given with
    | none => exact rations.exhausted pulled
    | some item => exact (rations.item pulled).le
  | read | begin | advance | send | collect | cancel => exact le_rfl

theorem Step.source_lt {left : ζ → Nat} (rations : duty.Rations left) {before after : State ζ α ω β σ} {event : Event}
    {deed : Deed α ω β} (step : Step duty before event deed after) (takes : deed.takes ≠ []) :
    left after.source < left before.source := by
  have answered := step.answered
  rw [step.source]
  cases deed with
  | pull answer =>
    rcases pulled : duty.pull before.source before.world with ⟨given, rest⟩
    simp only [Deed.Answered, pulled] at answered
    subst answered
    simp only [Deed.sourceAfter, pulled]
    cases given with
    | none => simp at takes
    | some item => exact rations.item pulled
  | read | begin | advance | send | collect | cancel => simp at takes

/-- Every step of a worker or of the caller makes the load lighter. -/
theorem Step.lighter {left : ζ → Nat} (rations : duty.Rations left) {before after : State ζ α ω β σ} {event : Event}
    {deed : Deed α ω β} (step : Step duty before event deed after) (ends : before.crew.Ends duty)
    (own : event ≠ .cancel) : Lighter duty (after.load left) (before.load left) := by
  by_cases takes : deed.takes = []
  · refine .of_le (step.source_le rations) ?_
    have moved := step.crew
    have answered := step.answered
    generalize before.crew = crew, after.crew = next at moved ends
    cases moved with
    | caller => exact ends.elim
    | @worker workers sent index worker next deed found move =>
      refine .left _ _ ⟨{next}, worker, ?_, ?_⟩
      · intro member same
        obtain rfl := Multiset.mem_singleton.mp same
        exact ⟨ends worker (List.mem_of_getElem? found), deed, _, _, move, answered, takes⟩
      · exact together_set (fun worker => [worker]) found next
    | collect workers item result sent => exact .right _ (Nat.lt_succ_self sent.length)
    | cancel => exact absurd rfl own
  · exact .left _ _ (step.source_lt rations takes)

theorem Step.load_of_cancel {left : ζ → Nat} {before after : State ζ α ω β σ} {deed : Deed α ω β}
    (step : Step duty before .cancel deed after) : after.load left = before.load left := by
  have moved := step.crew
  have source := step.source
  unfold State.load
  generalize before.crew = crew, after.crew = next at moved
  cases moved
  rw [source]
  rfl

theorem start_ends (source : ζ) {jobs : Nat} (several : 2 ≤ jobs) (world : σ) :
    (start (β := β) source jobs world).crew.Ends duty := by
  simp only [start, if_neg (by omega : ¬ jobs ≤ 1)]
  intro worker member
  obtain rfl := List.eq_of_mem_replicate member
  exact Worker.acc_ready duty

theorem Run.ends (returns : duty.Returns) {first last : State ζ α ω β σ} {trace : Trace α ω β}
    (run : Run duty first trace last) (ends : first.crew.Ends duty) : last.crew.Ends duty := by
  induction run with
  | start => exact ends
  | next previous step ih => exact step.ends returns ih

/-- Whoever has not gone can make a step. -/
theorem stepWorker_isSome (state : State ζ α ω β σ) (workers : List (Worker α ω β)) (sent : List (α × β)) (index : Nat)
    {worker : Worker α ω β} (present : worker.isGone = false) :
    (stepWorker duty state workers sent index worker).isSome = true := by
  cases worker with
  | pulling =>
    rcases pulled : duty.pull state.source state.world with ⟨answer, rest⟩
    cases answer <;> simp [stepWorker, pulled]
  | gone => cases present
  | ready | working | busy | sending => rfl

theorem step?_worker {state : State ζ α ω β σ} {workers : List (Worker α ω β)} {sent : List (α × β)} {index : Nat}
    {worker : Worker α ω β} (team : state.crew = .team workers sent) (found : workers[index]? = some worker)
    (present : worker.isGone = false) : (step? duty state (.worker index)).isSome = true := by
  simp only [step?, team, found, Option.bind_some]
  exact stepWorker_isSome state workers sent index present

theorem step?_collect {state : State ζ α ω β σ} {workers : List (Worker α ω β)} {sent : List (α × β)}
    (team : state.crew = .team workers sent) (some_ : sent.isEmpty = false) :
    (step? duty state .caller).isSome = true := by
  cases sent with
  | nil => cases some_
  | cons pair rest => simp [step?, team]

/-- Those who are counted as movers can make their steps. -/
theorem step?_of_mem_movers {state : State ζ α ω β σ} {mover : Event × Nat} (ends : state.crew.Ends duty)
    (member : mover ∈ state.movers duty) : (step? duty state mover.1).isSome = true := by
  rcases crew : state.crew with caller | ⟨workers, sent⟩
  · rw [crew] at ends
    exact ends.elim
  · simp only [State.movers, crew] at member
    rcases List.mem_append.mp member with own | other
    · split at own
      · cases own
      · next some_ =>
        obtain rfl := List.mem_singleton.mp own
        exact step?_collect crew (by simpa using some_)
    · obtain ⟨⟨worker, index⟩, inside, shown⟩ := List.mem_filterMap.mp other
      split at shown
      · cases shown
      · next present =>
        obtain rfl := Option.some.inj shown
        exact step?_worker crew (List.mem_zipIdx_iff_getElem?.mp inside) (by simpa using present)

/-- Nobody can make a step exactly where the pool has returned. -/
theorem movers_eq_nil_iff {state : State ζ α ω β σ} (ends : state.crew.Ends duty) :
    state.movers duty = [] ↔ state.finished = true := by
  rcases crew : state.crew with caller | ⟨workers, sent⟩
  · rw [crew] at ends
    exact ends.elim
  · simp only [State.movers, State.finished, crew, List.append_eq_nil_iff, ite_eq_left_iff, List.cons_ne_nil, imp_false,
      Decidable.not_not, List.filterMap_eq_nil_iff, Bool.and_eq_true, List.all_eq_true]
    rw [and_comm]
    refine and_congr_left fun _ => ⟨fun absent worker member => ?_, fun gone pair member => ?_⟩
    · obtain ⟨index, found⟩ := List.mem_iff_getElem?.mp member
      simpa using absent (worker, index) (List.mem_zipIdx_iff_getElem?.mpr found)
    · have inside := List.mem_of_getElem? (List.mem_zipIdx_iff_getElem?.mp member)
      simp [gone pair.1 inside]

theorem next?_of_movers_ne_nil {state : State ζ α ω β σ} (some_ : state.movers duty ≠ []) (choice : Nat) :
    ∃ mover ∈ state.movers duty, state.next? duty choice = some mover.1 := by
  obtain ⟨earliest, least⟩ := Option.isSome_iff_exists.mp
    (List.isSome_min?_of_ne_nil (by simpa using some_ : (state.movers duty).map (·.2) ≠ []))
  obtain ⟨mover, member, time⟩ := List.mem_map.mp (List.min?_mem least)
  simp only [State.next?, least, Option.getD_some]
  generalize first : (state.movers duty).filter (·.2 == earliest) = movers
  have inside : mover ∈ movers := by
    rw [← first, List.mem_filter]
    exact ⟨member, by simpa using time⟩
  have bound : choice % movers.length < movers.length := Nat.mod_lt _ (List.length_pos_of_mem inside)
  have all (other : Event × Nat) (chosen : other ∈ movers) : other ∈ state.movers duty := by
    rw [← first] at chosen
    exact List.mem_of_mem_filter chosen
  exact ⟨movers[choice % movers.length], all _ (List.getElem_mem bound),
    by rw [List.getElem?_eq_getElem bound, Option.map_some]⟩

theorem runFor_of_finished (schedule : Schedule) (fuel turn : Nat) {state : State ζ α ω β σ}
    (ends : state.crew.Ends duty) (finished : state.finished = true) :
    runFor duty schedule fuel turn state = state := by
  cases fuel with
  | zero => rfl
  | succ fuel => simp [runFor, State.next?, (movers_eq_nil_iff ends).mpr finished]

/-- The pool goes on until it has returned, and only then stops. -/
theorem runFor_finished (returns : duty.Returns) {left : ζ → Nat} (rations : duty.Rations left) (schedule : Schedule)
    (turn : Nat) {state : State ζ α ω β σ} (ends : state.crew.Ends duty) :
    ∃ enough, ∀ fuel ≥ enough, (runFor duty schedule fuel turn state).finished = true := by
  induction state using (InvImage.wf (State.load left) (wellFounded_lighter duty)).induction generalizing turn with
  | _ state ih =>
    cases finished : state.finished with
    | true =>
      refine ⟨0, fun fuel _ => ?_⟩
      rw [runFor_of_finished schedule fuel turn ends finished, finished]
    | false =>
      have movers : state.movers duty ≠ [] := by
        rw [ne_eq, movers_eq_nil_iff ends, finished]
        exact Bool.false_ne_true
      obtain ⟨mover, member, chosen⟩ := next?_of_movers_ne_nil movers (schedule turn)
      obtain ⟨after, stepped⟩ := Option.isSome_iff_exists.mp (step?_of_mem_movers ends member)
      obtain ⟨deed, step⟩ := step?_moves stepped
      obtain ⟨enough, later⟩ := ih after (step.lighter rations ends (State.next?_ne_cancel chosen)) (turn + 1)
        (step.ends returns ends)
      refine ⟨enough + 1, fun fuel bound => ?_⟩
      obtain ⟨fuel, rfl⟩ := Nat.exists_eq_add_one_of_ne_zero (Nat.ne_zero_of_lt bound)
      simp only [runFor, chosen, Option.bind_some, stepped]
      exact later fuel (by omega)

/-- In a course of steps without end, the steps from some moment on are those
of somebody outside. -/
theorem eventually_cancel (returns : duty.Returns) {left : ζ → Nat} (rations : duty.Rations left)
    {states : Nat → State ζ α ω β σ} {events : Nat → Event} (ends : (states 0).crew.Ends duty)
    (steps : ∀ time, step? duty (states time) (events time) = some (states (time + 1))) :
    ∃ last, ∀ time ≥ last, events time = .cancel := by
  have always (time : Nat) : (states time).crew.Ends duty := by
    induction time with
    | zero => exact ends
    | succ time ih =>
      obtain ⟨deed, step⟩ := step?_moves (steps time)
      exact step.ends returns ih
  suffices later : ∀ load time, (states time).load left = load → ∃ last, ∀ time ≥ last, events time = .cancel from
    later _ 0 rfl
  intro load
  induction load using (wellFounded_lighter duty).induction with
  | _ load ih =>
    intro time same
    by_cases quiet : ∀ later ≥ time, events later = .cancel
    · exact ⟨time, quiet⟩
    · have busy : ∃ gap, events (time + gap) ≠ .cancel := by
        simp only [not_forall] at quiet
        obtain ⟨later, beyond, own⟩ := quiet
        exact ⟨later - time, by rwa [Nat.add_sub_cancel' beyond]⟩
      -- Up to the first step of a member the load stays as it is.
      have kept (gap : Nat) (before : gap ≤ Nat.find busy) : (states (time + gap)).load left = load := by
        induction gap with
        | zero => exact same
        | succ gap earlier =>
          obtain ⟨deed, step⟩ := step?_moves (steps (time + gap))
          rw [not_not.mp (Nat.find_min busy before)] at step
          exact step.load_of_cancel.trans (earlier (Nat.le_of_succ_le before))
      obtain ⟨deed, step⟩ := step?_moves (steps (time + Nat.find busy))
      have lighter := step.lighter rations (always _) (Nat.find_spec busy)
      rw [kept _ le_rfl] at lighter
      exact ih _ lighter _ rfl

/-- A pool of workers always returns: until then somebody can make a step, no
course of steps goes on for ever whenever the token is set, and every schedule
comes to its end. -/
theorem team_returns (returns : duty.Returns) {left : ζ → Nat} (rations : duty.Rations left) {source : ζ} {jobs : Nat}
    (several : 2 ≤ jobs) {world : σ} {trace : Trace α ω β} {state : State ζ α ω β σ}
    (run : Run duty (start source jobs world) trace state) :
    (state.finished = false → ∃ event after, event ≠ .cancel ∧ step? duty state event = some after) ∧
      (∀ (states : Nat → State ζ α ω β σ) (events : Nat → Event), states 0 = state →
        (∀ time, step? duty (states time) (events time) = some (states (time + 1))) →
          ∃ last, ∀ time ≥ last, events time = .cancel) ∧
      ∀ schedule turn, ∃ enough, ∀ fuel ≥ enough, (runFor duty schedule fuel turn state).finished = true := by
  have ends := run.ends returns (start_ends source several world)
  refine ⟨fun unfinished => ?_, fun states events first steps => ?_, fun schedule turn => ?_⟩
  · have movers : state.movers duty ≠ [] := by
      rw [ne_eq, movers_eq_nil_iff ends, unfinished]
      exact Bool.false_ne_true
    obtain ⟨mover, member, chosen⟩ := next?_of_movers_ne_nil movers 0
    obtain ⟨after, stepped⟩ := Option.isSome_iff_exists.mp (step?_of_mem_movers ends member)
    exact ⟨mover.1, after, State.next?_ne_cancel chosen, stepped⟩
  · exact eventually_cancel returns rations (first ▸ ends) steps
  · exact runFor_finished returns rations schedule turn ends

/-- Work that takes as many steps more as the number says. -/
def countdown : Duty (List Nat) Nat Nat Unit Bool where
  pull := pullList
  begin item isSet := (.pending item, isSet)
  advance rest isSet :=
    (match rest with
      | 0 => .finished ()
      | rest + 1 => .pending rest, isSet)
  due _ := 0
  collect _ _ isSet := isSet
  readToken isSet := (isSet, isSet)
  cancel _ := true

theorem countdown_returns : countdown.Returns := by
  intro item world rest begun
  clear begun
  induction rest with
  | zero =>
    refine .intro _ ?_
    rintro later ⟨_, stage⟩
    cases stage
  | succ rest ih =>
    refine .intro _ ?_
    rintro later ⟨_, stage⟩
    obtain rfl := Stage.pending.inj stage
    exact ih

/-- Three workers in the middle of three countdowns. -/
def countingDown : State (List Nat) Nat Nat Unit Bool :=
  runFor countdown (fun turn => turn) 12 0 (start [3, 1, 2] 3 false)

theorem countingDown_returns : countingDown.finished = false ∧
    (∃ event after, event ≠ .cancel ∧ step? countdown countingDown event = some after) ∧
    ∃ enough, ∀ fuel ≥ enough, (runFor countdown (fun turn => turn) fuel 12 countingDown).finished = true := by
  obtain ⟨trace, run⟩ : ∃ trace, Run countdown (start [3, 1, 2] 3 false) trace countingDown :=
    (runFor_run (fun turn => turn) 12 0 (start [3, 1, 2] 3 false)).imp fun _ run => run.1
  have unfinished : countingDown.finished = false := by decide
  have returned := team_returns countdown_returns (Duty.rations_of_pullList rfl) (by decide) run
  exact ⟨unfinished, returned.1 unfinished, returned.2.2 _ 12⟩

end Pool
end ExitParity
