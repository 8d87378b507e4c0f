import ExitParity.Proofs.Pool.Balance
import ExitParity.Proofs.Pool.Source

namespace ExitParity.Pool

variable {ζ α ω β σ : Type} {duty : Duty ζ α ω β σ} {isSet : σ → Bool}

/-- A caller that works alone has one item in hand at most, so everything
happens in the order of the items. -/
structure Orderly (trace : Trace α ω β) (state : State ζ α ω β σ) (caller : Caller α ω β) : Prop where
  returned : trace.gather Deed.returns = state.collected ++ caller.carried
  begun : state.begun = (trace.gather Deed.returns).map Prod.fst ++ caller.occupied
  taken : ∃ left, trace.gather Deed.takes = state.begun ++ caller.held ++ left ∧ left.length ≤ 1 ∧
    (left ≠ [] → (.caller, .read true) ∈ trace ∧ caller = .ended)

theorem Orderly.next {trace : Trace α ω β} {before after : State ζ α ω β σ} {caller next : Caller α ω β}
    {deed : Deed α ω β} (order : Orderly trace before caller) (step : Step duty before .caller deed after)
    (move : caller.Moves deed next) : Orderly (trace ++ [(.caller, deed)]) after next := by
  obtain ⟨returned, begun, left, taken, short, dropped⟩ := order
  have begunAfter := step.begun
  have collectedAfter := step.collected
  have nothing (here : caller ≠ .ended) : left = [] := by
    by_contra some_
    exact here (dropped some_).2
  cases move with
  | heed item =>
    obtain rfl := nothing (by simp)
    refine ⟨?_, ?_, [item], ?_, le_rfl, fun _ => ⟨by simp, rfl⟩⟩
    · simpa [collectedAfter] using returned
    · simpa [begunAfter] using begun
    · simpa [begunAfter] using taken
  | begin item stage | advance item rest stage =>
    obtain rfl := nothing (by simp)
    cases stage with
    | finished result =>
      refine ⟨?_, ?_, [], ?_, Nat.zero_le 1, fun some_ => absurd rfl some_⟩
      · simpa [collectedAfter, Caller.atStage] using returned
      · simpa [begunAfter, Caller.atStage] using begun
      · simpa [begunAfter, Caller.atStage] using taken
    | pending rest =>
      refine ⟨?_, ?_, [], ?_, Nat.zero_le 1, fun some_ => absurd rfl some_⟩
      · simpa [collectedAfter, Caller.atStage] using returned
      · simpa [begunAfter, Caller.atStage] using begun
      · simpa [begunAfter, Caller.atStage] using taken
  | exhaust | pull | check | collect =>
    obtain rfl := nothing (by simp)
    refine ⟨?_, ?_, [], ?_, Nat.zero_le 1, fun some_ => absurd rfl some_⟩
    · simpa [collectedAfter] using returned
    · simpa [begunAfter] using begun
    · simpa [begunAfter] using taken

theorem Run.orderly {source : ζ} {jobs : Nat} {world : σ} {trace : Trace α ω β} {last : State ζ α ω β σ}
    (run : Run duty (Pool.start source jobs world) trace last) (one : jobs ≤ 1) :
    ∃ caller, last.crew = .alone caller ∧ Orderly trace last caller := by
  induction run with
  | start =>
    refine ⟨.pulling, by simp [Pool.start, one], rfl, rfl, [], rfl, Nat.zero_le 1, fun some_ => absurd rfl some_⟩
  | @next trace before after event deed previous step ih =>
    obtain ⟨caller, alone, order⟩ := ih
    have moved := step.crew
    generalize into : after.crew = next at moved
    rw [alone] at moved
    cases moved with
    | caller move => exact ⟨_, rfl, order.next step move⟩
    | cancel =>
      obtain ⟨returned, begun, left, taken, short, dropped⟩ := order
      refine ⟨caller, rfl, ?_, ?_, left, ?_, short, fun some_ => ⟨by simp [dropped some_], (dropped some_).2⟩⟩
      · simpa [step.collected] using returned
      · simpa [step.begun] using begun
      · simpa [step.begun] using taken

/-- Only the caller begins items when it works alone. -/
theorem Run.begins_of_caller {first last : State ζ α ω β σ} {trace : Trace α ω β} (run : Run duty first trace last)
    (alone : first.crew.staff = none) : (trace.of_ .caller).gather Deed.begins = trace.gather Deed.begins := by
  induction run with
  | start => rfl
  | @next trace before after event deed previous step ih =>
    have here := previous.staff_eq.trans alone
    have moved := step.crew
    generalize before.crew = crew, after.crew = next at moved here
    simp only [Trace.of_, List.filter_append, Trace.gather_append] at ih ⊢
    rw [ih]
    cases moved with
    | caller => simp
    | worker | collect => simp [Crew.staff] at here
    | cancel => simp

theorem finished_caller {state : State ζ α ω β σ} {caller : Caller α ω β} (alone : state.crew = .alone caller)
    (finished : state.finished = true) : caller = .ended := by
  simp only [State.finished, alone] at finished
  cases caller <;> simp_all [Caller.isEnded]

theorem finished_team {state : State ζ α ω β σ} {workers : List (Worker α ω β)} {sent : List (α × β)}
    (team : state.crew = .team workers sent) (finished : state.finished = true) :
    (∀ worker ∈ workers, worker = .gone) ∧ sent = [] := by
  simp only [State.finished, team, Bool.and_eq_true, List.all_eq_true, List.isEmpty_iff] at finished
  refine ⟨fun worker member => ?_, finished.2⟩
  have gone := finished.1 worker member
  cases worker <;> simp_all [Worker.isGone]

/-- Nothing is in anybody's hands when a pool has returned. -/
theorem finished_empty {state : State ζ α ω β σ} (finished : state.finished = true) :
    state.crew.held = 0 ∧ state.crew.occupied = 0 ∧ state.crew.carried = 0 := by
  rcases crew : state.crew with caller | ⟨workers, sent⟩
  · obtain rfl := finished_caller crew finished
    exact ⟨rfl, rfl, rfl⟩
  · obtain ⟨gone, rfl⟩ := finished_team crew finished
    have nothing {γ : Type} (view : Worker α ω β → List γ) (none_ : view .gone = []) : together view workers = 0 :=
      together_eq_zero view fun worker member => gone worker member ▸ none_
    exact ⟨nothing _ rfl, nothing _ rfl, by simp [Crew.carried, nothing Worker.carried rfl]⟩

theorem finished_someoneLeft {state : State ζ α ω β σ} (finished : state.finished = true)
    (staffed : state.crew.staff ≠ some 0) : state.crew.SomeoneLeft := by
  rcases crew : state.crew with caller | ⟨workers, sent⟩
  · obtain rfl := finished_caller crew finished
    rfl
  · cases workers with
    | nil => simp [crew, Crew.staff] at staffed
    | cons worker rest =>
      have gone := (finished_team crew finished).1 worker List.mem_cons_self
      exact ⟨worker, List.mem_cons_self, by rw [gone]; rfl⟩

theorem start_staff (source : ζ) (jobs : Nat) (world : σ) :
    (start (α := α) (ω := ω) (β := β) source jobs world).crew.staff = if jobs ≤ 1 then none else some jobs := by
  unfold start
  split <;> simp [Crew.staff]

theorem start_present (source : ζ) (jobs : Nat) (world : σ) :
    ¬ (start (α := α) (ω := ω) (β := β) source jobs world).crew.SomeoneLeft := by
  unfold start
  split
  · simp [Crew.SomeoneLeft, Caller.isEnded]
  · rintro ⟨worker, member, gone⟩
    obtain rfl := List.eq_of_mem_replicate member
    simp [Worker.isGone] at gone

theorem start_idle (source : ζ) (jobs : Nat) (world : σ) (item : α) (rest : ω) :
    ¬ (start (β := β) source jobs world).crew.InWork item rest := by
  unfold start
  split
  · simp [Crew.InWork]
  · intro inWork
    have equal := List.eq_of_mem_replicate inWork
    simp at equal

theorem start_empty (source : ζ) (jobs : Nat) (world : σ) :
    (start (α := α) (ω := ω) (β := β) source jobs world).crew.held = 0 ∧
      (start (α := α) (ω := ω) (β := β) source jobs world).crew.occupied = 0 ∧
      (start (α := α) (ω := ω) (β := β) source jobs world).crew.carried = 0 := by
  unfold start
  split
  · exact ⟨rfl, rfl, rfl⟩
  · have nothing {γ : Type} (view : Worker α ω β → List γ) (none_ : view .ready = []) :
        together view (List.replicate jobs .ready) = 0 :=
      together_eq_zero view fun worker member => List.eq_of_mem_replicate member ▸ none_
    exact ⟨nothing _ rfl, nothing _ rfl, by simp [Crew.carried, nothing Worker.carried rfl]⟩

section Returned
variable {source : ζ} {jobs : Nat} {world : σ} {items : List α} {trace : Trace α ω β} {last : State ζ α ω β σ}

theorem Run.collected_perm (run : Run duty (Pool.start source jobs world) trace last)
    (finished : last.finished = true) : last.collected.Perm (trace.gather Deed.returns) := by
  have balance := run.returns_balance
  rw [(finished_empty finished).2.2, (start_empty source jobs world).2.2, zero_add, zero_add] at balance
  have collected := run.collected_eq
  simp only [Pool.start, List.nil_append] at collected
  rw [collected]
  exact Multiset.coe_eq_coe.mp balance

theorem Run.begun_perm (run : Run duty (Pool.start source jobs world) trace last) (finished : last.finished = true) :
    last.begun.Perm ((trace.gather Deed.returns).map Prod.fst) := by
  have balance := run.begins_balance
  rw [(finished_empty finished).2.1, (start_empty source jobs world).2.1, zero_add, zero_add] at balance
  have begun := run.begun_eq
  simp only [Pool.start, List.nil_append] at begun
  rw [begun]
  exact (Multiset.coe_eq_coe.mp balance).symm

theorem Run.results_computed (run : Run duty (Pool.start source jobs world) trace last)
    (finished : last.finished = true) {work : α → β} (computes : duty.Computes work) :
    last.collected.Perm (last.begun.map fun item => (item, work item)) := by
  have reaches := (run.reaches (start_idle source jobs world)).2
  have results : ((trace.gather Deed.returns).map Prod.fst).map (fun item => (item, work item)) =
      trace.gather Deed.returns := by
    conv_rhs => rw [← List.map_id (trace.gather Deed.returns)]
    rw [List.map_map]
    refine List.map_congr_left fun pair member => ?_
    have result := computes (reaches pair.1 pair.2 member)
    simp [← result]
  have begun := (run.begun_perm finished).map fun item => (item, work item)
  rw [results] at begun
  exact (run.collected_perm finished).trans begun.symm

/-- Workers leave no item that they have pulled. -/
theorem Run.begun_perm_takes (run : Run duty (Pool.start source jobs world) trace last)
    (finished : last.finished = true) (several : ¬ jobs ≤ 1) : last.begun.Perm (trace.gather Deed.takes) := by
  have team : (Pool.start (α := α) (ω := ω) (β := β) source jobs world).crew.staff ≠ none := by
    simp [start_staff, several]
  have balance := run.takes_balance team
  rw [(finished_empty finished).1, (start_empty source jobs world).1, zero_add, zero_add] at balance
  have begun := run.begun_eq
  simp only [Pool.start, List.nil_append] at begun
  rw [begun]
  exact Multiset.coe_eq_coe.mp balance

/-- The items begun are the first ones of the sequence. -/
theorem Run.begun_take (run : Run duty (Pool.start source jobs world) trace last) (finished : last.finished = true)
    (draws : trace.Draws items) : ∃ count, last.begun.Perm (items.take count) := by
  have given := draws.takes_prefix
  by_cases one : jobs ≤ 1
  · obtain ⟨caller, _, order⟩ := run.orderly one
    obtain ⟨left, taken, _⟩ := order.taken
    have begun : last.begun <+: items := by
      refine List.IsPrefix.trans ?_ given
      rw [taken, List.append_assoc]
      exact List.prefix_append _ _
    exact ⟨last.begun.length, by rw [← List.prefix_iff_eq_take.mp begun]⟩
  · refine ⟨(trace.gather Deed.takes).length, ?_⟩
    rw [← List.prefix_iff_eq_take.mp given]
    exact run.begun_perm_takes finished one

/-- Every item is begun unless the token was set. -/
theorem Run.begun_all (heeds : duty.Heeds isSet) (run : Run duty (Pool.start source jobs world) trace last)
    (finished : last.finished = true) (draws : trace.Draws items) (unset : isSet last.world = false) :
    last.begun.Perm items := by
  have unread (who : Event) : (who, .read true) ∉ trace := fun seen => by
    simp [run.set_of_read heeds seen] at unset
  have staffed : last.crew.staff ≠ some 0 := by
    rw [run.staff_eq, start_staff]
    split
    · simp
    · simp only [ne_eq, Option.some.injEq]
      omega
  have exhausted : none ∈ trace.gather Deed.pulls := by
    rcases run.reason_to_leave (start_present source jobs world) (finished_someoneLeft finished staffed) with
      ⟨who, seen⟩ | exhausted
    · exact absurd seen (unread who)
    · exact exhausted
  have all := draws.takes_eq exhausted
  by_cases one : jobs ≤ 1
  · obtain ⟨caller, alone, order⟩ := run.orderly one
    obtain rfl := finished_caller alone finished
    obtain ⟨left, taken, _, dropped⟩ := order.taken
    have nothing : left = [] := by
      by_contra some_
      exact unread .caller (dropped some_).1
    rw [← all, taken, nothing]
    simp
  · rw [← all]
    exact run.begun_perm_takes finished one

theorem Run.collected_in_order (run : Run duty (Pool.start source jobs world) trace last) (one : jobs ≤ 1)
    (finished : last.finished = true) :
    last.begun = last.collected.map Prod.fst ∧
      ∃ left, trace.gather Deed.takes = last.begun ++ left ∧ left.length ≤ 1 := by
  obtain ⟨caller, alone, order⟩ := run.orderly one
  obtain rfl := finished_caller alone finished
  obtain ⟨returned, begun, left, taken, short, _⟩ := order
  refine ⟨?_, left, by simpa using taken, short⟩
  rw [begun, returned]
  simp

/-- A caller that is about to begin an item has collected all before it. -/
theorem Run.collected_before_begin (run : Run duty (Pool.start source jobs world) trace last) (one : jobs ≤ 1)
    {who : Event} {item : α} {stage : Stage ω β} {next : State ζ α ω β σ}
    (step : Step duty last who (.begin item stage) next) : last.begun = last.collected.map Prod.fst := by
  obtain ⟨caller, alone, order⟩ := run.orderly one
  have moved := step.crew
  rw [alone] at moved
  generalize next.crew = crew at moved
  cases moved with
  | caller move =>
    cases move
    rw [order.begun, order.returned]
    simp

end Returned

/-- A step in which the caller's own work or collection runs leaves it at a
place from which the token is read before anything is begun. -/
theorem Crew.Moves.allowance_of_callsOut {crew next : Crew α ω β} {event : Event} {deed : Deed α ω β}
    (move : crew.Moves event deed next) (alone : crew.staff = none) (called : deed.callsOut = true) :
    next.allowance .caller = 0 := by
  cases move with
  | caller move =>
    cases move with
    | begin | advance => simp [Crew.allowance]
    | collect => rfl
    | exhaust | pull | heed | check => simp at called
  | worker | collect => simp [Crew.staff] at alone
  | cancel => simp at called

/-- What a pool that has returned has made of the items of its source. The
two lists are compared as multisets: workers return in any order. -/
structure Delivery (duty : Duty ζ α ω β σ) (isSet : σ → Bool) (items : List α) (first last : State ζ α ω β σ)
    (trace : Trace α ω β) : Prop where
  /-- Every result of the work is collected, once, and nothing else. -/
  collected : last.collected.Perm (trace.gather Deed.returns)
  returned : last.begun.Perm ((trace.gather Deed.returns).map Prod.fst)
  computed (work : α → β) : duty.Computes work → last.collected.Perm (last.begun.map fun item => (item, work item))
  begun : ∃ count, last.begun.Perm (items.take count)
  complete : isSet last.world = false → last.begun.Perm items
  /-- From a moment on at which the token is set, each member begins one item at most. -/
  stopped {early late : Trace α ω β} {middle later : State ζ α ω β σ} (who : Event) :
    Run duty first early middle → isSet middle.world = true → Run duty middle late later →
      ((late.of_ who).gather Deed.begins).length ≤ 1

/-- What more is so when the caller works alone. -/
structure OrderlyDelivery (duty : Duty ζ α ω β σ) (isSet : σ → Bool) (items : List α) (first last : State ζ α ω β σ)
    (trace : Trace α ω β) : Prop where
  ordered : last.collected.map Prod.fst <+: items
  alternating {early : Trace α ω β} {middle next : State ζ α ω β σ} {who : Event} {item : α} {stage : Stage ω β} :
    Run duty first early middle → Step duty middle who (.begin item stage) next →
      middle.begun = middle.collected.map Prod.fst
  /-- Nothing is begun once the work or the collection has set the token. -/
  heeded {early late : Trace α ω β} {middle next later : State ζ α ω β σ} {who : Event} {deed : Deed α ω β} :
    Run duty first early middle → Step duty middle who deed next → deed.callsOut = true →
      isSet next.world = true → Run duty next late later → late.gather Deed.begins = []
  /-- One item at most is begun once somebody outside has set it. -/
  spared {early late : Trace α ω β} {middle later : State ζ α ω β σ} :
    Run duty first early middle → isSet middle.world = true → Run duty middle late later →
      (late.gather Deed.begins).length ≤ 1
  left : ∃ left, trace.gather Deed.takes = last.begun ++ left ∧ left.length ≤ 1

/-- A pool loses, doubles and skips nothing, in whatever order its members
make their steps and somebody outside sets the token. -/
theorem delivery_of_finished (heeds : duty.Heeds isSet) {source : ζ} {items : List α} {jobs : Nat} {world : σ}
    {trace : Trace α ω β} {last : State ζ α ω β σ} (run : Run duty (start source jobs world) trace last)
    (finished : last.finished = true) (draws : trace.Draws items) :
    Delivery duty isSet items (start source jobs world) last trace ∧
      (jobs ≤ 1 → OrderlyDelivery duty isSet items (start source jobs world) last trace) := by
  have bounded {early late : Trace α ω β} {middle later : State ζ α ω β σ} (who : Event)
      (_ : Run duty (start source jobs world) early middle) (set : isSet middle.world = true)
      (further : Run duty middle late later) : ((late.of_ who).gather Deed.begins).length ≤ 1 := by
    have bound := further.begins_le_allowance heeds set who
    have one := middle.crew.allowance_le_one who
    omega
  refine ⟨⟨run.collected_perm finished, run.begun_perm finished, fun _ => run.results_computed finished,
    run.begun_take finished draws, run.begun_all heeds finished draws, bounded⟩, fun one => ?_⟩
  have alone {early : Trace α ω β} {middle : State ζ α ω β σ}
      (previous : Run duty (start source jobs world) early middle) : middle.crew.staff = none := by
    rw [previous.staff_eq, start_staff, if_pos one]
  obtain ⟨begun, left, taken, short⟩ := run.collected_in_order one finished
  refine ⟨?_, fun previous step => previous.collected_before_begin one step, ?_, ?_, left, taken, short⟩
  · rw [← begun]
    refine List.IsPrefix.trans ?_ draws.takes_prefix
    rw [taken]
    exact List.prefix_append _ _
  · intro early late middle next later who deed previous step called set further
    have bound := further.begins_le_allowance heeds set .caller
    rw [step.crew.allowance_of_callsOut (alone previous) called,
      further.begins_of_caller (step.crew.staff_eq.trans (alone previous))] at bound
    exact List.length_eq_zero_iff.mp (by omega)
  · intro early late middle later previous set further
    rw [← further.begins_of_caller (alone previous)]
    exact bounded .caller previous set further

/-- Work that doubles numbers, and sets the token at the number three. -/
def doubling : Duty (List Nat) Nat Empty Nat Bool where
  pull := pullList
  begin item isSet := (.finished (2 * item), isSet || item == 3)
  advance := nofun
  due := nofun
  collect _ _ isSet := isSet
  readToken isSet := (isSet, isSet)
  cancel _ := true

theorem doubling_heeds : doubling.Heeds id where
  read _ := rfl
  cancel _ := rfl
  kept_read set := set
  kept_begin item set := by simp only [id] at set; simp [doubling, set]
  kept_advance := nofun
  kept_collect _ _ set := set

theorem doubling_computes : doubling.Computes (2 * ·) := by
  intro item result reached
  generalize same : Stage.finished result = stage at reached
  cases reached with
  | begin => exact Stage.finished.inj same
  | @advance rest => exact rest.elim

/-- Two workers and then a caller alone, who both stop behind the number
three. The second worker has a fourth item by then. -/
theorem doubling_delivery :
    (∃ trace, Delivery doubling id [1, 2, 3, 4, 5, 6] (start [1, 2, 3, 4, 5, 6] 2 false)
      (run doubling id [1, 2, 3, 4, 5, 6] 2 false) trace) ∧
    (run doubling id [1, 2, 3, 4, 5, 6] 2 false).collected = [(1, 2), (2, 4), (3, 6), (4, 8)] ∧
    (∃ trace, OrderlyDelivery doubling id [1, 2, 3, 4, 5, 6] (start [1, 2, 3, 4, 5, 6] 1 false)
      (run doubling id [1, 2, 3, 4, 5, 6] 1 false) trace) ∧
    (run doubling id [1, 2, 3, 4, 5, 6] 1 false).collected = [(1, 2), (2, 4), (3, 6)] ∧
    (run doubling id [1, 2, 3, 4, 5, 6] 2 false).collected.Perm
      ((run doubling id [1, 2, 3, 4, 5, 6] 2 false).begun.map fun item => (item, 2 * item)) := by
  obtain ⟨team, teamRun⟩ := run_run doubling id [1, 2, 3, 4, 5, 6] 2 false
  obtain ⟨alone, aloneRun⟩ := run_run doubling id [1, 2, 3, 4, 5, 6] 1 false
  have teamDelivery := delivery_of_finished doubling_heeds teamRun (by decide) (teamRun.draws_of_pullList rfl)
  have aloneDelivery := delivery_of_finished doubling_heeds aloneRun (by decide) (aloneRun.draws_of_pullList rfl)
  exact ⟨⟨team, teamDelivery.1⟩, by decide, ⟨alone, aloneDelivery.2 le_rfl⟩, by decide,
    teamDelivery.1.computed _ doubling_computes⟩

end ExitParity.Pool
