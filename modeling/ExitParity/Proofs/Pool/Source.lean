import ExitParity.Proofs.Pool.Token
import Mathlib.Data.List.Infix

namespace ExitParity

variable {ζ α ω β σ : Type}

/-- The stages that work on an item can come to, whatever the worlds in which
it is begun and gone on with. -/
inductive Duty.Reaches (duty : Duty ζ α ω β σ) (item : α) : Stage ω β → Prop
  | begin (world : σ) : Reaches duty item (duty.begin item world).1
  | advance {rest : ω} (world : σ) (reached : Reaches duty item (.pending rest)) :
      Reaches duty item (duty.advance rest world).1

/-- The result of the work depends on the item alone. -/
def Duty.Computes (duty : Duty ζ α ω β σ) (work : α → β) : Prop :=
  ∀ {item : α} {result : β}, duty.Reaches item (.finished result) → result = work item

namespace Pool

variable {duty : Duty ζ α ω β σ} {isSet : σ → Bool}

/-- The answers of the source are the items of a sequence in order, and then
nothing. How it finds them may depend on the world. -/
def Trace.Draws (items : List α) (trace : Trace α ω β) : Prop :=
  ∃ idle, trace.gather Deed.pulls <+: items.map some ++ List.replicate idle none

theorem Trace.gather_takes (trace : Trace α ω β) :
    trace.gather Deed.takes = (trace.gather Deed.pulls).filterMap id := by
  induction trace with
  | nil => rfl
  | cons step late ih =>
    obtain ⟨event, deed⟩ := step
    rw [gather_cons, gather_cons, List.filterMap_append, ih]
    cases deed with
    | pull answer => cases answer <;> rfl
    | read | begin | advance | send | collect | cancel => rfl

theorem Trace.Draws.takes_prefix {items : List α} {trace : Trace α ω β} (draws : trace.Draws items) :
    trace.gather Deed.takes <+: items := by
  obtain ⟨idle, initial⟩ := draws
  rw [Trace.gather_takes]
  simpa using initial.filterMap id

/-- A source that once had nothing to give has given everything. -/
theorem Trace.Draws.takes_eq {items : List α} {trace : Trace α ω β} (draws : trace.Draws items)
    (exhausted : none ∈ trace.gather Deed.pulls) : trace.gather Deed.takes = items := by
  have given := draws.takes_prefix
  obtain ⟨idle, initial⟩ := draws
  rcases List.prefix_or_prefix_of_prefix initial (List.prefix_append (items.map some) _) with inside | beyond
  · simpa using inside.subset exhausted
  · have all := beyond.filterMap id
    rw [← Trace.gather_takes] at all
    exact given.eq_of_length_le (by simpa using all.length_le)

/-- What is left of a source gives the items of a sequence and then nothing, in
all worlds of a kind that the pool never leaves. -/
structure Gives (duty : Duty ζ α ω β σ) (kind : σ → Prop) (gives : ζ → List α → Prop) : Prop where
  kept {world : σ} (deed : Deed α ω β) (holds : kind world) : kind (deed.worldAfter duty world)
  exhausted {source : ζ} {world : σ} (holds : kind world) (left : gives source []) :
    (duty.pull source world).1 = none ∧ gives (duty.pull source world).2 []
  item {source : ζ} {world : σ} {item : α} {rest : List α} (holds : kind world) (left : gives source (item :: rest)) :
    (duty.pull source world).1 = some item ∧ gives (duty.pull source world).2 rest

theorem Run.draws {kind : σ → Prop} {gives : ζ → List α → Prop} (source : Gives duty kind gives)
    {first last : State ζ α ω β σ} {trace : Trace α ω β} (run : Run duty first trace last) (holds : kind first.world)
    {items : List α} (given : gives first.source items) : trace.Draws items := by
  suffices left : ∃ rest idle, gives last.source rest ∧ kind last.world ∧
      trace.gather Deed.pulls ++ rest.map some = items.map some ++ List.replicate idle none by
    obtain ⟨rest, idle, _, _, equal⟩ := left
    exact ⟨idle, _, equal⟩
  induction run with
  | start => exact ⟨items, 0, given, holds, by simp⟩
  | @next trace before after event deed previous step ih =>
    obtain ⟨rest, idle, left, holds', equal⟩ := ih
    have kept : kind after.world := by
      rw [step.world]
      exact source.kept deed holds'
    have behind := step.source
    cases deed with
    | pull answer =>
      have answered : (duty.pull before.source before.world).1 = answer := step.answered
      simp only [Deed.sourceAfter] at behind
      cases rest with
      | nil =>
        obtain ⟨nothing, stays⟩ := source.exhausted holds' left
        refine ⟨[], idle + 1, behind ▸ stays, kept, ?_⟩
        rw [List.replicate_succ', ← List.append_assoc, ← equal, ← answered, nothing]
        simp
      | cons item rest =>
        obtain ⟨found, stays⟩ := source.item holds' left
        refine ⟨rest, idle, behind ▸ stays, kept, ?_⟩
        rw [← equal, ← answered, found]
        simp
    | read | begin | advance | send | collect | cancel =>
      refine ⟨rest, idle, behind ▸ left, kept, ?_⟩
      rw [← equal]
      simp

/-- A list that is taken item by item draws its items, in every run. -/
theorem Run.draws_of_pullList {duty : Duty (List α) α ω β σ} (taken : duty.pull = pullList) {items : List α}
    {jobs : Nat} {world : σ} {trace : Trace α ω β} {last : State (List α) α ω β σ}
    (run : Run duty (Pool.start items jobs world) trace last) : trace.Draws items := by
  have source : Gives duty (fun _ => True) (· = ·) := by
    refine ⟨fun _ _ => trivial, fun _ left => ?_, fun _ left => ?_⟩
    · rw [taken, left]
      exact ⟨rfl, rfl⟩
    · rw [taken, left]
      exact ⟨rfl, rfl⟩
  exact run.draws source trivial rfl

/-- Work on an item is left in this state. -/
def Crew.InWork (item : α) (rest : ω) : Crew α ω β → Prop
  | .alone caller => caller = .busy item rest
  | .team workers _ => .busy item rest ∈ workers

theorem Crew.Moves.inWork_before {crew next : Crew α ω β} {event : Event} {item : α} {rest : ω} {stage : Stage ω β}
    (move : crew.Moves event (.advance item rest stage) next) : crew.InWork item rest := by
  cases move with
  | caller move => cases move; rfl
  | worker found move => cases move; exact List.mem_of_getElem? found

theorem Crew.Moves.inWork_after {crew next : Crew α ω β} {event : Event} {deed : Deed α ω β} {item : α} {rest : ω}
    (move : crew.Moves event deed next) (inWork : next.InWork item rest) :
    crew.InWork item rest ∨ deed = .begin item (.pending rest) ∨
      ∃ earlier, deed = .advance item earlier (.pending rest) := by
  cases move with
  | caller move =>
    cases move with
    | begin other stage =>
      cases stage <;> simp_all [Crew.InWork, Caller.atStage]
    | advance other earlier stage =>
      cases stage <;> simp_all [Crew.InWork, Caller.atStage]
    | exhaust | pull | heed | check | collect => simp [Crew.InWork] at inWork
  | @worker workers sent index worker next deed found move =>
    rcases List.mem_or_eq_of_mem_set inWork with old | same
    · exact .inl old
    · cases move with
      | begin other stage => cases stage <;> simp_all [Worker.atStage]
      | advance other earlier stage => cases stage <;> simp_all [Worker.atStage]
      | exhaust | pull | heed | check | send => simp at same
  | collect | cancel => exact .inl inWork

theorem Run.reaches {first last : State ζ α ω β σ} {trace : Trace α ω β} (run : Run duty first trace last)
    (idle : ∀ item rest, ¬ first.crew.InWork item rest) :
    (∀ item rest, last.crew.InWork item rest → duty.Reaches item (.pending rest)) ∧
      ∀ item result, (item, result) ∈ trace.gather Deed.returns → duty.Reaches item (.finished result) := by
  induction run with
  | start => exact ⟨fun item rest inWork => absurd inWork (idle item rest), by simp⟩
  | @next trace before after event deed previous step ih =>
    obtain ⟨left, returned⟩ := ih
    have begun {item stage} (same : deed = .begin item stage) : duty.Reaches item stage := by
      subst same
      have answered : (duty.begin item before.world).1 = stage := step.answered
      exact answered ▸ .begin before.world
    have advanced {item rest stage} (same : deed = .advance item rest stage) : duty.Reaches item stage := by
      subst same
      have answered : (duty.advance rest before.world).1 = stage := step.answered
      exact answered ▸ .advance before.world (left item rest step.crew.inWork_before)
    refine ⟨?_, ?_⟩
    · intro item rest inWork
      rcases step.crew.inWork_after inWork with old | same | ⟨earlier, same⟩
      · exact left item rest old
      · exact begun same
      · exact advanced same
    · intro item result member
      rw [Trace.gather_append, List.mem_append] at member
      rcases member with old | new
      · exact returned item result old
      · cases deed with
        | begin other stage =>
          cases stage with
          | finished =>
            obtain ⟨rfl, rfl⟩ : item = other ∧ result = _ := by simpa using new
            exact begun rfl
          | pending => simp at new
        | advance other rest stage =>
          cases stage with
          | finished =>
            obtain ⟨rfl, rfl⟩ : item = other ∧ result = _ := by simpa using new
            exact advanced rfl
          | pending => simp at new
        | read | pull | send | collect | cancel => simp at new

/-- Somebody has left, or the caller has ended. -/
def Crew.SomeoneLeft : Crew α ω β → Prop
  | .alone caller => caller.isEnded = true
  | .team workers _ => ∃ worker ∈ workers, worker.isGone = true

/-- Nobody leaves but for the token or for want of items. -/
theorem Crew.Moves.reason_to_leave {crew next : Crew α ω β} {event : Event} {deed : Deed α ω β}
    (move : crew.Moves event deed next) (left : next.SomeoneLeft) :
    crew.SomeoneLeft ∨ deed = .read true ∨ deed = .pull none := by
  cases move with
  | caller move =>
    cases move with
    | heed | exhaust => simp
    | begin item stage | advance item rest stage =>
      cases stage <;> simp [Crew.SomeoneLeft, Caller.atStage, Caller.isEnded] at left
    | pull | check | collect => simp [Crew.SomeoneLeft, Caller.isEnded] at left
  | @worker workers sent index worker next deed found move =>
    obtain ⟨leaver, member, gone⟩ := left
    rcases List.mem_or_eq_of_mem_set member with old | rfl
    · exact .inl ⟨leaver, old, gone⟩
    · cases move with
      | heed | exhaust => simp
      | begin item stage | advance item rest stage => cases stage <;> simp [Worker.atStage, Worker.isGone] at gone
      | pull | check | send => simp [Worker.isGone] at gone
  | collect | cancel => exact .inl left

theorem Run.reason_to_leave {first last : State ζ α ω β σ} {trace : Trace α ω β} (run : Run duty first trace last)
    (present : ¬ first.crew.SomeoneLeft) (left : last.crew.SomeoneLeft) :
    (∃ who, (who, .read true) ∈ trace) ∨ none ∈ trace.gather Deed.pulls := by
  induction run with
  | start => exact absurd left present
  | @next trace before after event deed previous step ih =>
    rcases step.crew.reason_to_leave left with old | rfl | rfl
    · rcases ih old with ⟨who, seen⟩ | exhausted
      · exact .inl ⟨who, List.mem_append_left _ seen⟩
      · exact .inr (by simp [exhausted])
    · exact .inl ⟨event, by simp⟩
    · exact .inr (by simp)

end Pool
end ExitParity
