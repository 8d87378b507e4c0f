import ExitParity.Proofs.Pool.Run

namespace ExitParity

variable {ζ α ω β σ : Type}

/-- Worlds that a pool cannot tell apart: it gets the same answers in both, and
what it does in both leaves them alike. -/
structure Duty.Respects (duty : Duty ζ α ω β σ) (alike : σ → σ → Prop) : Prop where
  pull {world other : σ} (source : ζ) (same : alike world other) : duty.pull source other = duty.pull source world
  begin {world other : σ} (item : α) (same : alike world other) :
    (duty.begin item other).1 = (duty.begin item world).1 ∧ alike (duty.begin item world).2 (duty.begin item other).2
  advance {world other : σ} (rest : ω) (same : alike world other) :
    (duty.advance rest other).1 = (duty.advance rest world).1 ∧
      alike (duty.advance rest world).2 (duty.advance rest other).2
  collect {world other : σ} (item : α) (result : β) (same : alike world other) :
    alike (duty.collect item result world) (duty.collect item result other)
  readToken {world other : σ} (same : alike world other) :
    (duty.readToken other).1 = (duty.readToken world).1 ∧ alike (duty.readToken world).2 (duty.readToken other).2
  cancel {world other : σ} (same : alike world other) : alike (duty.cancel world) (duty.cancel other)

namespace Pool

variable {duty : Duty ζ α ω β σ} {alike : σ → σ → Prop} {world other : σ}

theorem Deed.answered_alike (respects : duty.Respects alike) (same : alike world other) {source : ζ}
    {deed : Deed α ω β} (answered : deed.Answered duty source world) : deed.Answered duty source other := by
  cases deed with
  | read => exact (respects.readToken same).1.trans answered
  | pull => exact (congrArg Prod.fst (respects.pull source same)).trans answered
  | begin item => exact (respects.begin item same).1.trans answered
  | advance _ rest => exact (respects.advance rest same).1.trans answered
  | send | collect | cancel => trivial

theorem Deed.sourceAfter_alike (respects : duty.Respects alike) (same : alike world other) (source : ζ)
    (deed : Deed α ω β) : deed.sourceAfter duty source other = deed.sourceAfter duty source world := by
  cases deed with
  | pull => exact congrArg Prod.snd (respects.pull source same)
  | read | begin | advance | send | collect | cancel => rfl

theorem Deed.worldAfter_alike (respects : duty.Respects alike) (same : alike world other) (deed : Deed α ω β) :
    alike (deed.worldAfter duty world) (deed.worldAfter duty other) := by
  cases deed with
  | read => exact (respects.readToken same).2
  | begin item => exact (respects.begin item same).2
  | advance _ rest => exact (respects.advance rest same).2
  | collect item result => exact respects.collect item result same
  | cancel => exact respects.cancel same
  | pull | send => exact same

theorem Step.lockstep (respects : duty.Respects alike) {before after : State ζ α ω β σ} {event : Event}
    {deed : Deed α ω β} (step : Step duty before event deed after) (same : alike before.world other) :
    ∃ left, alike after.world left ∧
      Step duty { before with world := other } event deed { after with world := left } := by
  refine ⟨deed.worldAfter duty other, ?_, ?_⟩
  · rw [step.world]
    exact deed.worldAfter_alike respects same
  · exact ⟨step.crew, Deed.answered_alike respects same step.answered,
      step.source.trans (deed.sourceAfter_alike respects same before.source).symm, rfl, step.begun, step.collected⟩

/-- In a world that it cannot tell apart a pool makes the same run. -/
theorem Run.lockstep (respects : duty.Respects alike) {first last : State ζ α ω β σ} {trace : Trace α ω β}
    (run : Run duty first trace last) (same : alike first.world other) :
    ∃ left, alike last.world left ∧ Run duty { first with world := other } trace { last with world := left } := by
  induction run with
  | start => exact ⟨other, same, .start⟩
  | next previous step ih =>
    obtain ⟨between, here, earlier⟩ := ih
    obtain ⟨left, there, later⟩ := step.lockstep respects here
    exact ⟨left, there, earlier.next later⟩

/-- What every harmless deed keeps of the world is kept by a run in which
nothing else is done. -/
theorem Run.kept {kind : σ → Prop} {harmless : Deed α ω β → Prop}
    (kept : ∀ (deed : Deed α ω β) (world : σ), harmless deed → kind world → kind (deed.worldAfter duty world))
    {first last : State ζ α ω β σ} {trace : Trace α ω β} (run : Run duty first trace last)
    (all : ∀ step ∈ trace, harmless step.2) (holds : kind first.world) : kind last.world := by
  induction run with
  | start => exact holds
  | @next trace before after event deed previous step ih =>
    obtain ⟨earlier, here⟩ := List.forall_mem_append.mp all
    rw [step.world]
    exact kept deed before.world (here (event, deed) List.mem_cons_self) (ih earlier)

end Pool
end ExitParity
