import ExitParity.Proofs.Evaluation.Work

namespace ExitParity

variable {τ σ : Type}

/-- Whether the token is found set when it is read now. -/
def Host.isCancelled (host : Host) : Bool := host.token.isSet host.clock

theorem Host.isCancelled_readToken {host : Host} (set : host.isCancelled = true) :
    host.readToken.2.isCancelled = true :=
  Token.isSet_of_le (Nat.le_succ _) set

theorem Host.isCancelled_cancel (host : Host) : host.cancel.isCancelled = true :=
  host.token.isSet_cancel le_rfl

/-- Nothing that answers a call unsets the token. -/
abbrev Responder.KeepsToken (responder : Responder τ (Host × σ)) : Prop :=
  responder.Keeps fun host => host.isCancelled = true

/-- Nothing is in the report yet. -/
structure Report.Fresh (report : Report) : Prop where
  empty (outcome : Outcome) : report.bucket outcome = []
  running : report.interrupted = false

theorem Report.fresh_empty (suite : String) : (Report.empty suite).Fresh :=
  ⟨fun outcome => by cases outcome <;> rfl, rfl⟩

theorem Report.Fresh.failPreparation {report : Report} (fresh : report.Fresh) (failure : String) :
    (report.failPreparation failure).Fresh :=
  ⟨fun outcome => by have empty := fresh.empty outcome; cases outcome <;> exact empty, fresh.running⟩

theorem Report.record_filed (report : Report) (sink : Sink) (printed : Nat) (path : Path) (outcome : Outcome) :
    (report.record sink printed path outcome).2.1 = report.file path outcome := by
  unfold record
  split <;> rfl

theorem Report.interrupted_file (report : Report) (path : Path) (outcome : Outcome) :
    (report.file path outcome).interrupted = report.interrupted := by
  cases outcome <;> rfl

namespace Evaluation

open Comparison

variable {responder : Responder τ (Host × σ)} {protocol : Protocol}

/-- What collecting a result does: nothing is filed once the token is set, an
interrupt sets it, and any other result is filed. -/
theorem collect_cases (pair : ArtifactPair) (ending : Ending) (state : State σ) :
    ((collect pair ending state).report = state.report ∧ (collect pair ending state).host.isCancelled = true) ∨
      state.host.isCancelled = false ∧ ∃ outcome, outcomeOf ending = some outcome ∧
        (collect pair ending state).report = state.report.file pair.root outcome := by
  have reading : state.host.readToken.1 = state.host.isCancelled := rfl
  cases set : state.host.isCancelled with
  | true =>
    rw [collect_ignored (reading.trans set)]
    exact .inl ⟨rfl, Host.isCancelled_readToken set⟩
  | false =>
    cases counted : outcomeOf ending with
    | none =>
      rw [collect_interrupted (reading.trans set) pair counted]
      exact .inl ⟨rfl, Host.isCancelled_cancel _⟩
    | some outcome =>
      rw [collect_counted (reading.trans set) pair counted]
      exact .inr ⟨rfl, outcome, rfl, Report.record_filed ..⟩

/-- The evaluation's duty heeds the token of the host. -/
theorem duty_heeds (keeps : responder.KeepsToken) :
    (duty protocol responder).Heeds fun state : State σ => state.host.isCancelled where
  read _ := rfl
  cancel state := state.host.isCancelled_cancel
  kept_read set := Host.isCancelled_readToken set
  kept_begin pair set := proceed_keeps keeps (protocol.plan pair).course set
  kept_advance suspended set := resume_keeps keeps suspended set
  kept_collect {state} pair ending set := by
    rcases collect_cases pair ending state with ⟨_, kept⟩ | ⟨unset, _⟩
    · exact kept
    · simp [set] at unset

/-- The report holds these results and nothing else, each where its outcome
belongs. -/
structure Filed (report : Report) (taken : List (ArtifactPair × Ending)) : Prop where
  counted : ∀ result ∈ taken, (outcomeOf result.2).isSome = true
  bucket (outcome : Outcome) :
    report.bucket outcome =
      (taken.filter fun result => outcomeOf result.2 = some outcome).map fun result => result.1.root

theorem Filed.next {report : Report} {taken : List (ArtifactPair × Ending)} (filed : Filed report taken)
    {pair : ArtifactPair} {ending : Ending} {outcome : Outcome} (counts : outcomeOf ending = some outcome) :
    Filed (report.file pair.root outcome) (taken ++ [(pair, ending)]) := by
  refine ⟨fun result member => ?_, fun other => ?_⟩
  · rcases List.mem_append.mp member with old | new
    · exact filed.counted result old
    · obtain rfl := List.mem_singleton.mp new
      simp [counts]
  · rw [Report.bucket_file, filed.bucket]
    by_cases same : other = outcome
    · simp [same, counts]
    · simp [same, counts, Ne.symm same]

theorem worldAfter_report (state : State σ) (deed : Pool.Deed ArtifactPair (Suspended τ) Ending)
    (quiet : deed.collects = []) : (deed.worldAfter (duty protocol responder) state).report = state.report := by
  cases deed with
  | collect => simp at quiet
  | read | pull | begin | advance | send | cancel => rfl

/-- The report of a run holds some of the collected results in order, and all
of them as long as the token is not set. -/
theorem run_filed (keeps : responder.KeepsToken)
    {first last : Pool.State Walk ArtifactPair (Suspended τ) Ending (State σ)}
    {trace : Pool.Trace ArtifactPair (Suspended τ) Ending} (run : Pool.Run (duty protocol responder) first trace last)
    (fresh : first.world.report.Fresh) (nothing : first.collected = []) :
    ∃ taken, taken.Sublist last.collected ∧ Filed last.world.report taken ∧
      last.world.report.interrupted = false ∧ (last.world.host.isCancelled = false → taken = last.collected) := by
  induction run with
  | start =>
    have none_ : Filed first.world.report [] := ⟨nofun, fun outcome => fresh.empty outcome⟩
    exact ⟨[], List.nil_sublist _, none_, fresh.running, fun _ => nothing.symm⟩
  | @next trace before after event deed previous step ih =>
    obtain ⟨taken, among, filed, running, all⟩ := ih
    have world := step.world
    have collected := step.collected
    have unset_before (unset : after.world.host.isCancelled = false) : before.world.host.isCancelled = false := by
      rw [← Bool.not_eq_true]
      intro set
      have kept := step.token_kept (duty_heeds keeps) set
      rw [unset] at kept
      cases kept
    by_cases quiet : deed.collects = []
    · have same : after.world.report = before.world.report := by
        rw [world]
        exact worldAfter_report before.world deed quiet
      rw [quiet, List.append_nil] at collected
      rw [same, collected]
      exact ⟨taken, among, filed, running, fun unset => all (unset_before unset)⟩
    · obtain ⟨pair, ending, rfl⟩ : ∃ pair ending, deed = .collect pair ending := by
        cases deed with
        | collect pair ending => exact ⟨pair, ending, rfl⟩
        | read | pull | begin | advance | send | cancel => exact absurd rfl quiet
      have world' : after.world = collect pair ending before.world := world
      rcases collect_cases pair ending before.world with ⟨same, set⟩ | ⟨unset, outcome, counts, same⟩
      · rw [← world'] at same set
        rw [same, collected]
        exact ⟨taken, among.trans (List.sublist_append_left _ _), filed, running, fun unset => by simp [set] at unset⟩
      · rw [← world'] at same
        refine ⟨taken ++ [(pair, ending)], ?_, same ▸ filed.next counts, ?_, fun _ => ?_⟩
        · exact collected ▸ among.append (List.Sublist.refl _)
        · rw [same, Report.interrupted_file, running]
        · rw [collected, all unset]
          rfl

end Evaluation
end ExitParity
