import ExitParity.Proofs.Evaluation.Work

namespace ExitParity

namespace Walk

/-- The pairs that a walk still meets when the files stay as they are, and the
number of its steps. -/
inductive Meets (layout : Layout) (tree : FileTree) : Walk → List ArtifactPair → Nat → Prop
  | stop {walk : Walk} (ended : walk.step? tree = none) : Meets layout tree walk [] 0
  | pass {walk rest : Walk} {file : Option Path} {pairs : List ArtifactPair} {steps : Nat}
      (stepped : walk.step? tree = some (file, rest)) (passed : file.bind layout.pairRoot? = none)
      (later : Meets layout tree rest pairs steps) : Meets layout tree walk pairs (steps + 1)
  | meet {walk rest : Walk} {file : Option Path} {pair : ArtifactPair} {pairs : List ArtifactPair} {steps : Nat}
      (stepped : walk.step? tree = some (file, rest)) (met : file.bind layout.pairRoot? = some pair)
      (later : Meets layout tree rest pairs steps) : Meets layout tree walk (pair :: pairs) (steps + 1)

/-- Whether a walk is over before so many steps are made. -/
def endsWithin (tree : FileTree) : Nat → Walk → Bool
  | 0, _ => false
  | fuel + 1, walk =>
    match walk.step? tree with
    | none => true
    | some (_, rest) => endsWithin tree fuel rest

variable {layout : Layout} {tree : FileTree} {walk : Walk} {pairs : List ArtifactPair} {steps : Nat}

theorem meets_of_endsWithin {fuel : Nat} (ends : endsWithin tree fuel walk = true) :
    ∃ steps < fuel, Meets layout tree walk ((files tree fuel walk).filterMap layout.pairRoot?) steps := by
  induction fuel generalizing walk with
  | zero => simp [endsWithin] at ends
  | succ fuel ih =>
    cases stepped : walk.step? tree with
    | none =>
      have nothing : files tree (fuel + 1) walk = [] := by simp [files, stepped]
      rw [nothing]
      exact ⟨0, Nat.succ_pos fuel, .stop stepped⟩
    | some step =>
      obtain ⟨file, rest⟩ := step
      have endsLater : endsWithin tree fuel rest = true := by simpa only [endsWithin, stepped] using ends
      obtain ⟨steps, fewer, later⟩ := ih endsLater
      have here : files tree (fuel + 1) walk = file.toList ++ files tree fuel rest := by simp [files, stepped]
      have roots : file.toList.filterMap layout.pairRoot? = (file.bind layout.pairRoot?).toList := by
        cases file with
        | none => rfl
        | some path => cases root : layout.pairRoot? path <;> simp [root]
      refine ⟨steps + 1, by omega, ?_⟩
      rw [here, List.filterMap_append, roots]
      cases met : file.bind layout.pairRoot? with
      | none => exact .pass stepped met later
      | some pair => exact .meet stepped met later

/-- A walk that is over gives no more files, however long it may go on. -/
theorem files_of_endsWithin {fuel more : Nat} (ends : endsWithin tree fuel walk = true) (enough : fuel ≤ more) :
    files tree more walk = files tree fuel walk := by
  induction fuel generalizing walk more with
  | zero => simp [endsWithin] at ends
  | succ fuel ih =>
    obtain ⟨more, rfl⟩ := Nat.exists_eq_add_one_of_ne_zero (Nat.ne_zero_of_lt enough)
    cases stepped : walk.step? tree with
    | none => simp only [files, stepped]
    | some step =>
      have endsLater : step.2.endsWithin tree fuel = true := by simpa only [endsWithin, stepped] using ends
      simp only [files, stepped, ih endsLater (Nat.le_of_succ_le_succ enough)]

theorem Meets.next_nil (meets : Meets layout tree walk [] steps) {limit : Nat} (enough : steps < limit) :
    (next layout tree limit walk).1 = none ∧ Meets layout tree (next layout tree limit walk).2 [] 0 := by
  generalize none_ : ([] : List ArtifactPair) = pairs at meets
  induction meets generalizing limit with
  | stop ended =>
    obtain ⟨limit, rfl⟩ := Nat.exists_eq_add_one_of_ne_zero (Nat.ne_zero_of_lt enough)
    simp only [next, ended]
    exact ⟨trivial, .stop ended⟩
  | pass stepped passed later ih =>
    obtain ⟨limit, rfl⟩ := Nat.exists_eq_add_one_of_ne_zero (Nat.ne_zero_of_lt enough)
    simp only [next, stepped, passed]
    exact ih (by omega) none_
  | meet => simp at none_

theorem Meets.next_cons {pair : ArtifactPair} (meets : Meets layout tree walk (pair :: pairs) steps) {limit : Nat}
    (enough : steps < limit) : (next layout tree limit walk).1 = some pair ∧
      ∃ fewer < steps, Meets layout tree (next layout tree limit walk).2 pairs fewer := by
  generalize all : pair :: pairs = met at meets
  induction meets generalizing limit with
  | stop => simp at all
  | @pass walk after file pairs steps stepped passed later ih =>
    obtain ⟨limit, rfl⟩ := Nat.exists_eq_add_one_of_ne_zero (Nat.ne_zero_of_lt enough)
    have enough' : steps < limit := by omega
    obtain ⟨found, fewer, less, rest⟩ := ih enough' all
    simp only [next, stepped, passed]
    exact ⟨found, fewer, by omega, rest⟩
  | meet stepped met later =>
    obtain ⟨limit, rfl⟩ := Nat.exists_eq_add_one_of_ne_zero (Nat.ne_zero_of_lt enough)
    obtain ⟨rfl, rfl⟩ := List.cons.inj all
    simp only [next, stepped, met]
    exact ⟨trivial, _, Nat.lt_succ_self _, later⟩

end Walk

namespace Evaluation

open Comparison

variable {τ σ : Type} {responder : Responder τ (Host × σ)} {protocol : Protocol} {tree : FileTree}

/-- A walk over files that no call changes gives the pairs that it meets. -/
theorem duty_gives (keeps : responder.Keeps fun host => host.tree = tree) :
    Pool.Gives (duty protocol responder) (fun state : State σ => state.host.tree = tree)
      fun walk pairs => ∃ steps < Walk.stepLimit, walk.Meets protocol.layout tree pairs steps where
  kept {state} deed same := by
    cases deed with
    | read | cancel | pull | send => exact same
    | begin pair => exact proceed_keeps keeps (protocol.plan pair).course same
    | advance pair suspended => exact resume_keeps keeps suspended same
    | collect pair ending =>
      obtain ⟨_, _, _, left⟩ := collect_host pair ending state
      simp only [Pool.Deed.worldAfter, duty, left]
      exact same
  exhausted {walk state} same left := by
    obtain ⟨steps, fewer, meets⟩ := left
    obtain ⟨nothing, stopped⟩ := meets.next_nil fewer
    simp only [duty, same]
    exact ⟨nothing, 0, by decide, stopped⟩
  item {walk state pair pairs} same left := by
    obtain ⟨steps, fewer, meets⟩ := left
    obtain ⟨found, less, below, later⟩ := meets.next_cons fewer
    simp only [duty, same]
    exact ⟨found, less, by omega, later⟩

/-- An evaluation draws what is discovered below its directory when the calls
leave the files as they are. -/
theorem run_draws_discovered {state : State σ} (keeps : responder.Keeps fun host => host.tree = state.host.tree)
    {dir : Path} (ends : (Walk.at_ dir).endsWithin state.host.tree Walk.stepLimit = true) {jobs : Nat}
    {trace : Pool.Trace ArtifactPair (Suspended τ) Ending}
    {last : Pool.State Walk ArtifactPair (Suspended τ) Ending (State σ)}
    (run : Pool.Run (duty protocol responder) (Pool.start (.at_ dir) jobs state) trace last) :
    trace.Draws (state.host.tree.discover dir protocol.layout) :=
  run.draws (duty_gives keeps) rfl (Walk.meets_of_endsWithin ends)

end Evaluation
end ExitParity
