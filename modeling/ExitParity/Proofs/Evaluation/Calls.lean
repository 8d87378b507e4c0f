import ExitParity.Proofs.Evaluation.Errand
import ExitParity.Proofs.Evaluation.Work

namespace ExitParity

variable {ζ α ω β τ σ : Type}

/-- Who is at work on which item, and what is left of the work once it is begun. -/
inductive Pool.Crew.AtWork : Crew α ω β → Event → α × Option ω → Prop
  | callerBegins (item : α) : AtWork (.alone (.working item)) .caller (item, none)
  | callerGoesOn (item : α) (rest : ω) : AtWork (.alone (.busy item rest)) .caller (item, some rest)
  | workerBegins {workers : List (Worker α ω β)} {sent : List (α × β)} {index : Nat} {item : α}
      (found : workers[index]? = some (.working item)) : AtWork (.team workers sent) (.worker index) (item, none)
  | workerGoesOn {workers : List (Worker α ω β)} {sent : List (α × β)} {index : Nat} {item : α} {rest : ω}
      (found : workers[index]? = some (.busy item rest)) :
      AtWork (.team workers sent) (.worker index) (item, some rest)

namespace Comparison

/-- The worlds in which calls are made when a comparison goes on from a world. -/
inductive Asks (responder : Responder τ σ) : Course → σ → σ → Prop
  | here (call : Call) (next : Answer → Course) (s : σ) : Asks responder (.ask call next) s s
  | later {call : Call} {next : Answer → Course} {s t u : σ} {given : Answer}
      (begun : responder.begin call s = (.finished given, t)) (asks : Asks responder (next given) t u) :
      Asks responder (.ask call next) s u

/-- The worlds in which a call is looked after, or others are made behind it. -/
inductive Awaits (responder : Responder τ σ) (suspended : Suspended τ) (s : σ) : σ → Prop
  | here : Awaits responder suspended s s
  | later {t u : σ} {given : Answer} (looked : responder.advance suspended.task s = (.finished given, t))
      (asks : Asks responder (suspended.next given) t u) : Awaits responder suspended s u

variable {responder : Responder τ (Host × σ)} {kind : Host → Prop}

theorem Asks.keeps (keeps : responder.Keeps kind) {course : Course} {s u : Host × σ} (asks : Asks responder course s u)
    (holds : kind s.1) : kind u.1 := by
  induction asks with
  | here => exact holds
  | @later call _ s t _ _ begun _ ih =>
    have kept : kind (responder.begin call s).2.1 := keeps.begin call holds
    rw [begun] at kept
    exact ih kept

theorem Awaits.keeps (keeps : responder.Keeps kind) {suspended : Suspended τ} {s u : Host × σ}
    (awaits : Awaits responder suspended s u) (holds : kind s.1) : kind u.1 := by
  cases awaits with
  | here => exact holds
  | later looked asks =>
    have kept : kind (responder.advance suspended.task s).2.1 := keeps.advance suspended.task holds
    rw [looked] at kept
    exact asks.keeps keeps kept

end Comparison

namespace Evaluation

open Comparison

/-- The worlds in which calls are made when the work on a pair is begun or gone
on with in a world. -/
inductive Calls (protocol : Protocol) (responder : Responder τ σ) : ArtifactPair × Option (Suspended τ) → σ → σ → Prop
  | begun {pair : ArtifactPair} {s u : σ} (asks : Asks responder (protocol.plan pair).course s u) :
      Calls protocol responder (pair, none) s u
  | resumed {pair : ArtifactPair} {suspended : Suspended τ} {s u : σ} (awaits : Awaits responder suspended s u) :
      Calls protocol responder (pair, some suspended) s u

theorem Calls.keeps {protocol : Protocol} {responder : Responder τ (Host × σ)} {kind : Host → Prop}
    (keeps : responder.Keeps kind) {work : ArtifactPair × Option (Suspended τ)} {s u : Host × σ}
    (calls : Calls protocol responder work s u) (holds : kind s.1) : kind u.1 := by
  cases calls with
  | begun asks => exact asks.keeps keeps holds
  | resumed awaits => exact awaits.keeps keeps holds

/-- The states that a pool comes to when calls may also panic, from which world
into which. A worker whose call panics is gone, and the others go on without
it. -/
inductive Passage (protocol : Protocol) (responder : Responder τ (Host × σ)) (panics : Host × σ → Host × σ → Prop)
    (first : Pool.State Walk ArtifactPair (Suspended τ) Ending (State σ)) :
    Bool → Pool.State Walk ArtifactPair (Suspended τ) Ending (State σ) → Prop
  | start : Passage protocol responder panics first false first
  | step {panicked : Bool} {before after : Pool.State Walk ArtifactPair (Suspended τ) Ending (State σ)}
      {event : Pool.Event} {deed : Pool.Deed ArtifactPair (Suspended τ) Ending}
      (previous : Passage protocol responder panics first panicked before)
      (step : Pool.Step (duty protocol responder) before event deed after) :
      Passage protocol responder panics first panicked after
  | panic {panicked : Bool} {before : Pool.State Walk ArtifactPair (Suspended τ) Ending (State σ)}
      {workers : List (Pool.Worker ArtifactPair (Suspended τ) Ending)} {sent : List (ArtifactPair × Ending)}
      {index : Nat} {work : ArtifactPair × Option (Suspended τ)} {u left : Host × σ}
      (previous : Passage protocol responder panics first panicked before) (team : before.crew = .team workers sent)
      (atWork : before.crew.AtWork (.worker index) work) (calls : Calls protocol responder work before.world.shown u)
      (panicking : panics u left) :
      Passage protocol responder panics first true { before with
        crew := .team (workers.set index .gone) sent
        world := before.world.leftWith left }

/-- Calls leave the program's own environment of a kind, also when they panic. -/
structure Spares (responder : Responder τ (Host × σ)) (panics : Host × σ → Host × σ → Prop) (kind : Env → Prop) :
    Prop where
  keeps : responder.Keeps fun host => kind host.env
  panic {u left : Host × σ} (panicking : panics u left) (holds : kind u.1.env) : kind left.1.env

variable {protocol : Protocol} {responder : Responder τ (Host × σ)} {panics : Host × σ → Host × σ → Prop}
  {kind : Env → Prop} {first state : Pool.State Walk ArtifactPair (Suspended τ) Ending (State σ)} {panicked : Bool}

/-- A step of an evaluation changes the environment by no more than its calls do. -/
theorem worldAfter_env (keeps : responder.Keeps fun host => kind host.env)
    (deed : Pool.Deed ArtifactPair (Suspended τ) Ending) (state : State σ) (holds : kind state.host.env) :
    kind (deed.worldAfter (duty protocol responder) state).host.env := by
  cases deed with
  | read | pull | send | cancel => exact holds
  | begin pair => exact proceed_keeps keeps (protocol.plan pair).course holds
  | advance pair suspended => exact resume_keeps keeps suspended holds
  | collect pair ending =>
    obtain ⟨_, _, _, left⟩ := collect_host pair ending state
    simp only [Pool.Deed.worldAfter, duty, left]
    exact holds

theorem Passage.env (spares : Spares responder panics kind) (passage : Passage protocol responder panics first panicked state)
    (holds : kind first.world.host.env) : kind state.world.host.env := by
  induction passage with
  | start => exact holds
  | @step _ before _ _ deed _ step ih =>
    rw [step.world]
    exact worldAfter_env spares.keeps deed before.world ih
  | panic _ _ _ calls panicking ih => exact spares.panic panicking (calls.keeps spares.keeps ih)

theorem Passage.calls_env (spares : Spares responder panics kind)
    (passage : Passage protocol responder panics first panicked state) (holds : kind first.world.host.env)
    {work : ArtifactPair × Option (Suspended τ)} {u : Host × σ}
    (calls : Calls protocol responder work state.world.shown u) : kind u.1.env :=
  calls.keeps spares.keeps (passage.env spares holds)

/-- A run is a passage without a panic. -/
theorem passage_of_run {history : History τ} (run : Pool.Run (duty protocol responder) first history state) :
    Passage protocol responder panics first false state := by
  induction run with
  | start => exact .start
  | next previous step ih => exact ih.step step

theorem Closes.env {dir : Path} {jobs : Nat} {opening closing : State σ} {history : History τ}
    (keeps : responder.Keeps fun host => kind host.env)
    (closes : Closes dir protocol responder jobs opening history closing) (holds : kind opening.host.env) :
    kind closing.host.env := by
  cases closes with
  | ended run finished =>
    have spares : Spares responder (fun _ _ => False) kind := ⟨keeps, False.elim⟩
    exact (passage_of_run run).env spares holds

end Evaluation
end ExitParity
