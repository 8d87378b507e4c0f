import ExitParity.Proofs.Evaluation.Calls
import ExitParity.Proofs.Evaluation.Regeneration
import ExitParity.Proofs.Suite.Inheritance
import Mathlib.Data.List.Permutation

namespace ExitParity

open Comparison Evaluation

variable {τ σ : Type}

namespace Suite

/-- Whatever the generator brings along, the step is started with the family's
tag, unless an entry of another name is taken for the variable. -/
theorem generation_environment {suite : Suite} {tool : Tool} (undisguised : Env.Undisguised versionVariable tool.env)
    {host : Host} {value : Bytes} :
    (versionVariable, value) ∈ host.environment (suite.generateStep tool).env ↔ value = utf8 suite.family.tag := by
  have plain : 0x3d ∉ versionVariable := exportNames_plain versionVariable (by decide)
  have exported : (versionVariable, utf8 suite.family.tag) ∈ suite.exports := by simp [exports]
  rw [Host.mem_environment, and_iff_right (.inr (.inl rfl)), Env.get?_overlay plain (generateStep_undisguised undisguised),
    lastValue?_exported exported, Option.some_or, Option.some_inj, eq_comm]

theorem Prepares.env {suite : Suite} {dir : Path} {state after : State σ} {generate : Option Tool} {goesOn : Bool}
    (prepares : suite.Prepares dir state generate goesOn after) : after.host.env = state.host.env := by
  have kept (tool : Tool) {answer : Answer} {host : Host}
      (invoked : (suite.generateStep tool).invoke dir state.shown.1 = (answer, host)) : host.env = state.host.env := by
    have passes := (suite.generateStep tool).passes_invoke dir state.shown.1
    rw [invoked] at passes
    exact passes.env
  cases prepares with
  | nothing => rfl
  | @renewed tool _ host invoked => have same : host.env = state.host.env := kept tool invoked; exact same
  | @failed tool _ host invoked => have same : host.env = state.host.env := kept tool invoked; exact same
  | @unanswered tool _ host invoked => have same : host.env = state.host.env := kept tool invoked; exact same
  | @interrupted tool _ host invoked => have same : host.env = state.host.env := kept tool invoked; exact same

/-- What is asked for when a suite is to be run. -/
structure Commission where
  suite : Suite
  cacheRoot : Path
  generate : Option Tool
  jobs : Nat

namespace Commission

def dir (commission : Commission) : Path := commission.suite.cacheDir commission.cacheRoot

/-- The state of a pool that is about to compare a suite's artifacts. -/
def starting (commission : Commission) (state : State σ) :
    Pool.State Walk ArtifactPair (Suspended τ) Ending (State σ) :=
  Pool.start (.at_ commission.dir) commission.jobs state

variable (commission : Commission) (responder : Responder τ (Host × σ)) (panics : Host × σ → Host × σ → Prop)
  (inside : Host × σ)

/-- The ways in which the run of a suite is left, each with the world that is
still inside its scope: with an answer, by a panic of the caller's own call, or
by a panic of a worker's call, which comes out once all workers are gone. -/
inductive Departs : Host × σ → Prop
  | answered {history : History τ} {closing : State σ}
      (closes : commission.suite.Closes commission.cacheRoot commission.generate responder commission.jobs inside history
        closing) : Departs (handOut closing).2
  | panicked {state : State σ} {before : Pool.State Walk ArtifactPair (Suspended τ) Ending (State σ)} {held : Bool}
      {work : ArtifactPair × Option (Suspended τ)} {u left : Host × σ}
      (prepares : commission.suite.Prepares commission.dir (.opening commission.suite.name inside) commission.generate
        true state)
      (passage : Passage commission.suite.protocol responder panics (commission.starting state) held before)
      (atWork : before.crew.AtWork .caller work)
      (calls : Calls commission.suite.protocol responder work before.world.shown u) (panicking : panics u left) :
      Departs ((before.world.leftWith left).host, left.2)
  | rejoined {state : State σ} {last : Pool.State Walk ArtifactPair (Suspended τ) Ending (State σ)}
      (prepares : commission.suite.Prepares commission.dir (.opening commission.suite.name inside) commission.generate
        true state)
      (passage : Passage commission.suite.protocol responder panics (commission.starting state) true last)
      (finished : last.finished = true) : Departs (last.world.host, last.world.bench)

/-- The worlds in which a suite's run makes a call. -/
inductive CallsIn (u : Host × σ) : Prop
  | made {state : State σ} {before : Pool.State Walk ArtifactPair (Suspended τ) Ending (State σ)} {held : Bool}
      {who : Pool.Event} {work : ArtifactPair × Option (Suspended τ)}
      (prepares : commission.suite.Prepares commission.dir (.opening commission.suite.name inside) commission.generate
        true state)
      (passage : Passage commission.suite.protocol responder panics (commission.starting state) held before)
      (atWork : before.crew.AtWork who work)
      (calls : Calls commission.suite.protocol responder work before.world.shown u) : CallsIn u

variable {commission responder panics inside} {kind : Env → Prop}

theorem CallsIn.env (spares : Spares responder panics kind) {u : Host × σ}
    (callsIn : commission.CallsIn responder panics inside u) (holds : kind inside.1.env) : kind u.1.env := by
  cases callsIn with
  | made prepares passage atWork calls =>
    refine passage.calls_env spares ?_ calls
    rw [starting, Pool.start, prepares.env]
    exact holds

/-- However it is left, the environment is what the calls have made of it. -/
theorem Departs.env (spares : Spares responder panics kind) {left : Host × σ}
    (departs : commission.Departs responder panics inside left) (holds : kind inside.1.env) : kind left.1.env := by
  have started {state : State σ}
      (prepares : commission.suite.Prepares commission.dir (.opening commission.suite.name inside) commission.generate
        true state) : kind state.host.env := by
    rw [prepares.env]
    exact holds
  cases departs with
  | @answered _ closing closes =>
    have closed : kind closing.host.env := by
      cases closes with
      | unprepared prepares =>
        rw [prepares.env]
        exact holds
      | compared prepares closes => exact closes.env spares.keeps (started prepares)
    obtain ⟨sink, world⟩ := handOut_world closing
    rw [world]
    exact closed
  | @panicked _ _ _ _ _ out prepares passage _ calls panicking =>
    have kept : kind out.1.env := spares.panic panicking (passage.calls_env spares (started prepares) calls)
    exact kept
  | rejoined prepares passage _ => exact passage.env spares (started prepares)

/-- A run that comes to its end is one of the ways in which a suite is left. -/
theorem run_departs {options : EvaluationOptions} {world : Host × σ}
    (returns : (Errand.ofSuite commission.suite commission.cacheRoot commission.generate).returns responder options world =
      true)
    (jobs : options.jobs = commission.jobs) :
    ∃ left, commission.Departs responder panics (commission.suite.enter world).2 left ∧
      (commission.suite.run commission.cacheRoot commission.generate responder options world).2 =
        leave (commission.suite.enter world).1 left := by
  obtain ⟨history, closing, runs, -⟩ := Errand.run_runs returns
  rw [jobs] at runs
  generalize result : Errand.run responder options world
    (.ofSuite commission.suite commission.cacheRoot commission.generate) = answer at runs
  cases runs with
  | ofSuite closes => exact ⟨(handOut closing).2, .answered closes, congrArg Prod.snd result⟩

/-- The pool of a suite whose artifacts are not regenerated, after some steps. -/
def proceeded (commission : Commission) (responder : Responder τ (Host × σ)) (inside : Host × σ) (steps : Nat) :
    Pool.State Walk ArtifactPair (Suspended τ) Ending (State σ) :=
  Pool.runFor (duty commission.suite.protocol responder) id steps 0
    (commission.starting (.opening commission.suite.name inside))

theorem proceeded_passage (steps : Nat) : Passage commission.suite.protocol responder panics
    (commission.starting (.opening commission.suite.name inside)) false (commission.proceeded responder inside steps) := by
  obtain ⟨trace, run, -⟩ := @Pool.runFor_run _ _ _ _ _ (duty commission.suite.protocol responder) id steps 0
    (commission.starting (.opening commission.suite.name inside))
  exact passage_of_run run

/-- Calls that leave the environment alone leave the suite with the one that it
was entered with. -/
theorem Departs.leave_env {world left : Host × σ} (spares : ∀ env, Spares responder panics (· = env))
    (departs : commission.Departs responder panics (commission.suite.enter world).2 left) :
    (leave (commission.suite.enter world).1 left).1.env = world.1.env := by
  have kept : left.1.env = (commission.suite.enter world).2.1.env := departs.env (spares _) rfl
  simp only [leave, enter, Scope.leave, Scope.enter, kept, Env.put_put, Env.put_get?]

end Commission

/-- The tools of a run leave the program's own environment alone. -/
theorem toolchain_spares (tools : Toolchain) (kind : Env → Prop) :
    Spares (@Toolchain.responder σ tools) (fun _ _ => False) kind where
  keeps :=
    { begin := fun {world} call holds => by
        have passes := (tools.toolFor call).passes_begin (Toolchain.fileOf call) world.1
        simp only [Toolchain.responder, passes.env]
        exact holds
      advance := fun {world} watch holds => by
        have passes := watch.passes_look world.1
        simp only [Toolchain.responder, passes.env]
        exact holds }
  panic := False.elim

/-- With its own tools the program has the same environment behind a suite. -/
theorem toolchain_run_env {suite : Suite} {cacheRoot : Path} {generate : Option Tool} {tools : Toolchain}
    {options : EvaluationOptions} {world : Host × σ}
    (returns : (Errand.ofSuite suite cacheRoot generate).returns tools.responder options world = true) :
    (suite.run cacheRoot generate tools.responder options world).2.1.env = world.1.env := by
  have spares := @toolchain_spares σ tools
  obtain ⟨left, departs, result⟩ :=
    @Commission.run_departs _ _ ⟨suite, cacheRoot, generate, options.jobs⟩ _ (fun _ _ => False) _ _ returns rfl
  rw [result]
  exact departs.leave_env fun env => spares (· = env)

/-- Suites that are run one after another, each with the world it starts in.
Whoever catches a panic goes on with the next one, and between two of them
anything but the environment may change. -/
inductive Series (responder : Responder τ (Host × σ)) (panics : Host × σ → Host × σ → Prop) :
    List (Commission × (Host × σ)) → Host × σ → Host × σ → Prop
  | nothing (world : Host × σ) : Series responder panics [] world world
  | next {commission : Commission} {rest : List (Commission × (Host × σ))} {world left between last : Host × σ}
      (departs : commission.Departs responder panics (commission.suite.enter world).2 left)
      (same : between.1.env = (leave (commission.suite.enter world).1 left).1.env)
      (later : Series responder panics rest between last) : Series responder panics ((commission, world) :: rest) world last

variable {responder : Responder τ (Host × σ)} {panics : Host × σ → Host × σ → Prop}

/-- The version variable is put back whatever becomes of the environment inside. -/
theorem leave_version (suite : Suite) (world left : Host × σ) :
    (leave (suite.enter world).1 left).1.env.get? versionVariable = world.1.env.get? versionVariable := by
  simp only [leave, enter, Scope.leave, Scope.enter, Env.get?_put, if_true]

theorem leave_other (suite : Suite) (world left : Host × σ) {name : Bytes} (other : name ≠ versionVariable) :
    (leave (suite.enter world).1 left).1.env.get? name = left.1.env.get? name := by
  simp only [leave, enter, Scope.leave, Scope.enter, Env.get?_put, if_neg other]

theorem Series.version {commissions : List (Commission × (Host × σ))} {world last : Host × σ}
    (series : Series responder panics commissions world last) :
    last.1.env.get? versionVariable = world.1.env.get? versionVariable ∧
      ∀ commission start, (commission, start) ∈ commissions →
        start.1.env.get? versionVariable = world.1.env.get? versionVariable := by
  induction series with
  | nothing => exact ⟨rfl, nofun⟩
  | @next commission rest world left between last departs same later ih =>
    obtain ⟨final, earlier⟩ := ih
    have back : between.1.env.get? versionVariable = world.1.env.get? versionVariable := by
      rw [same]
      exact leave_version commission.suite world left
    refine ⟨final.trans back, fun other start member => ?_⟩
    rcases List.mem_cons.mp member with here | further
    · obtain ⟨rfl, rfl⟩ := Prod.mk.inj here
      rfl
    · exact (earlier other start further).trans back

/-- What calls keep of another variable is kept by the suites. -/
theorem Series.other {commissions : List (Commission × (Host × σ))} {world last : Host × σ}
    (series : Series responder panics commissions world last) {name : Bytes} (other : name ≠ versionVariable)
    {kind : Option Bytes → Prop} (spares : Spares responder panics fun env => kind (env.get? name))
    (holds : kind (world.1.env.get? name)) : kind (last.1.env.get? name) := by
  induction series with
  | nothing => exact holds
  | @next commission rest world left between last departs same later ih =>
    have inside : (commission.suite.enter world).2.1.env.get? name = world.1.env.get? name := by
      simp only [enter, Scope.enter, Env.get?_put, if_neg other]
    have kept : kind (left.1.env.get? name) := departs.env spares (by rwa [inside])
    refine ih ?_
    rwa [same, leave_other commission.suite world left other]

/-- Suites run one after another, however each of them is left: a generator is
found and started with the tag of its suite's family, and calls are made under this tag
unless they change it themselves. Behind the suites the version variable is
what it was before, and of every other variable they keep what calls keep. -/
theorem version_scoped {commissions : List (Commission × (Host × σ))} {world last : Host × σ}
    (series : Series responder panics commissions world last) :
    (∀ commission start, (commission, start) ∈ commissions →
      start.1.env.get? versionVariable = world.1.env.get? versionVariable ∧
      (∀ tool watch after, commission.generate = some tool → Env.Undisguised versionVariable tool.env →
        (commission.suite.generateStep tool).begin commission.dir (commission.suite.generationHost start) =
          (.pending watch, after) →
        ∃ image entries, (commission.suite.generationHost start).readToken.2.imageOf tool.program
            (tool.program.bytes :: (tool.args ++ [commission.dir.bytes])) (commission.suite.generateStep tool).env =
              .ok image ∧
          after = ((commission.suite.generationHost start).readToken.2.start image entries
            (commission.suite.generateStep tool).openFiles).2 ∧
          ∀ value, (versionVariable, value) ∈ entries ↔ value = utf8 commission.suite.family.tag) ∧
      ∀ u, Spares responder panics (fun env => env.get? versionVariable = some (utf8 commission.suite.family.tag)) →
        commission.CallsIn responder panics (commission.suite.enter start).2 u →
        u.1.env.get? versionVariable = some (utf8 commission.suite.family.tag)) ∧
      last.1.env.get? versionVariable = world.1.env.get? versionVariable ∧
      ∀ name, name ≠ versionVariable → ∀ kind : Option Bytes → Prop,
        Spares responder panics (fun env => kind (env.get? name)) → kind (world.1.env.get? name) →
        kind (last.1.env.get? name) := by
  obtain ⟨final, earlier⟩ := series.version
  refine ⟨fun commission start member => ⟨earlier commission start member, ?_, ?_⟩, final,
    fun name other kind => series.other other⟩
  · intro tool watch after _ undisguised begun
    obtain ⟨image, process, loaded, started, -⟩ := Tool.begin_found begun
    exact ⟨image, _, loaded, (congrArg Prod.snd started).symm, fun value => generation_environment undisguised⟩
  · intro u spares callsIn
    refine callsIn.env spares ?_
    simp only [enter, Scope.enter, Env.get?_put, if_true]

/-- The two modules as a suite of the older family. -/
def olderCommission : Commission := ⟨{ twoSuite with family := .llvm32 }, .ofString "/", none, 1⟩

/-- The two modules with a version variable that is there but empty. -/
def emptiedWorld : Host × Unit :=
  ({ twoModulesWorld.1 with env := Env.empty.put versionVariable (some []) }, ())

theorem olderCommission_calling :
    (olderCommission.proceeded (answering secondFails fun _ => false) (olderCommission.suite.enter emptiedWorld).2 2).crew =
      .alone (.working ⟨.ofString "/a.ll", none⟩) := by rfl

/-- The first suite is left by a panic of its first call, the second one is run
to its end. -/
theorem twoFamilies_scoped :
    let newer : Commission := ⟨twoSuite, .ofString "/", some missingGenerator, 1⟩
    let responder := answering secondFails fun _ => false
    let panics (u left : Host × Unit) : Prop := left = u
    let inside := (olderCommission.suite.enter emptiedWorld).2
    ∃ u last, Series responder panics [(olderCommission, emptiedWorld), (newer, emptiedWorld)] emptiedWorld last ∧
      olderCommission.CallsIn responder panics inside u ∧
      u.1.env.get? versionVariable = some (utf8 "3.2") ∧ last.1.env.get? versionVariable = some [] := by
  intro newer responder panics inside
  let before := olderCommission.proceeded responder inside 2
  have spares (kind : Env → Prop) : Spares responder panics kind :=
    ⟨answering_keeps .., fun panicking holds => by rwa [panicking]⟩
  let first : State Unit := .opening olderCommission.suite.name inside
  have prepares : olderCommission.suite.Prepares olderCommission.dir first none true first := .nothing
  have passage : Passage olderCommission.suite.protocol responder panics (olderCommission.starting first) false before :=
    Commission.proceeded_passage 2
  have working : before.crew = .alone (.working ⟨.ofString "/a.ll", none⟩) := olderCommission_calling
  have atWork : before.crew.AtWork .caller (⟨.ofString "/a.ll", none⟩, none) := working ▸ .callerBegins _
  have calls : Calls .selfConsistency responder (⟨.ofString "/a.ll", none⟩, none) before.world.shown before.world.shown :=
    .begun (.here _ _ _)
  have departs : olderCommission.Departs responder panics inside
      ((before.world.leftWith before.world.shown).host, ()) := .panicked prepares passage atWork calls rfl
  obtain ⟨left, answered, -⟩ := @Commission.run_departs _ _ newer responder panics ⟨1, id⟩ emptiedWorld (by decide) rfl
  have series : Series responder panics [(olderCommission, emptiedWorld), (newer, emptiedWorld)] emptiedWorld
      (leave (twoSuite.enter emptiedWorld).1 left) :=
    .next departs (departs.leave_env fun env => spares (· = env)).symm (.next answered rfl (.nothing _))
  have callsIn : olderCommission.CallsIn responder panics inside before.world.shown :=
    .made prepares passage atWork calls
  obtain ⟨each, final, -⟩ := version_scoped series
  obtain ⟨-, -, tagged⟩ := each olderCommission emptiedWorld List.mem_cons_self
  exact ⟨_, _, series, callsIn, tagged _ (spares _) callsIn, final⟩

/-- A generator with an entry that is taken for the version variable. -/
def disguisingGenerator : Tool :=
  (Tool.ofProgram (.ofString "/generator")).withEnv (versionVariable ++ utf8 "=x") (utf8 "y")

/-- A directory with a program in it that does nothing. -/
def generatorWorld : Host × Unit :=
  let tree : FileTree := { twoModules with
    nodes := #[.directory 0o755 0 true [(utf8 "generator", 1)], .file 0o755 (.applet .succeed)] }
  (.idle tree .empty [] .unset .never 1, ())

theorem disguised_environment :
    (twoSuite.generationHost generatorWorld).environment (twoSuite.generateStep disguisingGenerator).env =
      [(utf8 "IRDIFF_EXTENSION_FILTER", []), (utf8 "IRDIFF_GENERATOR", utf8 "two"), (utf8 "IRDIFF_SUITE", utf8 "two"),
        (versionVariable, utf8 "x=y")] := by cbv

theorem disguised_loaded :
    (twoSuite.generationHost generatorWorld).readToken.2.imageOf (.ofString "/generator") [utf8 "/generator", utf8 "/"]
      (twoSuite.generateStep disguisingGenerator).env = .ok ⟨.succeed, [utf8 "/generator", utf8 "/"]⟩ := by
  have environment : (twoSuite.generationHost generatorWorld).readToken.2.environment
      (twoSuite.generateStep disguisingGenerator).env = _ := disguised_environment
  unfold Host.imageOf
  rw [environment]
  rfl

/-- A runner that changes the version variable with every call. -/
def meddling : Responder Empty (Host × Unit) :=
  Runner.responder fun call world =>
    (secondFails call, ({ world.1 with env := world.1.env.put versionVariable (some (utf8 "z")) }, world.2))

theorem meddling_calling :
    (olderCommission.proceeded meddling (olderCommission.suite.enter emptiedWorld).2 2).crew =
      .alone (.working ⟨.ofString "/a.ll", none⟩) := by rfl

/-- A generator can be started with another value than the tag, and behind a
call that changes the variable the next one is made under another value. -/
theorem version_unlike_tag :
    (∃ watch entries,
      (twoSuite.generateStep disguisingGenerator).begin (.ofString "/") (twoSuite.generationHost generatorWorld) =
        (.pending watch, ((twoSuite.generationHost generatorWorld).readToken.2.start
          ⟨.succeed, [utf8 "/generator", utf8 "/"]⟩ entries (twoSuite.generateStep disguisingGenerator).openFiles).2) ∧
      (versionVariable, utf8 "x=y") ∈ entries ∧ utf8 "x=y" ≠ utf8 twoSuite.family.tag) ∧
    ∃ u, olderCommission.CallsIn meddling (fun _ _ => False) (olderCommission.suite.enter emptiedWorld).2 u ∧
      u.1.env.get? versionVariable = some (utf8 "z") ∧ utf8 "z" ≠ utf8 olderCommission.suite.family.tag := by
  constructor
  · obtain ⟨watch, begun⟩ := Tool.begin_pending rfl (by decide) disguised_loaded
    rw [disguised_environment] at begun
    exact ⟨watch, _, begun, by decide, by decide⟩
  · let before := olderCommission.proceeded meddling (olderCommission.suite.enter emptiedWorld).2 2
    have working : before.crew = .alone (.working ⟨.ofString "/a.ll", none⟩) := meddling_calling
    have atWork : before.crew.AtWork .caller (⟨.ofString "/a.ll", none⟩, none) := working ▸ .callerBegins _
    have calls : Calls .selfConsistency meddling (⟨.ofString "/a.ll", none⟩, none) before.world.shown
        (meddling.begin (.assemble (.ofString "/a.ll")) before.world.shown).2 := .begun (.later rfl (.here _ _ _))
    exact ⟨_, .made .nothing (Commission.proceeded_passage 2) atWork calls, rfl, by decide⟩

end Suite
end ExitParity
