import ExitParity.Proofs.Env.Overlay
import ExitParity.Proofs.Evaluation.Errand
import ExitParity.Proofs.Host.Calling
import ExitParity.Proofs.Host.Invoking
import Mathlib.Data.List.Permutation

namespace ExitParity

theorem utf8_append (text other : String) : utf8 (text ++ other) = utf8 text ++ utf8 other := by
  rw [utf8, String.toList_append, List.flatMap_append, utf8, utf8]

theorem utf8_intercalate (separator : String) (texts : List String) :
    utf8 (separator.intercalate texts) = Bytes.joinWith (utf8 separator) (texts.map utf8) := by
  induction texts with
  | nil => rfl
  | cons text rest ih =>
    cases rest with
    | nil => rw [String.intercalate_singleton]; rfl
    | cons other rest =>
      rw [String.intercalate_cons_cons, utf8_append, utf8_append, ih]
      rfl

namespace Host

/-- The names of all variables that the program was given are known. -/
def Named (host : Host) : Prop := ∀ name, host.env.get? name ≠ none → name ∈ host.names ∨ name = versionVariable

theorem mem_environment {host : Host} {entries : List (Bytes × Bytes)} {name value : Bytes} :
    (name, value) ∈ host.environment entries ↔
      (name ∈ host.names ∨ name = versionVariable ∨ ∃ entry ∈ entries, (Env.effect entry).1 = name) ∧
        (host.env.overlay entries).get? name = some value := by
  have listed : name ∈ (host.names ++ versionVariable :: entries.map fun entry => (Env.effect entry).1).eraseDups ↔
      name ∈ host.names ∨ name = versionVariable ∨ ∃ entry ∈ entries, (Env.effect entry).1 = name := by
    simp
  unfold environment
  rw [Env.mem_entries]
  split
  · rw [listed]
  · rw [List.mem_mergeSort, listed]

/-- A program that is started with some entries sees the last one of a variable,
or else what is inherited. -/
theorem mem_environment_of_named {host : Host} {entries : List (Bytes × Bytes)} {name value : Bytes} (named : host.Named)
    (plain : 0x3d ∉ name) (undisguised : Env.Undisguised name entries) :
    (name, value) ∈ host.environment entries ↔
      (Env.lastValue? entries name).or (host.env.get? name) = some value := by
  rw [mem_environment, Env.get?_overlay plain undisguised]
  -- The environment is made of known names only, so a variable that is seen has to have one.
  refine and_iff_right_of_imp fun seen => ?_
  rcases Option.or_eq_some_iff.mp seen with last | ⟨-, inherited⟩
  · refine .inr (.inr ⟨(name, value), Env.mem_of_lastValue? last, ?_⟩)
    rw [Env.effect_of_not_mem plain]
  · have given : host.env.get? name ≠ none := by
      rw [inherited]
      nofun
    rcases named name given with known | version
    · exact .inl known
    · exact .inr (.inl version)

end Host

theorem Env.plain_of_validName {name : Bytes} (valid : Env.validName name = true) : 0x3d ∉ name := by
  intro member
  have letters := (Bool.and_eq_true_iff.mp valid).2
  have allowed := List.all_eq_true.mp letters 0x3d member
  cases allowed

namespace Suite

/-- The names that a regeneration step is told its suite under. -/
def exportNames : List Bytes :=
  [utf8 "IRDIFF_SUITE", utf8 "IRDIFF_GENERATOR", utf8 "IRDIFF_EXTENSION_FILTER", versionVariable,
    utf8 "IRDIFF_COMPILE_TARGET"]

theorem map_exports (suite : Suite) :
    suite.exports.map Prod.fst = if suite.compileTarget.isSome then exportNames else exportNames.take 4 := by
  cases target : suite.compileTarget with
  | none =>
    simp only [exports, target]
    rfl
  | some target =>
    simp only [exports, *]
    rfl

theorem export_name {suite : Suite} {entry : Bytes × Bytes} (member : entry ∈ suite.exports) :
    entry.1 ∈ exportNames := by
  have named : entry.1 ∈ suite.exports.map Prod.fst := List.mem_map_of_mem member
  rw [map_exports] at named
  split at named
  · exact named
  · exact List.mem_of_mem_take named

theorem exports_nodup (suite : Suite) : (suite.exports.map Prod.fst).Nodup := by
  have distinct : exportNames.Nodup := by decide
  rw [map_exports]
  split
  · exact distinct
  · exact distinct.sublist (List.take_sublist 4 exportNames)

theorem exportNames_plain : ∀ name ∈ exportNames, 0x3d ∉ name := by decide

theorem export_undisguised {suite : Suite} {entry : Bytes × Bytes} (member : entry ∈ suite.exports) :
    (Env.effect entry).1 = entry.1 := by
  rw [Env.effect_of_not_mem (exportNames_plain _ (export_name member))]

variable {suite : Suite} {tool : Tool} {name : Bytes}

theorem generateStep_undisguised (undisguised : Env.Undisguised name tool.env) :
    Env.Undisguised name (suite.generateStep tool).env :=
  undisguised.append fun _ member stands => (export_undisguised member).symm.trans stands

/-- What a suite itself tells stands behind whatever its generator brings along. -/
theorem lastValue?_exported {value : Bytes} (member : (name, value) ∈ suite.exports) :
    Env.lastValue? (suite.generateStep tool).env name = some value := by
  rw [generateStep, Env.lastValue?_append, Env.lastValue?_of_nodup suite.exports_nodup member, Option.some_or]

theorem lastValue?_unexported (absent : name ∉ suite.exports.map Prod.fst) :
    Env.lastValue? (suite.generateStep tool).env name = Env.lastValue? tool.env name := by
  have none_ : Env.lastValue? suite.exports name = none :=
    Env.lastValue?_eq_none_iff.mpr fun entry member same => absent (same ▸ List.mem_map_of_mem member)
  rw [generateStep, Env.lastValue?_append, none_, Option.none_or]

/-- What a generator is to see of a variable. Of its compile target a suite
without one says nothing, not even that there is none. -/
inductive Tells (suite : Suite) (tool : Tool) (env : Env) : Bytes → Option Bytes → Prop
  | name : Tells suite tool env (utf8 "IRDIFF_SUITE") (some (utf8 suite.name))
  | generator : Tells suite tool env (utf8 "IRDIFF_GENERATOR") (some (utf8 suite.generator))
  | extensions :
      Tells suite tool env (utf8 "IRDIFF_EXTENSION_FILTER") (some (utf8 (":".intercalate suite.extensionFilter)))
  | version : Tells suite tool env (utf8 "IRWRITER_LLVM_VERSION") (some (utf8 suite.family.tag))
  | target {target : String} (given : suite.compileTarget = some target) :
      Tells suite tool env (utf8 "IRDIFF_COMPILE_TARGET") (some (utf8 target))
  | untargeted (without : suite.compileTarget = none) :
      Tells suite tool env (utf8 "IRDIFF_COMPILE_TARGET")
        ((Env.lastValue? tool.env (utf8 "IRDIFF_COMPILE_TARGET")).or (env.get? (utf8 "IRDIFF_COMPILE_TARGET")))
  | other {name : Bytes} (valid : Env.validName name = true) (other : name ∉ exportNames) :
      Tells suite tool env name ((Env.lastValue? tool.env name).or (env.get? name))

variable {σ : Type}

theorem generationHost_get? (suite : Suite) (world : Host × σ) (name : Bytes) :
    (suite.generationHost world).env.get? name =
      if name = versionVariable then some (utf8 suite.family.tag) else world.1.env.get? name := rfl

theorem generationHost_named (suite : Suite) {world : Host × σ} (named : world.1.Named) :
    (suite.generationHost world).readToken.2.Named := by
  intro name given
  by_cases version : name = versionVariable
  · exact .inr version
  · have same : (suite.generationHost world).readToken.2.env.get? name = world.1.env.get? name :=
      (suite.generationHost_get? world name).trans (if_neg version)
    exact named name (same ▸ given)

theorem Tells.plain {env : Env} {value : Option Bytes} (tells : suite.Tells tool env name value) : 0x3d ∉ name := by
  cases tells with
  | other valid _ => exact Env.plain_of_validName valid
  | _ => decide

/-- The step's entries with what the suite's scope inherits give a generator
just what it is to see. -/
theorem Tells.overlaid {world : Host × σ} {value : Option Bytes} (tells : suite.Tells tool world.1.env name value) :
    (Env.lastValue? (suite.generateStep tool).env name).or ((suite.generationHost world).env.get? name) = value := by
  have exported {value : Bytes} (member : (name, value) ∈ suite.exports) :
      (Env.lastValue? (suite.generateStep tool).env name).or ((suite.generationHost world).env.get? name) = some value := by
    rw [lastValue?_exported member, Option.some_or]
  have inherited (unexported : name ∉ suite.exports.map Prod.fst) (other : name ≠ versionVariable) :
      (Env.lastValue? (suite.generateStep tool).env name).or ((suite.generationHost world).env.get? name) =
        (Env.lastValue? tool.env name).or (world.1.env.get? name) := by
    rw [lastValue?_unexported unexported, generationHost_get?, if_neg other]
  cases tells with
  | name => exact exported (by simp [exports])
  | generator => exact exported (by simp [exports])
  | extensions =>
    have joined : utf8 (":".intercalate suite.extensionFilter) = Bytes.joinWith [0x3a] (suite.extensionFilter.map utf8) :=
      utf8_intercalate ":" suite.extensionFilter
    exact exported (by simp [exports, joined])
  | version => exact exported (by simp [exports, versionVariable])
  | target given => exact exported (by simp [exports, given])
  | untargeted without =>
    refine inherited ?_ (by decide)
    rw [map_exports, without]
    decide
  | other valid other =>
    refine inherited (fun member => ?_) fun version => other (version ▸ by decide)
    obtain ⟨entry, inside, rfl⟩ := List.mem_map.mp member
    exact other (export_name inside)

/-- A regeneration starts the program that is found for its tool, with the
arguments that the tool brings along and the suite's directory behind them. Of
each variable the program sees what it is to see, unless an entry of another
name is taken for the variable. -/
theorem generation_told {cacheRoot : Path} {world : Host × σ} (named : world.1.Named) {watch : Watch} {after : Host}
    (begun : (suite.generateStep tool).begin (suite.cacheDir cacheRoot) (suite.generationHost world) =
      (.pending watch, after)) :
    ∃ image program,
      (suite.generationHost world).readToken.2.imageOf tool.program
        (tool.program.bytes :: (tool.args ++ [(suite.cacheDir cacheRoot).bytes])) (suite.generateStep tool).env = .ok image ∧
      after.strands = world.1.strands ++ [⟨watch.process, world.1.clock + 1, Launch.image image program⟩] ∧
      program.argv = image.argv ∧
      Image.CalledWith tool.program.bytes (tool.args ++ [(suite.cacheDir cacheRoot).bytes]) program.argv ∧
      ∀ name value, suite.Tells tool world.1.env name value → Env.Undisguised name tool.env →
        ∀ seen, (name, seen) ∈ program.env ↔ value = some seen := by
  obtain ⟨image, process, loaded, start, rfl⟩ := Tool.begin_found begun
  let program : Program := {
    process
    argv := image.argv
    env := (suite.generationHost world).readToken.2.environment (suite.generateStep tool).env }
  have strands : after.strands = world.1.strands ++ [⟨process, world.1.clock + 1, Launch.image image program⟩] := by
    obtain ⟨rfl, rfl⟩ := Prod.mk.inj start
    rfl
  refine ⟨image, program, loaded, strands, rfl, Image.find_calledWith loaded,
    fun name value tells undisguised seen => ?_⟩
  rw [← tells.overlaid]
  exact Host.mem_environment_of_named (suite.generationHost_named named) tells.plain (generateStep_undisguised undisguised)

/-- A host with a generator on it, and these variables. -/
def hostWith (entries : List (Bytes × Bytes)) : Host :=
  let tree : FileTree := {
    nodes := #[.directory 0o755 0 true [(utf8 "generator", 1)], .file 0o755 (.applet .succeed)]
    times := #[0, 0]
    now := 0
    cwd := 0 }
  .idle tree (entries.foldl (fun env (name, value) => env.put name (some value)) .empty) (entries.map Prod.fst) .unset
    .never 1

theorem hostWith_named (entries : List (Bytes × Bytes)) : (hostWith entries).Named := by
  intro name given
  refine .inl ?_
  induction entries using List.reverseRecOn with
  | nil => exact absurd rfl given
  | append_singleton before entry ih =>
    have last : (hostWith (before ++ [entry])).env = (hostWith before).env.put entry.1 (some entry.2) :=
      List.foldl_append
    have names : (hostWith (before ++ [entry])).names = (hostWith before).names ++ [entry.1] := List.map_append
    rw [last, Env.get?_put] at given
    rw [names, List.mem_append, List.mem_singleton]
    split at given
    · next same => exact .inr same
    · exact .inl (ih given)

/-- A generator that brings along values of its own, some of them for the
suite's entries. -/
def clashingGenerator : Tool where
  program := .ofString "/generator"
  args := [utf8 "-x", []]
  env := [(utf8 "A", utf8 "1"), (utf8 "IRDIFF_SUITE", utf8 "other"), (utf8 "A", utf8 "2"),
    (utf8 "IRDIFF_COMPILE_TARGET", [])]
  timeout := none
  showOutput := false

def cppSuite : Suite := .reassembly "gcc_cpp" .llvm38 "gcc" "gcc" [".cpp", ".C", ".cc"]

def clashingWorld : Host × Unit :=
  (hostWith [(utf8 "A", utf8 "0"), (utf8 "B", []), (utf8 "IRDIFF_GENERATOR", utf8 "old"), (versionVariable, utf8 "3.2")], ())

theorem clashing_environment :
    (cppSuite.generationHost clashingWorld).environment (cppSuite.generateStep clashingGenerator).env =
      [(utf8 "A", utf8 "2"), (utf8 "B", []), (utf8 "IRDIFF_COMPILE_TARGET", utf8 "gcc_cpp"),
        (utf8 "IRDIFF_EXTENSION_FILTER", utf8 ".cpp:.C:.cc"), (utf8 "IRDIFF_GENERATOR", utf8 "gcc"),
        (utf8 "IRDIFF_SUITE", utf8 "gcc_cpp"), (versionVariable, utf8 "3.8")] := by cbv

theorem clashing_loaded :
    (cppSuite.generationHost clashingWorld).readToken.2.imageOf (.ofString "/generator")
      [utf8 "/generator", utf8 "-x", [], utf8 "/gcc"] (cppSuite.generateStep clashingGenerator).env =
        .ok ⟨.succeed, [utf8 "/generator", utf8 "-x", [], utf8 "/gcc"]⟩ := by
  have environment : (cppSuite.generationHost clashingWorld).readToken.2.environment
      (cppSuite.generateStep clashingGenerator).env = _ := clashing_environment
  unfold Host.imageOf
  rw [environment]
  rfl

/-- Repeated and clashing values of a generator, and older ones around it, do not
get in the way of the suite's. -/
theorem clashing_told : ∃ (watch : Watch) (image : Image) (program : Program) (after : Host),
    (cppSuite.generateStep clashingGenerator).begin (cppSuite.cacheDir (.ofString "/")) (cppSuite.generationHost clashingWorld) =
      (.pending watch, after) ∧
    image = ⟨.succeed, [utf8 "/generator", utf8 "-x", [], utf8 "/gcc"]⟩ ∧
    after.strands = [⟨watch.process, 1, Launch.image image program⟩] ∧ program.argv = image.argv ∧
    Image.CalledWith (utf8 "/generator") [utf8 "-x", [], utf8 "/gcc"] program.argv ∧
    (utf8 "IRDIFF_SUITE", utf8 "gcc_cpp") ∈ program.env ∧
    (utf8 "IRDIFF_COMPILE_TARGET", utf8 "gcc_cpp") ∈ program.env ∧
    (utf8 "IRDIFF_EXTENSION_FILTER", utf8 ".cpp:.C:.cc") ∈ program.env ∧
    (utf8 "A", utf8 "2") ∈ program.env ∧ (utf8 "B", []) ∈ program.env ∧ ∀ seen, (utf8 "C", seen) ∉ program.env := by
  have undisguised (name : Bytes) : Env.Undisguised name clashingGenerator.env := by
    intro entry member stands
    have plain : ∀ entry ∈ clashingGenerator.env, (Env.effect entry).1 = entry.1 := by decide
    exact (plain entry member).symm.trans stands
  obtain ⟨watch, begun⟩ := @Tool.begin_pending (cppSuite.generateStep clashingGenerator)
    (cppSuite.cacheDir (.ofString "/")) _ _ rfl (by decide) clashing_loaded
  obtain ⟨image, program, loaded, strands, argv, called, sees⟩ :=
    @generation_told cppSuite clashingGenerator _ (.ofString "/") clashingWorld (hostWith_named _) watch _ begun
  have found : image = ⟨.succeed, [utf8 "/generator", utf8 "-x", [], utf8 "/gcc"]⟩ :=
    Except.ok.inj (loaded.symm.trans clashing_loaded)
  refine ⟨watch, image, program, _, begun, found, strands, argv, called, ?_, ?_, ?_, ?_, ?_, fun seen => ?_⟩
  · exact (sees _ _ .name (undisguised _) _).mpr rfl
  · exact (sees _ _ (.target rfl) (undisguised _) _).mpr rfl
  · exact (sees _ _ .extensions (undisguised _) _).mpr rfl
  · exact (sees _ _ (.other (by decide) (by decide)) (undisguised _) _).mpr rfl
  · exact (sees _ _ (.other (by decide) (by decide)) (undisguised _) _).mpr rfl
  · rw [sees _ _ (.other (by decide) (by decide)) (undisguised _)]
    exact nofun

def fibonacciSuite : Suite := .generated "fibonacci" "fibonacci-call" "irbuilder/fibonacci"

def plainGenerator : Tool := .ofProgram (.ofString "/generator")

/-- The compile target of another suite is left over around the program. -/
def leftoverWorld : Host × Unit := (hostWith [(utf8 "IRDIFF_COMPILE_TARGET", utf8 "gcc_cpp")], ())

theorem leftover_environment :
    (fibonacciSuite.generationHost leftoverWorld).environment (fibonacciSuite.generateStep plainGenerator).env =
      [(utf8 "IRDIFF_COMPILE_TARGET", utf8 "gcc_cpp"), (utf8 "IRDIFF_EXTENSION_FILTER", []),
        (utf8 "IRDIFF_GENERATOR", utf8 "fibonacci-call"), (utf8 "IRDIFF_SUITE", utf8 "fibonacci"),
        (versionVariable, utf8 "3.8")] := by cbv

/-- The generator of a suite without a compile target sees one all the same. -/
theorem leftover_target_seen :
    fibonacciSuite.compileTarget = none ∧ ∃ (watch : Watch) (program : Program) (after : Host),
      (fibonacciSuite.generateStep plainGenerator).begin (fibonacciSuite.cacheDir (.ofString "/"))
        (fibonacciSuite.generationHost leftoverWorld) = (.pending watch, after) ∧
      after.strands = [⟨program.process, 1,
        Launch.image ⟨.succeed, [utf8 "/generator", utf8 "/irbuilder/fibonacci"]⟩ program⟩] ∧
      (utf8 "IRDIFF_COMPILE_TARGET", utf8 "gcc_cpp") ∈ program.env := by
  have environment : (fibonacciSuite.generationHost leftoverWorld).readToken.2.environment
      (fibonacciSuite.generateStep plainGenerator).env = _ := leftover_environment
  have loaded : (fibonacciSuite.generationHost leftoverWorld).readToken.2.imageOf (.ofString "/generator")
      [utf8 "/generator", utf8 "/irbuilder/fibonacci"] (fibonacciSuite.generateStep plainGenerator).env =
        .ok ⟨.succeed, [utf8 "/generator", utf8 "/irbuilder/fibonacci"]⟩ := by
    unfold Host.imageOf
    rw [environment]
    rfl
  obtain ⟨watch, begun⟩ := @Tool.begin_pending (fibonacciSuite.generateStep plainGenerator)
    (fibonacciSuite.cacheDir (.ofString "/")) _ _ rfl (by decide) loaded
  rw [leftover_environment] at begun
  exact ⟨rfl, watch, ⟨_, _, _⟩, _, begun, rfl, List.mem_cons_self⟩

end Suite
end ExitParity
