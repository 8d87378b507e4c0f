import ExitParity.Proofs.Host.Probing
import ExitParity.Proofs.Session.Account

namespace ExitParity

/-- What a comparing command is told about its tools. -/
inductive Request.Uses : Request → ToolOptions → Prop
  | run (options : RunOptions) : Uses (.run options) options.tools
  | dir (options : DirOptions) : Uses (.dir options) options.tools

namespace Suite

/-- A suite is told by its name, its family and how it is judged. -/
theorem registry_unique : ∀ suite ∈ registry, ∀ other ∈ registry, other.name = suite.name →
    other.family = suite.family → other.protocol = suite.protocol → other = suite := by
  decide

/-- The one suite of a name, a family and a way of judging. -/
structure IsNamed (family : Family) (protocol : Protocol) (name : String) (suite : Suite) : Prop where
  listed : suite ∈ registry
  called : suite.name = name
  kin : suite.family = family
  judged : suite.protocol = protocol
  only : ∀ other ∈ registry, other.name = name → other.family = family → other.protocol = protocol → other = suite

theorem mem_registered {family : Family} {protocol : Protocol} {suite : Suite} :
    suite ∈ registered family protocol ↔ suite ∈ registry ∧ suite.family = family ∧ suite.protocol = protocol := by
  simp only [registered, List.mem_filter, Bool.and_eq_true, beq_iff_eq]

theorem find?_eq_some {name : String} {family : Family} {protocol : Protocol} {suite : Suite} :
    find? name family protocol = some suite ↔ IsNamed family protocol name suite := by
  constructor
  · intro found
    obtain ⟨listed, familyEq, protocolEq⟩ := mem_registered.mp (List.mem_of_find?_eq_some found)
    have nameEq : suite.name = name := by simpa using List.find?_some found
    refine ⟨listed, nameEq, familyEq, protocolEq, fun other member same kin judged => ?_⟩
    exact registry_unique suite listed other member (same.trans nameEq.symm) (kin.trans familyEq.symm)
      (judged.trans protocolEq.symm)
  · intro named
    have there : (find? name family protocol).isSome = true := by
      simp only [find?, List.find?_isSome, beq_iff_eq]
      exact ⟨suite, mem_registered.mpr ⟨named.listed, named.kin, named.judged⟩, named.called⟩
    obtain ⟨other, found⟩ := Option.isSome_iff_exists.mp there
    obtain ⟨listed, familyEq, protocolEq⟩ := mem_registered.mp (List.mem_of_find?_eq_some found)
    have nameEq : other.name = name := by simpa using List.find?_some found
    rw [found, named.only other listed nameEq familyEq protocolEq]

theorem find?_eq_none {name : String} {family : Family} {protocol : Protocol} :
    find? name family protocol = none ↔ ¬∃ suite, IsNamed family protocol name suite := by
  rw [← not_iff_not, not_not]
  simp only [← find?_eq_some, ← Option.isSome_iff_exists, Option.isSome_iff_ne_none, ne_eq]

end Suite

namespace Session

/-- A name that stands for a suite. -/
def Registered (family : Family) (protocol : Protocol) (name : String) : Prop :=
  ∃ suite, Suite.IsNamed family protocol name suite

/-- What a command is to be run on is there. -/
inductive Selectable (host : Host) : Request → Prop
  | named {options : RunOptions} (some_ : options.suites ≠ [])
      (known : ∀ name ∈ options.suites, Registered options.tools.family options.protocol name) :
      Selectable host (.run options)
  | all {options : RunOptions} {suite : Suite} (unnamed : options.suites = [])
      (there : suite ∈ Suite.registered options.tools.family options.protocol) : Selectable host (.run options)
  | dir {options : DirOptions} (isDirectory : host.tree.isDirectory options.dir = true) : Selectable host (.dir options)

/-- The first tool of a run that cannot be found, with the programs that were
asked for their version before that. -/
inductive Lacks (options : ToolOptions) (host : Host) : ToolError → List Path → Prop
  | assembler {probed : List Path} (missing : host.Misses options.family Toolchain.assemblerName probed) :
      Lacks options host (Lookup.notFound Toolchain.assemblerName options.family.versions) probed
  | interpreter {probed more : List Path} (assembler : host.Finds options.family Toolchain.assemblerName probed)
      (missing : (host.probed probed).Misses options.family Toolchain.interpreterName more) :
      Lacks options host (Lookup.notFound Toolchain.interpreterName options.family.versions) (probed ++ more)
  | candidate {probed more : List Path} (assembler : host.Finds options.family Toolchain.assemblerName probed)
      (interpreter : (host.probed probed).Finds options.family Toolchain.interpreterName more)
      (unlocated : Lookup.Unlocated (host.probed (probed ++ more)).tree.isExecutable options.candidate
        host.searchPath) :
      Lacks options host (.notFound options.candidate.display "any") (probed ++ more)

/-- A command that cannot be carried out for one reason or another. -/
inductive Bad (host : Host) : Request → Prop
  | unknownSuite {options : RunOptions} {name : String} (listed : name ∈ options.suites)
      (unknown : ¬Registered options.tools.family options.protocol name) : Bad host (.run options)
  | noSuites {options : RunOptions} (unnamed : options.suites = [])
      (none_ : Suite.registered options.tools.family options.protocol = []) : Bad host (.run options)
  | notDirectory {options : DirOptions} (other : host.tree.isDirectory options.dir = false) : Bad host (.dir options)
  | toolchain {request : Request} {options : ToolOptions} {error : ToolError} {probed : List Path}
      (uses : request.Uses options) (lacks : Lacks options host error probed) : Bad host request

/-- The first reason why a command cannot be carried out, with the programs
that were asked for their version before that. -/
inductive Rejected (host : Host) : Request → Failure → List Path → Prop
  | unknownSuite {options : RunOptions} {before after : List String} {name : String}
      (names : options.suites = before ++ name :: after)
      (known : ∀ earlier ∈ before, Registered options.tools.family options.protocol earlier)
      (unknown : ¬Registered options.tools.family options.protocol name) :
      Rejected host (.run options) (.unknownSuite name options.tools.family options.protocol) []
  | noSuites {options : RunOptions} (unnamed : options.suites = [])
      (none_ : Suite.registered options.tools.family options.protocol = []) :
      Rejected host (.run options) (.noSuites options.tools.family options.protocol) []
  | notDirectory {options : DirOptions} (other : host.tree.isDirectory options.dir = false) :
      Rejected host (.dir options) (.notDirectory options.dir) []
  | toolchain {request : Request} {options : ToolOptions} {error : ToolError} {probed : List Path}
      (selectable : Selectable host request) (uses : request.Uses options) (lacks : Lacks options host error probed) :
      Rejected host request (.lookup error) probed

theorem mapM_error {α β ε : Type} {find : α → Except ε β} {error : ε} {before after : List α} {name : α}
    (found : ∀ earlier ∈ before, ∃ value, find earlier = .ok value) (missing : find name = .error error) :
    (before ++ name :: after).mapM find = .error error := by
  induction before with
  | nil =>
    rw [List.nil_append, List.mapM_cons, missing]
    rfl
  | cons earlier rest ih =>
    obtain ⟨⟨value, first⟩, later⟩ := List.forall_mem_cons.mp found
    rw [List.cons_append, List.mapM_cons, first, ih later]
    rfl

theorem mapM_ok {α β ε : Type} {find : α → Except ε β} {names : List α}
    (found : ∀ name ∈ names, ∃ value, find name = .ok value) : ∃ values, names.mapM find = .ok values := by
  induction names with
  | nil => exact ⟨[], rfl⟩
  | cons name rest ih =>
    obtain ⟨⟨value, first⟩, later⟩ := List.forall_mem_cons.mp found
    obtain ⟨values, others⟩ := ih later
    refine ⟨value :: values, ?_⟩
    rw [List.mapM_cons, first, others]
    rfl

/-- The suite that a name stands for. -/
def suiteOf (family : Family) (protocol : Protocol) (name : String) : Except Failure Suite :=
  match Suite.find? name family protocol with
  | some suite => .ok suite
  | none => .error (.unknownSuite name family protocol)

theorem suiteOf_eq_ok {family : Family} {protocol : Protocol} {name : String} {suite : Suite} :
    suiteOf family protocol name = .ok suite ↔ Suite.IsNamed family protocol name suite := by
  rw [← Suite.find?_eq_some, suiteOf]
  cases Suite.find? name family protocol <;> simp

theorem suiteOf_unknown {family : Family} {protocol : Protocol} {name : String}
    (unknown : ¬Registered family protocol name) :
    suiteOf family protocol name = .error (.unknownSuite name family protocol) := by
  simp only [suiteOf, Suite.find?_eq_none.mpr unknown]

theorem selectSuites_of_ne_nil {names : List String} {family : Family} {protocol : Protocol} (some_ : names ≠ []) :
    selectSuites names family protocol = names.mapM (suiteOf family protocol) := by
  have named : names.isEmpty = false := by simpa using some_
  unfold selectSuites
  rw [named]
  rfl

/-- Names that all stand for suites select these, each name its own. -/
theorem selectSuites_named {names : List String} {family : Family} {protocol : Protocol} (some_ : names ≠ [])
    (known : ∀ name ∈ names, Registered family protocol name) :
    ∃ suites, selectSuites names family protocol = .ok suites ∧
      List.Forall₂ (Suite.IsNamed family protocol) names suites := by
  have found : ∀ name ∈ names, ∃ suite, suiteOf family protocol name = .ok suite := fun name member =>
    (known name member).imp fun _ named => suiteOf_eq_ok.mpr named
  obtain ⟨suites, chosen⟩ := mapM_ok found
  have each := forall₂_of_mapM chosen
  simp only [suiteOf_eq_ok] at each
  exact ⟨suites, (selectSuites_of_ne_nil some_).trans chosen, each⟩

theorem selectSuites_nil {family : Family} {protocol : Protocol} (some_ : Suite.registered family protocol ≠ []) :
    selectSuites [] family protocol = .ok (Suite.registered family protocol) := by
  have there : (Suite.registered family protocol).isEmpty = false := by simpa using some_
  simp only [selectSuites, there, List.isEmpty_nil, Bool.false_eq_true, if_true, if_false]

theorem selectSuites_unknown {before after : List String} {name : String} {family : Family} {protocol : Protocol}
    (known : ∀ earlier ∈ before, Registered family protocol earlier) (unknown : ¬Registered family protocol name) :
    selectSuites (before ++ name :: after) family protocol = .error (.unknownSuite name family protocol) := by
  rw [selectSuites_of_ne_nil (by simp)]
  exact mapM_error (fun earlier member => (known earlier member).imp fun _ named => suiteOf_eq_ok.mpr named)
    (suiteOf_unknown unknown)

/-- The first name that stands for no suite. -/
theorem first_unknown {names : List String} {family : Family} {protocol : Protocol}
    (bad : ¬∀ name ∈ names, Registered family protocol name) :
    ∃ before name after, names = before ++ name :: after ∧ (∀ earlier ∈ before, Registered family protocol earlier) ∧
      ¬Registered family protocol name := by
  induction names with
  | nil => exact absurd nofun bad
  | cons name rest ih =>
    by_cases first : Registered family protocol name
    · obtain ⟨before, other, after, rfl, known, unknown⟩ :=
        ih fun all => bad (List.forall_mem_cons.mpr ⟨first, all⟩)
      exact ⟨name :: before, other, after, rfl, List.forall_mem_cons.mpr ⟨first, known⟩, unknown⟩
    · exact ⟨[], name, rest, rfl, nofun, first⟩

variable {options : ToolOptions} {host : Host} {request : Request} {error : ToolError} {failure : Failure}
  {probed : List Path}

/-- With the other two at hand, the candidate decides. -/
theorem resolve_of_finds {early late : List Path} (assembler : host.Finds options.family Toolchain.assemblerName early)
    (interpreter : (host.probed early).Finds options.family Toolchain.interpreterName late) :
    ∃ tools : Path → Toolchain, Session.resolve options host =
      (match Lookup.locate (Host.surroundings.isExecutable (host.probed (early ++ late))) options.candidate
          host.searchPath with
        | .error error => .error (.lookup error)
        | .ok candidate => .ok (tools candidate), host.probed (early ++ late)) := by
  obtain ⟨path, found⟩ := assembler.findProgram
  obtain ⟨other, reached⟩ := interpreter.findProgram
  rw [Host.searchPath_probed] at reached
  let request := toolRequest options
  refine ⟨fun candidate => {
    assembler := (Tool.ofProgram path).withOutput true
    interpreter := ((Tool.ofProgram other).withTimeout request.timeout).withOutput request.showOutput
    candidate := ((((Tool.ofProgram candidate).withArgs request.candidateArgs).withEnv versionVariable
      request.versionTag).withTimeout request.timeout).withOutput request.showOutput }, ?_⟩
  rw [Host.probed_append]
  unfold Session.resolve Toolchain.resolve
  simp only [Host.probed] at reached ⊢
  simp only [toolRequest, found, reached]
  cases Lookup.locate (Host.surroundings.isExecutable (Lookup.probe Host.surroundings
    (Lookup.probe Host.surroundings host early) late)) options.candidate host.searchPath <;> rfl

theorem Lacks.resolve (lacks : Lacks options host error probed) :
    Session.resolve options host = (.error (.lookup error), host.probed probed) := by
  cases lacks with
  | assembler missing =>
    unfold Session.resolve Toolchain.resolve
    simp only [toolRequest, missing.findProgram]
    rfl
  | @interpreter early late assembler missing =>
    obtain ⟨path, found⟩ := assembler.findProgram
    have searched := missing.findProgram
    rw [Host.searchPath_probed] at searched
    unfold Session.resolve Toolchain.resolve
    rw [Host.probed_append]
    simp only [Host.probed] at searched ⊢
    simp only [toolRequest, found, searched]
  | @candidate early late assembler interpreter unlocated =>
    obtain ⟨tools, resolved⟩ := resolve_of_finds assembler interpreter
    have located : Lookup.locate (Host.surroundings.isExecutable (host.probed (early ++ late))) options.candidate
        host.searchPath = .error (.notFound options.candidate.display "any") :=
      Lookup.locate_eq_error.mpr ⟨unlocated, rfl⟩
    rw [located] at resolved
    exact resolved

variable (options host) in
/-- A run lacks a tool, or has all three of them. -/
theorem lacks_or_resolves : (∃ error probed, Lacks options host error probed) ∨
    ∃ tools probed, Session.resolve options host = (.ok tools, host.probed probed) := by
  rcases Lookup.found_or_missing Host.surroundings Toolchain.assemblerName options.family.versions host.searchPath host
    with ⟨early, assembler⟩ | ⟨early, missing⟩
  case inr => exact .inl ⟨_, early, .assembler missing⟩
  rcases Lookup.found_or_missing Host.surroundings Toolchain.interpreterName options.family.versions
    (host.probed early).searchPath (host.probed early) with ⟨late, interpreter⟩ | ⟨late, missing⟩
  case inr => exact .inl ⟨_, early ++ late, .interpreter assembler missing⟩
  obtain ⟨tools, resolved⟩ := resolve_of_finds assembler interpreter
  cases located : Lookup.locate (Host.surroundings.isExecutable (host.probed (early ++ late))) options.candidate
    host.searchPath with
  | error error => exact .inl ⟨_, early ++ late, .candidate assembler interpreter (Lookup.locate_eq_error.mp located).1⟩
  | ok candidate =>
    rw [located] at resolved
    exact .inr ⟨tools candidate, early ++ late, resolved⟩

/-- No more than the assembler and the interpreter are asked for their version,
and only without a version in their names. -/
structure AsksTools (host : Host) (probed : List Path) : Prop where
  length : probed.length ≤ 2
  plain : ∀ path ∈ probed, ∃ name ∈ [Toolchain.assemblerName, Toolchain.interpreterName],
    ∃ dir ∈ Lookup.directories host.searchPath, path = dir.join ⟨utf8 name⟩

theorem AsksTools.both {early late : List Path}
    (assembler : Lookup.Asks Toolchain.assemblerName host.searchPath early)
    (interpreter : Lookup.Asks Toolchain.interpreterName host.searchPath late) : AsksTools host (early ++ late) where
  length := by
    have short := assembler.length
    have brief := interpreter.length
    rw [List.length_append]
    omega
  plain path member := by
    rcases List.mem_append.mp member with first | second
    · exact ⟨_, by simp, assembler.plain path first⟩
    · exact ⟨_, by simp, interpreter.plain path second⟩

theorem Lacks.asksTools (lacks : Lacks options host error probed) : AsksTools host probed := by
  cases lacks with
  | assembler missing =>
    have both := AsksTools.both missing.asks (.none_ Toolchain.interpreterName host.searchPath)
    rwa [List.append_nil] at both
  | @interpreter early late assembler missing =>
    have asked := missing.asks
    rw [Host.searchPath_probed] at asked
    exact .both assembler.asks asked
  | @candidate early late assembler interpreter unlocated =>
    have asked := interpreter.asks
    rw [Host.searchPath_probed] at asked
    exact .both assembler.asks asked

theorem selectable_or_rejected (asked : request ≠ .list) :
    Selectable host request ∨ ∃ failure, Rejected host request failure [] := by
  cases request with
  | list => exact absurd rfl asked
  | dir options =>
    cases isDirectory : host.tree.isDirectory options.dir with
    | true => exact .inl (.dir isDirectory)
    | false => exact .inr ⟨_, .notDirectory isDirectory⟩
  | run options =>
    by_cases unnamed : options.suites = []
    · cases there : Suite.registered options.tools.family options.protocol with
      | nil => exact .inr ⟨_, .noSuites unnamed there⟩
      | cons suite rest => exact .inl (.all unnamed (there ▸ List.mem_cons_self))
    · by_cases known : ∀ name ∈ options.suites, Registered options.tools.family options.protocol name
      · exact .inl (.named unnamed known)
      · obtain ⟨before, name, after, names, known, unknown⟩ := first_unknown known
        exact .inr ⟨_, .unknownSuite names known unknown⟩

theorem Bad.rejected (bad : Bad host request) : ∃ failure probed, Rejected host request failure probed := by
  cases bad with
  | @unknownSuite options name listed unknown =>
    obtain ⟨before, first, after, names, known, unknown⟩ := first_unknown fun all => unknown (all name listed)
    exact ⟨_, _, .unknownSuite names known unknown⟩
  | noSuites unnamed none_ => exact ⟨_, _, .noSuites unnamed none_⟩
  | notDirectory other => exact ⟨_, _, .notDirectory other⟩
  | toolchain uses lacks =>
    have asked : request ≠ .list := by cases uses <;> nofun
    rcases @selectable_or_rejected host request asked with selectable | ⟨failure, rejected⟩
    · exact ⟨_, _, .toolchain selectable uses lacks⟩
    · exact ⟨failure, [], rejected⟩

theorem Rejected.perform (rejected : Rejected host request failure probed) (schedule : Pool.Schedule) :
    Session.perform request schedule host = (.error failure, host.probed probed) := by
  cases rejected with
  | unknownSuite names known unknown =>
    simp only [Session.perform, run, names, selectSuites_unknown known unknown]
    rfl
  | @noSuites options unnamed none_ =>
    have nothing : selectSuites [] options.tools.family options.protocol =
        .error (.noSuites options.tools.family options.protocol) := by
      simp only [selectSuites, none_, List.isEmpty_nil, if_true]
    simp only [Session.perform, run, unnamed, nothing]
    rfl
  | notDirectory other =>
    simp only [Session.perform, dir, other, Bool.not_false, if_true]
    rfl
  | toolchain selectable uses lacks =>
    cases selectable with
    | named some_ known =>
      cases uses
      obtain ⟨suites, chosen, -⟩ := selectSuites_named some_ known
      simp only [Session.perform, run, chosen, lacks.resolve]
    | @all options suite unnamed there =>
      cases uses
      have chosen : selectSuites options.suites options.tools.family options.protocol =
          .ok (Suite.registered options.tools.family options.protocol) := by
        rw [unnamed, selectSuites_nil (List.ne_nil_of_mem there)]
      simp only [Session.perform, run, chosen, lacks.resolve]
    | dir isDirectory =>
      cases uses
      simp only [Session.perform, dir, isDirectory, Bool.not_true, Bool.false_eq_true, if_false, lacks.resolve]

theorem Rejected.asksTools (rejected : Rejected host request failure probed) : AsksTools host probed := by
  cases rejected with
  | unknownSuite => exact ⟨by decide, nofun⟩
  | noSuites => exact ⟨by decide, nofun⟩
  | notDirectory => exact ⟨by decide, nofun⟩
  | toolchain selectable uses lacks => exact lacks.asksTools

/-- A command that cannot be carried out is rejected for the first reason there
is, when no more was done than to ask tools without a version in their names
for it. Names that all stand for suites select these in their order. -/
theorem perform_rejected :
    (∀ {host request}, Bad host request → ∀ schedule, ∃ failure probed, Rejected host request failure probed ∧
      perform request schedule host = (.error failure, host.probed probed) ∧ host.Spares (host.probed probed) ∧
      AsksTools host probed) ∧
    (∀ {names family protocol}, names ≠ [] → (∀ name ∈ names, Registered family protocol name) →
      ∃ suites, selectSuites names family protocol = .ok suites ∧
        List.Forall₂ (Suite.IsNamed family protocol) names suites) ∧
    ∀ {family protocol}, Suite.registered family protocol ≠ [] →
      selectSuites [] family protocol = .ok (Suite.registered family protocol) := by
  refine ⟨fun bad schedule => ?_, selectSuites_named, selectSuites_nil⟩
  obtain ⟨failure, probed, rejected⟩ := bad.rejected
  exact ⟨failure, probed, rejected, rejected.perform schedule, Host.spares_probed _ probed, rejected.asksTools⟩

/-- A plain assembler of no known version is all there is, and the second name
stands for no suite. -/
def strayHost : Host :=
  let tree : FileTree := {
    nodes := #[.directory 0o755 0 true [(utf8 "llvm-as", 1)], .file 0o755 (.applet .succeed)]
    times := #[0, 0]
    now := 0
    cwd := 0 }
  .idle tree (Env.empty.put (utf8 "PATH") (some (utf8 "/"))) [] .unset .never 1

def strayTools : ToolOptions where
  family := .llvm38
  candidate := .ofString "/cand"
  candidateArgs := []
  timeout := 30
  jobs := 1
  showOutput := false
  reportJson := some (.ofString "/o.json")

def strayOptions (suites : List String) : RunOptions where
  suites := suites
  protocol := .selfConsistency
  cacheDir := .ofString "/"
  generateCommand := none
  generateArgs := []
  tools := strayTools

theorem stray_lacks :
    Lacks strayTools strayHost (Lookup.notFound Toolchain.assemblerName Family.llvm38.versions)
      [.ofString "/llvm-as"] := by
  have unsuffixed : ¬Lookup.IsSuffixed Host.surroundings Toolchain.assemblerName Family.llvm38.versions
      strayHost.searchPath strayHost := Lookup.findSome?_eq_none_iff.mp (by decide +kernel)
  have plain : Lookup.IsPlain Host.surroundings Toolchain.assemblerName strayHost.searchPath strayHost
      (.ofString "/llvm-as") := Lookup.search_eq_some.mp (by decide +kernel)
  have asked : (Host.surroundings.versionText (.ofString "/llvm-as") strayHost).1.map
      (Lookup.namesVersion Family.llvm38.versions) = some false := by decide +kernel
  obtain ⟨text, told, other⟩ := Option.map_eq_some_iff.mp asked
  exact .assembler (.foreign unsuffixed plain told other)

theorem stray_rejected :
    let missing := Lookup.notFound Toolchain.assemblerName Family.llvm38.versions
    (∃ probed, Rejected strayHost (.run (strayOptions ["fibonacci", "nope", "fibonacci"]))
      (.unknownSuite "nope" .llvm38 .selfConsistency) probed) ∧
    (∃ probed, Rejected strayHost (.run (strayOptions ["fibonacci", "fibonacci"])) (.lookup missing) probed ∧
      strayHost.Spares (strayHost.probed probed)) ∧
    ∃ suites, selectSuites ["fibonacci", "fibonacci"] .llvm38 .selfConsistency = .ok suites ∧
      List.Forall₂ (Suite.IsNamed .llvm38 .selfConsistency) ["fibonacci", "fibonacci"] suites := by
  intro missing
  obtain ⟨rejects, named, -⟩ := perform_rejected
  have unknown : ¬Registered .llvm38 .selfConsistency "nope" := Suite.find?_eq_none.mp (by decide)
  have known : Registered .llvm38 .selfConsistency "fibonacci" :=
    ⟨_, Suite.find?_eq_some.mp (show Suite.find? "fibonacci" .llvm38 .selfConsistency = some _ by rfl)⟩
  refine ⟨?_, ?_, named (by decide) (by simpa using known)⟩
  · obtain ⟨failure, probed, rejected, performed, -⟩ :=
      @rejects strayHost (.run (strayOptions ["fibonacci", "nope", "fibonacci"]))
        (.unknownSuite (by decide : "nope" ∈ _) unknown) id
    have told : (perform (.run (strayOptions ["fibonacci", "nope", "fibonacci"])) id strayHost).1 =
        .error (.unknownSuite "nope" .llvm38 .selfConsistency) := by decide +kernel
    rw [performed] at told
    obtain rfl := Except.error.inj told
    exact ⟨probed, rejected⟩
  · obtain ⟨failure, probed, rejected, performed, spares, -⟩ :=
      @rejects strayHost (.run (strayOptions ["fibonacci", "fibonacci"])) (.toolchain (.run _) stray_lacks) id
    have told : (perform (.run (strayOptions ["fibonacci", "fibonacci"])) id strayHost).1 =
        .error (.lookup missing) := by decide +kernel
    rw [performed] at told
    obtain rfl := Except.error.inj told
    exact ⟨probed, rejected, spares⟩

end Session
end ExitParity
