import ExitParity.Toolchain

namespace ExitParity
namespace Lookup

/-- The first executable file of a name in some directories. -/
inductive First (isExecutable : Path → Bool) (name : Bytes) : List Path → Path → Prop
  | here {dir : Path} {rest : List Path} (executable : isExecutable (dir.join ⟨name⟩) = true) :
      First isExecutable name (dir :: rest) (dir.join ⟨name⟩)
  | later {dir path : Path} {rest : List Path} (other : isExecutable (dir.join ⟨name⟩) = false)
      (first : First isExecutable name rest path) : First isExecutable name (dir :: rest) path

section

variable {isExecutable : Path → Bool} {name : Bytes} {dirs : List Path} {path : Path}

theorem First.mem (first : First isExecutable name dirs path) :
    ∃ dir ∈ dirs, path = dir.join ⟨name⟩ ∧ isExecutable path = true := by
  induction first with
  | here executable => exact ⟨_, List.mem_cons_self, rfl, executable⟩
  | later other first ih =>
    obtain ⟨dir, member, named⟩ := ih
    exact ⟨dir, List.mem_cons_of_mem _ member, named⟩

theorem search_eq_some : search isExecutable dirs name = some path ↔ First isExecutable name dirs path := by
  induction dirs with
  | nil => exact ⟨nofun, nofun⟩
  | cons dir rest ih =>
    have step : search isExecutable (dir :: rest) name =
        if isExecutable (dir.join ⟨name⟩) then some (dir.join ⟨name⟩) else search isExecutable rest name := by
      simp only [search, List.map_cons, List.find?_cons]
      split <;> simp_all
    rw [step]
    cases executable : isExecutable (dir.join ⟨name⟩) with
    | true =>
      simp only [if_true, Option.some.injEq]
      constructor
      · rintro rfl
        exact .here executable
      · intro first
        cases first with
        | here => rfl
        | later other => simp [executable] at other
    | false =>
      simp only [Bool.false_eq_true, if_false, ih]
      constructor
      · exact .later executable
      · intro first
        cases first with
        | here found => simp [executable] at found
        | later _ first => exact first

theorem First.unique {again : Path} (first : First isExecutable name dirs path)
    (other : First isExecutable name dirs again) : path = again :=
  Option.some.inj ((search_eq_some.mpr first).symm.trans (search_eq_some.mpr other))

theorem search_eq_none :
    search isExecutable dirs name = none ↔ ∀ dir ∈ dirs, isExecutable (dir.join ⟨name⟩) = false := by
  simp only [search, List.find?_eq_none, List.mem_map, forall_exists_index, and_imp, forall_apply_eq_imp_iff₂,
    Bool.not_eq_true]

end

variable {σ : Type} (around : Surroundings σ) (name : String) (versions : List String) (searchPath : Option Bytes)
  (s : σ)

/-- Some directory has the program with one of the versions in its name. -/
def IsSuffixed : Prop :=
  ∃ versioned ∈ versionedNames name versions, ∃ dir ∈ directories searchPath,
    around.isExecutable s (dir.join ⟨utf8 versioned⟩) = true

/-- The program without a version in its name that would be taken. -/
def IsPlain (path : Path) : Prop :=
  First (around.isExecutable s) (utf8 name) (directories searchPath) path

/-- A program can be found, by asking some programs for their version. -/
inductive Found : List Path → Prop
  | suffixed (suffixed : IsSuffixed around name versions searchPath s) : Found []
  | plain {path : Path} {text : Bytes} (unsuffixed : ¬IsSuffixed around name versions searchPath s)
      (plain : IsPlain around name searchPath s path) (told : (around.versionText path s).1 = some text)
      (named : namesVersion versions text = true) : Found [path]

/-- A program cannot be found, even by asking some programs for their version. -/
inductive Missing : List Path → Prop
  | nowhere (unsuffixed : ¬IsSuffixed around name versions searchPath s)
      (absent : ∀ dir ∈ directories searchPath, around.isExecutable s (dir.join ⟨utf8 name⟩) = false) : Missing []
  | silent {path : Path} (unsuffixed : ¬IsSuffixed around name versions searchPath s)
      (plain : IsPlain around name searchPath s path) (silent : (around.versionText path s).1 = none) : Missing [path]
  | foreign {path : Path} {text : Bytes} (unsuffixed : ¬IsSuffixed around name versions searchPath s)
      (plain : IsPlain around name searchPath s path) (told : (around.versionText path s).1 = some text)
      (other : namesVersion versions text = false) : Missing [path]

/-- Ask programs for their version, one after another. -/
def probe (paths : List Path) : σ := paths.foldl (fun s path => (around.versionText path s).2) s

variable {around name versions searchPath s}

theorem findSome?_eq_none_iff :
    (versionedNames name versions).findSome?
        (fun name => search (around.isExecutable s) (directories searchPath) (utf8 name)) = none ↔
      ¬IsSuffixed around name versions searchPath s := by
  simp only [List.findSome?_eq_none_iff, search_eq_none, IsSuffixed, not_exists, not_and, Bool.not_eq_true]

/-- A plain program is taken when it is asked and names one of the versions. -/
theorem findProgram_plain {path : Path} (unsuffixed : ¬IsSuffixed around name versions searchPath s)
    (plain : IsPlain around name searchPath s path) :
    findProgram around name versions searchPath s =
      (if (around.versionText path s).1.any (namesVersion versions) then .ok path
        else .error (notFound name versions), (around.versionText path s).2) := by
  simp only [Lookup.findProgram, findSome?_eq_none_iff.mpr unsuffixed, search_eq_some.mpr plain]
  generalize around.versionText path s = asked
  obtain ⟨told, after⟩ := asked
  cases told <;> rfl

theorem Found.findProgram {probed : List Path} (found : Found around name versions searchPath s probed) :
    ∃ path, findProgram around name versions searchPath s = (.ok path, probe around s probed) := by
  cases found with
  | suffixed suffixed =>
    simp only [Lookup.findProgram]
    split
    · exact ⟨_, rfl⟩
    · next none_ => exact absurd suffixed (findSome?_eq_none_iff.mp none_)
  | @plain path text unsuffixed plain told named =>
    refine ⟨path, ?_⟩
    rw [findProgram_plain unsuffixed plain, told, Option.any_some, if_pos named]
    rfl

theorem Missing.findProgram {probed : List Path} (missing : Missing around name versions searchPath s probed) :
    findProgram around name versions searchPath s = (.error (notFound name versions), probe around s probed) := by
  cases missing with
  | nowhere unsuffixed absent =>
    simp only [Lookup.findProgram, findSome?_eq_none_iff.mpr unsuffixed, search_eq_none.mpr absent]
    rfl
  | silent unsuffixed plain silent =>
    rw [findProgram_plain unsuffixed plain, silent]
    rfl
  | foreign unsuffixed plain told other =>
    rw [findProgram_plain unsuffixed plain, told, Option.any_some, other]
    rfl

variable (around name versions searchPath s) in
theorem found_or_missing :
    (∃ probed, Found around name versions searchPath s probed) ∨
      ∃ probed, Missing around name versions searchPath s probed := by
  by_cases suffixed : IsSuffixed around name versions searchPath s
  · exact .inl ⟨[], .suffixed suffixed⟩
  cases first : search (around.isExecutable s) (directories searchPath) (utf8 name) with
  | none => exact .inr ⟨[], .nowhere suffixed (search_eq_none.mp first)⟩
  | some path =>
    have plain : IsPlain around name searchPath s path := search_eq_some.mp first
    cases told : (around.versionText path s).1 with
    | none => exact .inr ⟨[path], .silent suffixed plain told⟩
    | some text =>
      cases named : namesVersion versions text with
      | true => exact .inl ⟨[path], .plain suffixed plain told named⟩
      | false => exact .inr ⟨[path], .foreign suffixed plain told named⟩

/-- At most one program is asked for its version, and only one of the plain
name. -/
structure Asks (name : String) (searchPath : Option Bytes) (probed : List Path) : Prop where
  length : probed.length ≤ 1
  plain : ∀ path ∈ probed, ∃ dir ∈ directories searchPath, path = dir.join ⟨utf8 name⟩

theorem Asks.none_ (name : String) (searchPath : Option Bytes) : Asks name searchPath [] := ⟨by decide, nofun⟩

theorem IsPlain.asks {path : Path} (plain : IsPlain around name searchPath s path) : Asks name searchPath [path] := by
  obtain ⟨dir, member, named, -⟩ := First.mem plain
  refine ⟨Nat.le_refl _, fun other same => ?_⟩
  obtain rfl := List.mem_singleton.mp same
  exact ⟨dir, member, named⟩

theorem Found.asks {probed : List Path} (found : Found around name versions searchPath s probed) :
    Asks name searchPath probed := by
  cases found with
  | suffixed => exact .none_ name searchPath
  | plain unsuffixed plain told named => exact plain.asks

theorem Missing.asks {probed : List Path} (missing : Missing around name versions searchPath s probed) :
    Asks name searchPath probed := by
  cases missing with
  | nowhere => exact .none_ name searchPath
  | silent unsuffixed plain silent => exact plain.asks
  | foreign unsuffixed plain told other => exact plain.asks

section

variable {isExecutable : Path → Bool} {program : Path} {searchPath : Option Bytes}

/-- More than a bare name is given for the program under test. -/
abbrev IsSpelledOut (program : Path) : Prop := 1 < program.components.length ∨ program.isAbsolute = true

theorem locate_spelledOut (spelledOut : IsSpelledOut program) :
    locate isExecutable program searchPath =
      if isExecutable program then .ok program else .error (.notFound program.display "any") := by
  have steps : (decide (program.components.length > 1) || program.isAbsolute) = true := by simpa using spelledOut
  unfold locate
  rw [steps]
  cases isExecutable program <;> rfl

theorem locate_bare (bare : ¬IsSpelledOut program) :
    locate isExecutable program searchPath =
      match search isExecutable (directories searchPath) (Utf8.lossy program.bytes) with
      | some path => .ok path
      | none => .error (.notFound program.display "any") := by
  have steps : (decide (program.components.length > 1) || program.isAbsolute) = false := by simpa using bare
  unfold locate
  rw [steps]
  cases search isExecutable (directories searchPath) (Utf8.lossy program.bytes) <;> rfl

/-- The program under test is not where it should be. -/
def Unlocated (isExecutable : Path → Bool) (program : Path) (searchPath : Option Bytes) : Prop :=
  if 1 < program.components.length ∨ program.isAbsolute = true then isExecutable program = false
  else ∀ dir ∈ directories searchPath, isExecutable (dir.join ⟨Utf8.lossy program.bytes⟩) = false

theorem locate_eq_error {error : ToolError} :
    locate isExecutable program searchPath = .error error ↔
      Unlocated isExecutable program searchPath ∧ error = .notFound program.display "any" := by
  unfold Unlocated
  by_cases spelledOut : IsSpelledOut program
  · rw [locate_spelledOut spelledOut, if_pos spelledOut]
    cases isExecutable program <;> simp [eq_comm]
  · rw [locate_bare spelledOut, if_neg spelledOut, ← search_eq_none]
    cases search isExecutable (directories searchPath) (Utf8.lossy program.bytes) <;> simp [eq_comm]

end

end Lookup

namespace Host

/-- The program's own environment, the token and the progress symbols are as
they were. -/
structure Spares (before after : Host) : Prop extends before.Passes after where
  sink : after.sink = before.sink

theorem Spares.refl (host : Host) : host.Spares host := ⟨.refl host, rfl⟩

theorem Spares.trans {before between after : Host} (early : before.Spares between) (late : between.Spares after) :
    before.Spares after :=
  ⟨early.toPasses.trans late.toPasses, late.sink.trans early.sink⟩

theorem spares_step (host : Host) (index : Nat) (strand : Strand) (time : Nat) :
    host.Spares (host.step index strand time) := by
  refine ⟨host.passes_step index strand time, ?_⟩
  unfold step
  cases strand.thread <;> rfl

theorem spares_runWhile (goesOn : Machine → Bool) (limit : Option Nat) (fuel : Nat) (host : Host) :
    host.Spares (runWhile goesOn limit fuel host) := by
  refine ⟨host.passes_runWhile goesOn limit fuel, ?_⟩
  induction fuel generalizing host with
  | zero => rfl
  | succ fuel ih =>
    unfold runWhile
    split
    · rfl
    · split
      · rfl
      · split
        · rfl
        · split
          · rfl
          · exact (ih _).trans (host.spares_step _ _ _).sink

theorem spares_drain (pipe number fuel : Nat) (bytes : Bytes) (host : Host) :
    host.Spares (drain pipe number fuel bytes host).2 := by
  induction fuel generalizing bytes host with
  | zero => exact .refl host
  | succ fuel ih =>
    unfold drain
    simp only
    split
    · exact (host.spares_runWhile _ _ _).trans ⟨⟨rfl, rfl⟩, rfl⟩
    · refine Spares.trans ?_ (ih _ _)
      exact (host.spares_runWhile _ _ _).trans ⟨⟨rfl, rfl⟩, rfl⟩

theorem spares_versionText (program : Path) (host : Host) : host.Spares (host.versionText program).2 := by
  unfold versionText
  split
  · exact .refl host
  · next image _ =>
    dsimp only
    generalize begun : Host.start _ image _ _ = process
    have running : host.Spares process.2 := by
      subst begun
      exact ⟨⟨rfl, rfl⟩, rfl⟩
    have drained := spares_drain host.pipes.size process.1 stepLimit [] process.2
    generalize drain host.pipes.size process.1 stepLimit [] process.2 = ended at drained ⊢
    exact (running.trans drained).trans ⟨⟨rfl, rfl⟩, rfl⟩

/-- The host behind programs that are asked for their version. -/
def probed (host : Host) (paths : List Path) : Host := Lookup.probe surroundings host paths

theorem probed_append (host : Host) (paths more : List Path) :
    host.probed (paths ++ more) = (host.probed paths).probed more :=
  List.foldl_append

theorem spares_probed (host : Host) (paths : List Path) : host.Spares (host.probed paths) := by
  induction paths generalizing host with
  | nil => exact .refl host
  | cons path rest ih => exact (spares_versionText path host).trans (ih _)

theorem searchPath_probed (host : Host) (paths : List Path) : (host.probed paths).searchPath = host.searchPath := by
  simp only [searchPath, (host.spares_probed paths).env]

/-- A tool of a family can be found on a host. -/
def Finds (host : Host) (family : Family) (name : String) (probed : List Path) : Prop :=
  Lookup.Found surroundings name family.versions host.searchPath host probed

/-- A tool of a family cannot be found on a host. -/
def Misses (host : Host) (family : Family) (name : String) (probed : List Path) : Prop :=
  Lookup.Missing surroundings name family.versions host.searchPath host probed

end Host
end ExitParity
