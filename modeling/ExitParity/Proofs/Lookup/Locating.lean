import ExitParity.Proofs.Host.Probing
import ExitParity.Proofs.Naming.Joining
import ExitParity.Proofs.Text.Utf8
import Mathlib.Data.List.Basic

namespace ExitParity
namespace Lookup

/-- What the search for a program answers when the directories are searched
for a file of this name. -/
inductive Located (isExecutable : Path → Bool) (program : Path) (name : Bytes) (searchPath : Option Bytes) :
    Except ToolError Path → Prop
  | given (spelledOut : IsSpelledOut program) (executable : isExecutable program = true) :
      Located isExecutable program name searchPath (.ok program)
  | unusable (spelledOut : IsSpelledOut program) (other : isExecutable program = false) :
      Located isExecutable program name searchPath (.error (.notFound program.display "any"))
  | found {path : Path} (bare : ¬IsSpelledOut program) (first : First isExecutable name (directories searchPath) path) :
      Located isExecutable program name searchPath (.ok path)
  | nowhere (bare : ¬IsSpelledOut program)
      (absent : ∀ dir ∈ directories searchPath, isExecutable (dir.join ⟨name⟩) = false) :
      Located isExecutable program name searchPath (.error (.notFound program.display "any"))

variable {isExecutable : Path → Bool} {program path : Path} {name : Bytes} {searchPath : Option Bytes}
  {answer : Except ToolError Path}

/-- The directories are searched for the name as it would be shown. -/
theorem located (isExecutable : Path → Bool) (program : Path) (searchPath : Option Bytes) :
    Located isExecutable program (Utf8.lossy program.bytes) searchPath (locate isExecutable program searchPath) := by
  by_cases spelledOut : IsSpelledOut program
  · rw [locate_spelledOut spelledOut]
    cases executable : isExecutable program with
    | false => exact .unusable spelledOut executable
    | true => exact .given spelledOut executable
  · rw [locate_bare spelledOut]
    cases first : search isExecutable (directories searchPath) (Utf8.lossy program.bytes) with
    | none => exact .nowhere spelledOut (search_eq_none.mp first)
    | some path => exact .found spelledOut (search_eq_some.mp first)

theorem Located.of_isSpelledOut {other : Bytes} (located : Located isExecutable program other searchPath answer)
    (spelledOut : IsSpelledOut program) : Located isExecutable program name searchPath answer := by
  cases located with
  | given _ executable => exact .given spelledOut executable
  | unusable _ other => exact .unusable spelledOut other
  | found bare => exact absurd spelledOut bare
  | nowhere bare => exact absurd spelledOut bare

/-- A program is found under the file name that it was given by. -/
theorem Located.fileName? (located : Located isExecutable program program.bytes searchPath (.ok path))
    (last : program.fileName? = some name) : path.fileName? = some name := by
  cases located with
  | given => exact last
  | found bare first =>
    obtain ⟨dir, -, rfl, -⟩ := first.mem
    exact dir.fileName?_join last

/-- In the working directory alone, the name that is looked for shows whether it
is the one that was given. -/
theorem known_of_located
    (same : Located (· = program) program program.bytes (some []) (locate (· = program) program (some []))) :
    IsSpelledOut program ∨ Utf8.valid program.bytes = true := by
  -- Both are about one answer, and only the program itself can be found.
  have asked := located (· = program) program (some [])
  generalize locate (· = program) program (some []) = answer at same asked
  cases same with
  | given spelledOut => exact .inl spelledOut
  | unusable spelledOut => exact .inl spelledOut
  | nowhere _ absent =>
    have other := absent ⟨[]⟩ (List.mem_singleton.mpr rfl)
    rw [Path.empty_join] at other
    exact absurd rfl (of_decide_eq_false other)
  | found bare first =>
    cases asked with
    | given spelledOut => exact absurd spelledOut bare
    | found _ first =>
      obtain ⟨dir, member, named, executable⟩ := first.mem
      obtain rfl := List.mem_singleton.mp member
      rw [Path.empty_join] at named
      have shown : ⟨Utf8.lossy program.bytes⟩ = program := named.symm.trans (of_decide_eq_true executable)
      exact .inr (Utf8.lossy_eq_self_iff.mp (congrArg Path.bytes shown))

end Lookup

theorem Toolchain.resolve_candidate {σ : Type} {around : Surroundings σ} {request : Request}
    {searchPath : Option Bytes} {s after : σ} {tools : Toolchain}
    (resolved : resolve around request searchPath s = (.ok tools, after)) :
    Lookup.locate (around.isExecutable after) request.candidate searchPath = .ok tools.candidate.program := by
  unfold resolve at resolved
  split at resolved
  · cases resolved
  · split at resolved
    · cases resolved
    · split at resolved
      · cases resolved
      · next located =>
        cases resolved
        exact located

namespace Lookup

/-- A program is looked for as it is given exactly when it is spelled out or
its name is a text, and then it runs under its own file name. Any other name is
looked for as the text that is shown for it. -/
theorem locate_as_given (program : Path) :
    (∀ isExecutable searchPath,
      Located isExecutable program (Utf8.lossy program.bytes) searchPath (locate isExecutable program searchPath)) ∧
    ((∀ isExecutable searchPath,
      Located isExecutable program program.bytes searchPath (locate isExecutable program searchPath)) ↔
        IsSpelledOut program ∨ Utf8.valid program.bytes = true) ∧
    (IsSpelledOut program ∨ Utf8.valid program.bytes = true →
      ∀ (σ : Type) (around : Surroundings σ) (request : Toolchain.Request) searchPath s tools after name,
        request.candidate = program → Toolchain.resolve around request searchPath s = (.ok tools, after) →
        program.fileName? = some name → tools.candidate.program.fileName? = some name) := by
  have exactly : IsSpelledOut program ∨ Utf8.valid program.bytes = true → ∀ isExecutable searchPath,
      Located isExecutable program program.bytes searchPath (locate isExecutable program searchPath) := by
    intro known isExecutable searchPath
    have asked := located isExecutable program searchPath
    rcases known with spelledOut | wellFormed
    · exact asked.of_isSpelledOut spelledOut
    · rwa [Utf8.lossy_of_valid wellFormed] at asked
  refine ⟨fun _ _ => located _ _ _, ⟨fun same => known_of_located (same _ _), exactly⟩, ?_⟩
  rintro known σ around request searchPath s tools after name rfl resolved last
  have same := exactly known (around.isExecutable after) searchPath
  rw [Toolchain.resolve_candidate resolved] at same
  exact same.fileName? last

/-- A system with an assembler, an interpreter and one more program. -/
def candidateHost (name : Bytes) : Host :=
  let tree : FileTree := {
    nodes := #[.directory 0o755 0 true [(utf8 "bin", 1)],
      .directory 0o755 0 true [(utf8 "llvm-as-3.8", 2), (utf8 "lli-3.8", 2), (name, 2)],
      .file 0o755 (.applet .echo)]
    times := #[0, 0, 0]
    now := 0
    cwd := 0 }
  .idle tree .empty [] .unset .never 1

def candidateRequest (name : Bytes) : Toolchain.Request where
  assemblerVersions := ["3.8"]
  interpreterVersions := ["3.8"]
  candidate := ⟨name⟩
  candidateArgs := []
  timeout := none
  showOutput := false
  versionTag := utf8 "3.8"

/-- A name that is a text is found as it is, and a byte that is no character
makes a difference. -/
theorem candidateHost_as_given :
    let resolved := Toolchain.resolve Host.surroundings (candidateRequest (utf8 "cand")) (some (utf8 "/bin"))
      (candidateHost (utf8 "cand"))
    (∃ tools after, resolved = (.ok tools, after) ∧ tools.candidate.program.fileName? = some (utf8 "cand")) ∧
      ¬∀ isExecutable searchPath, Located isExecutable ⟨utf8 "cand" ++ [0xff]⟩ (utf8 "cand" ++ [0xff]) searchPath
        (locate isExecutable ⟨utf8 "cand" ++ [0xff]⟩ searchPath) := by
  intro resolved
  constructor
  · obtain ⟨-, -, named⟩ := locate_as_given (.ofString "cand")
    have found : resolved.1.map (·.candidate.program) = .ok (.ofString "/bin/cand") := by decide +kernel
    cases run : resolved with
    | mk answer after =>
      rw [run] at found
      cases answer with
      | error error => cases found
      | ok tools => exact ⟨tools, after, rfl, named (.inr (by decide)) _ _ _ _ _ _ _ _ rfl run (by decide)⟩
  · obtain ⟨-, exactly, -⟩ := locate_as_given ⟨utf8 "cand" ++ [0xff]⟩
    exact mt exactly.mp (by decide)

/-- A program that is there is missed, and another one is taken for it. -/
theorem other_candidate_located :
    (¬∀ (host : Host) (program : Path) (searchPath : Option Bytes),
      Located host.tree.isExecutable program program.bytes searchPath
        (locate host.tree.isExecutable program searchPath)) ∧
    ¬∀ (host : Host) (program path : Path) (searchPath : Option Bytes),
      locate host.tree.isExecutable program searchPath = .ok path → path.fileName? = program.fileName? := by
  constructor
  · intro exactly
    have same := exactly (candidateHost (utf8 "cand" ++ [0xff])) ⟨utf8 "cand" ++ [0xff]⟩ (some (utf8 "/bin"))
    have missing : locate (candidateHost (utf8 "cand" ++ [0xff])).tree.isExecutable ⟨utf8 "cand" ++ [0xff]⟩
        (some (utf8 "/bin")) = .error (.notFound "cand\uFFFD" "any") := by decide +kernel
    have there : (candidateHost (utf8 "cand" ++ [0xff])).tree.isExecutable ⟨utf8 "/bin/cand" ++ [0xff]⟩ = true := by
      decide +kernel
    rw [missing] at same
    generalize failed : Except.error (ε := ToolError) _ = answer at same
    cases same with
    | given => cases failed
    | unusable spelledOut => exact absurd spelledOut (by decide)
    | found => cases failed
    | nowhere _ absent =>
      have other := absent (.ofString "/bin") (by decide)
      exact absurd (there.symm.trans other) (by decide)
  · intro exactly
    have found : locate (candidateHost (utf8 "cand\uFFFD")).tree.isExecutable ⟨utf8 "cand" ++ [0xff]⟩
        (some (utf8 "/bin")) = .ok (.ofString "/bin/cand\uFFFD") := by decide +kernel
    exact absurd (exactly _ _ _ _ found) (by decide)

end Lookup
end ExitParity
