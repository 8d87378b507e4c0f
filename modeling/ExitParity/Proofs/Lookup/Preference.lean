import ExitParity.Proofs.Host.Probing
import Mathlib.Data.List.Basic
import Mathlib.Data.Prod.Lex
import Mathlib.Order.Bounds.Defs

namespace ExitParity

theorem Bytes.contains_iff_infix {part bytes : Bytes} : contains part bytes = true ↔ part <:+: bytes := by
  induction bytes with
  | nil => simp [contains]
  | cons byte rest ih =>
    rw [contains, Bool.or_eq_true, ih, List.isPrefixOf_iff_prefix, List.infix_cons_iff]

namespace Lookup

/-- A version as a file name spells it, with its dots or without them. -/
def spelling (version : String) (compacted : Bool) : String := if compacted then compact version else version

/-- The preference among the places where a program with a version in its name
may lie: the position of the version in the list, then the spelling with dots
before the one without, then the position of the directory. -/
abbrev Rank := ℕ ×ₗ Bool ×ₗ ℕ

/-- The places where a program with a version in its name may lie. -/
inductive Place (name : String) (versions : List String) (searchPath : Option Bytes) : Rank → Path → Prop
  | of {listed position : ℕ} {version : String} {dir : Path} (lists : versions[listed]? = some version)
      (compacted : Bool) (there : (directories searchPath)[position]? = some dir) :
      Place name versions searchPath (toLex (listed, toLex (compacted, position)))
        (dir.join ⟨utf8 s!"{name}-{spelling version compacted}"⟩)

/-- The same places in the order in which they are searched. -/
def places (name : String) (versions : List String) (dirs : List Path) : List (Rank × Path) :=
  versions.zipIdx.flatMap fun (version, listed) => [false, true].flatMap fun compacted =>
    dirs.zipIdx.map fun (dir, position) =>
      (toLex (listed, toLex (compacted, position)), dir.join ⟨utf8 s!"{name}-{spelling version compacted}"⟩)

variable {σ : Type} (around : Surroundings σ) (name : String) (versions : List String) (searchPath : Option Bytes)
  (s : σ)

/-- A program says that it is one of the versions when it is asked. -/
def Tells (path : Path) : Prop :=
  ∃ text, (around.versionText path s).1 = some text ∧
    ∃ version ∈ versions, utf8 s!"version {version}" <:+: Utf8.lossy text

variable {around name versions searchPath s}

theorem namesVersion_iff {text : Bytes} :
    namesVersion versions text = true ↔ ∃ version ∈ versions, utf8 s!"version {version}" <:+: Utf8.lossy text := by
  simp only [namesVersion, List.any_eq_true, Bytes.contains_iff_infix]

theorem tells_iff {path : Path} :
    Tells around versions s path ↔ (around.versionText path s).1.any (namesVersion versions) = true := by
  cases told : (around.versionText path s).1 <;> simp [Tells, told, namesVersion_iff]

theorem findProgram_told {path : Path} (unsuffixed : ¬IsSuffixed around name versions searchPath s)
    (plain : IsPlain around name searchPath s path) (tells : Tells around versions s path) :
    findProgram around name versions searchPath s = (.ok path, (around.versionText path s).2) := by
  rw [findProgram_plain unsuffixed plain, if_pos (tells_iff.mp tells)]

theorem findProgram_untold (unsuffixed : ¬IsSuffixed around name versions searchPath s)
    (untold : ¬∃ path, IsPlain around name searchPath s path ∧ Tells around versions s path) :
    (findProgram around name versions searchPath s).1 = .error (notFound name versions) := by
  cases first : search (around.isExecutable s) (directories searchPath) (utf8 name) with
  | none => rw [(Missing.nowhere unsuffixed (search_eq_none.mp first)).findProgram]
  | some path =>
    have plain : IsPlain around name searchPath s path := search_eq_some.mp first
    have silent : ¬Tells around versions s path := fun tells => untold ⟨path, plain, tells⟩
    rw [findProgram_plain unsuffixed plain, if_neg (mt tells_iff.mpr silent)]

theorem findProgram_eq_error_iff {error : ToolError} :
    (findProgram around name versions searchPath s).1 = .error error ↔
      error = notFound name versions ∧ ¬IsSuffixed around name versions searchPath s ∧
        ¬∃ path, IsPlain around name searchPath s path ∧ Tells around versions s path := by
  by_cases suffixed : IsSuffixed around name versions searchPath s
  · obtain ⟨path, found⟩ := (Found.suffixed suffixed).findProgram
    rw [found]
    exact ⟨nofun, fun ⟨_, unsuffixed, _⟩ => absurd suffixed unsuffixed⟩
  by_cases told : ∃ path, IsPlain around name searchPath s path ∧ Tells around versions s path
  · obtain ⟨path, plain, tells⟩ := told
    rw [findProgram_told suffixed plain tells]
    exact ⟨nofun, fun ⟨_, _, untold⟩ => absurd ⟨path, plain, tells⟩ untold⟩
  · rw [findProgram_untold suffixed told]
    constructor
    · rintro ⟨⟩
      exact ⟨rfl, suffixed, told⟩
    · rintro ⟨rfl, -⟩
      rfl

/-- Two directories with interpreters. The plain ones are of different versions,
and one with a version in its name is no program. -/
def crowdedHost : Host :=
  let tree : FileTree := {
    nodes := #[.directory 0o755 0 true [(utf8 "bin", 1), (utf8 "old", 2), (utf8 "new", 3)],
      .directory 0o755 0 true [(utf8 "echo", 4)],
      .directory 0o755 0 true [(utf8 "lli", 5), (utf8 "lli-3.8", 6), (utf8 "lli-39", 4)],
      .directory 0o755 0 true [(utf8 "lli", 7), (utf8 "lli-3.9", 4)],
      .file 0o755 (.applet .echo),
      .file 0o755 (.data (utf8 "#!/bin/echo version 3.2\n")),
      .file 0o644 (.applet .echo),
      .file 0o755 (.data (utf8 "#!/bin/echo version 5.0\n"))]
    times := #[0, 0, 0, 0, 0, 0, 0, 0]
    now := 0
    cwd := 0 }
  .idle tree .empty [] .unset .never 1

end Lookup
end ExitParity
