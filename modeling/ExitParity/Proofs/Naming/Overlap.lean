import ExitParity.Proofs.Comparison.Tasks
import ExitParity.Proofs.Evaluation.Discovery
import ExitParity.Proofs.Naming.Siblings
import ExitParity.Proofs.Text.Utf8

namespace ExitParity

namespace Path

variable {path : Path} {name : Bytes}

theorem not_mem_of_fileName? (last : path.fileName? = some name) : slash ∉ name := by
  obtain ⟨anchor, before, after, named⟩ := exists_named last
  exact named.plain name (by simp)

theorem components_of_fileName? (last : path.fileName? = some name) :
    path.components = path.components.dropLast ++ [.name name] := by
  obtain ⟨anchor, before, after, named⟩ := exists_named last
  rw [named.components, List.dropLast_concat]

theorem step?_of_length {segment : Bytes} (long : 2 < segment.length) : step? segment = some (.name segment) := by
  have some_ : segment ≠ [] := by
    rintro rfl
    simp at long
  have here : segment ≠ dot := by
    rintro rfl
    simp [dot] at long
  have up : segment ≠ dotdot := by
    rintro rfl
    simp [dotdot] at long
  simp [step?, idle, some_, here, up]

theorem concat_name_inj {steps otherSteps : List Component} {stem otherStem suffix : Bytes} :
    steps ++ [.name (stem ++ suffix)] = otherSteps ++ [.name (otherStem ++ suffix)] ↔
      steps = otherSteps ∧ otherStem = stem := by
  constructor
  · intro same
    obtain ⟨front, last⟩ := List.append_inj' same rfl
    exact ⟨front, (List.append_cancel_right (Component.name.inj (List.singleton_inj.mp last))).symm⟩
  · rintro ⟨rfl, rfl⟩
    rfl

end Path

namespace Suffix

/-- What the stem of a file gains when the file is written anew. -/
def out : Bytes := utf8 ".out"

theorem outTextual_eq : outTextual = out ++ textual := by decide

/-- Suffixes that make a name of any stem: none of the names stands for
another step, and none is cut in two. -/
structure Sound (suffix : Bytes) : Prop where
  long : 2 < suffix.length
  plain : Path.slash ∉ suffix

theorem sound_binary : Sound binary := ⟨by decide, by decide⟩

theorem sound_outTextual : Sound outTextual := ⟨by decide, by decide⟩

theorem Sound.components_withFileName {suffix stem name : Bytes} {path : Path} (sound : Sound suffix)
    (last : path.fileName? = some name) (plain : Path.slash ∉ stem) :
    (path.withFileName (stem ++ suffix)).components = path.components.dropLast ++ [.name (stem ++ suffix)] := by
  have long : 2 < (stem ++ suffix).length := by
    rw [List.length_append]
    exact Nat.lt_add_left _ sound.long
  refine Path.components_withFileName last (Path.step?_of_length long) fun slashed => ?_
  rcases List.mem_append.mp slashed with early | late
  · exact plain early
  · exact sound.plain late

end Suffix

/-- The pair that reassembly makes of a module whose name has this stem. -/
structure ArtifactPair.HasStem (pair : ArtifactPair) (stem : Bytes) : Prop where
  fileName : pair.root.fileName? = some (stem ++ Suffix.outTextual)
  wellFormed : Utf8.valid (stem ++ Suffix.outTextual) = true
  reference : pair.reference = some (pair.root.withFileName (stem ++ Suffix.binary))

theorem Layout.exists_hasStem {path : Path} {pair : ArtifactPair} (found : reassembly.pairRoot? path = some pair) :
    ∃ stem, pair.HasStem stem := by
  simp only [pairRoot?] at found
  obtain ⟨name, last, found⟩ := Option.bind_eq_some_iff.mp found
  split at found
  · cases found
  · next wellFormed =>
    obtain ⟨stem, stripped, made⟩ := Option.bind_eq_some_iff.mp found
    obtain rfl := Bytes.eq_append_of_stripSuffix? stripped
    obtain rfl := Option.some.inj made
    exact ⟨stem, last, by simpa using wellFormed, rfl⟩

theorem FileTree.exists_hasStem {tree : FileTree} {dir : Path} {pair : ArtifactPair}
    (found : pair ∈ tree.discover dir .reassembly) : ∃ stem, pair.HasStem stem := by
  obtain ⟨path, -, rooted⟩ := List.mem_filterMap.mp found
  exact Layout.exists_hasStem rooted

namespace ArtifactPair.HasStem

variable {pair other : ArtifactPair} {stem otherStem : Bytes}

theorem plain (named : pair.HasStem stem) : Path.slash ∉ stem := fun slashed =>
  Path.not_mem_of_fileName? named.fileName (List.mem_append_left _ slashed)

theorem plain_out (named : pair.HasStem stem) : Path.slash ∉ stem ++ Suffix.out := by
  intro slashed
  rcases List.mem_append.mp slashed with early | late
  · exact named.plain early
  · exact absurd late (by decide)

theorem assembledPath (named : pair.HasStem stem) :
    assembledPath pair.root = pair.root.withFileName (stem ++ Suffix.out ++ Suffix.binary) := by
  have shown := Utf8.lossy_of_valid named.wellFormed
  rw [ExitParity.assembledPath, named.fileName, Option.getD_some]
  simp only [shown]
  rw [Suffix.outTextual_eq, ← List.append_assoc, Bytes.stripSuffix?_append, Option.getD_some]

/-- Assembling the module of one pair writes the stored binary of another when
the two lie in one directory and the other stem is the longer one by `out`. -/
theorem overlaps_iff (named : pair.HasStem stem) (otherNamed : other.HasStem otherStem) :
    (∃ reference ∈ other.reference, (ExitParity.assembledPath pair.root).same reference = true) ↔
      pair.root.components.dropLast = other.root.components.dropLast ∧ otherStem = stem ++ Suffix.out := by
  simp only [otherNamed.reference, Option.mem_some_iff, exists_eq_left']
  rw [Path.same_iff, named.assembledPath, Suffix.sound_binary.components_withFileName named.fileName named.plain_out,
    Suffix.sound_binary.components_withFileName otherNamed.fileName otherNamed.plain, Path.concat_name_inj]

theorem neighbour_iff (named : pair.HasStem stem) (otherNamed : other.HasStem otherStem) :
    other.root.same (pair.root.withFileName (stem ++ Suffix.out ++ Suffix.outTextual)) = true ↔
      pair.root.components.dropLast = other.root.components.dropLast ∧ otherStem = stem ++ Suffix.out := by
  rw [Path.same_iff, Suffix.sound_outTextual.components_withFileName named.fileName named.plain_out,
    Path.components_of_fileName? otherNamed.fileName, eq_comm, Path.concat_name_inj, List.dropLast_concat]

end ArtifactPair.HasStem

/-- Of two pairs found for reassembly, comparing the first writes over what the
second is compared with exactly when the second module is written anew from the
binary that the first one assembles to. -/
theorem assembled_same_reference_iff {tree : FileTree} {dir : Path} {pair other : ArtifactPair}
    (found : pair ∈ tree.discover dir .reassembly) (otherFound : other ∈ tree.discover dir .reassembly) :
    (∃ reference ∈ other.reference, (assembledPath pair.root).same reference = true) ↔
      ∃ stem, pair.root.fileName? = some (stem ++ Suffix.outTextual) ∧
        other.root.same (pair.root.withFileName (stem ++ Suffix.out ++ Suffix.outTextual)) = true := by
  obtain ⟨stem, named⟩ := FileTree.exists_hasStem found
  obtain ⟨otherStem, otherNamed⟩ := FileTree.exists_hasStem otherFound
  rw [named.overlaps_iff otherNamed, ← named.neighbour_iff otherNamed]
  constructor
  · intro neighbour
    exact ⟨stem, named.fileName, neighbour⟩
  · rintro ⟨stem', last, neighbour⟩
    have same : stem' = stem := List.append_cancel_right (Option.some.inj (last.symm.trans named.fileName))
    exact same ▸ neighbour

/-- No comparison writes over what it is itself compared with. -/
theorem assembled_spares_own_reference {tree : FileTree} {dir : Path} {pair : ArtifactPair}
    (found : pair ∈ tree.discover dir .reassembly) : ∀ reference ∈ pair.reference,
      (assembledPath pair.root).same reference = false := by
  obtain ⟨stem, named⟩ := FileTree.exists_hasStem found
  intro reference stored
  rw [← Bool.not_eq_true]
  intro same
  have longer := ((named.overlaps_iff named).mp ⟨reference, stored, same⟩).2
  simp [Suffix.out, utf8, String.utf8EncodeChar] at longer

/-- A program written anew, with what was written anew from the result. -/
def twiceWritten : FileTree where
  nodes := #[.directory 0o755 0 true [(utf8 "foo.bc", 1), (utf8 "foo.out.ll", 1), (utf8 "foo.out.bc", 1),
      (utf8 "foo.out.out.ll", 1)], .file 0o644 (.data [])]
  times := #[0, 0]
  now := 0
  cwd := 0

def onceWrittenPair : ArtifactPair := ⟨.ofString "/foo.out.ll", some (.ofString "/foo.bc")⟩

def twiceWrittenPair : ArtifactPair := ⟨.ofString "/foo.out.out.ll", some (.ofString "/foo.out.bc")⟩

theorem twiceWritten_discover :
    twiceWritten.discover (.ofString "/") .reassembly = [onceWrittenPair, twiceWrittenPair] := by
  have ends : (Walk.at_ (.ofString "/")).endsWithin twiceWritten 8 = true := by decide
  rw [FileTree.discover, Walk.files_of_endsWithin ends (by decide)]
  decide +kernel

/-- The module that is its neighbour tells that the stored binary is written over. -/
theorem twiceWritten_overlap :
    (assembledPath onceWrittenPair.root).same (.ofString "/foo.out.bc") = true ∧
      ¬ ∃ reference ∈ onceWrittenPair.reference, (assembledPath twiceWrittenPair.root).same reference = true := by
  have once : onceWrittenPair ∈ twiceWritten.discover (.ofString "/") .reassembly := by simp [twiceWritten_discover]
  have twice : twiceWrittenPair ∈ twiceWritten.discover (.ofString "/") .reassembly := by simp [twiceWritten_discover]
  have neighbours : ∃ stem, onceWrittenPair.root.fileName? = some (stem ++ Suffix.outTextual) ∧
      twiceWrittenPair.root.same (onceWrittenPair.root.withFileName (stem ++ Suffix.out ++ Suffix.outTextual)) = true :=
    ⟨utf8 "foo", by decide, by decide⟩
  obtain ⟨reference, stored, overlap⟩ := (assembled_same_reference_iff once twice).mpr neighbours
  obtain rfl := Option.some.inj stored
  refine ⟨overlap, fun backwards => ?_⟩
  obtain ⟨stem, last, same⟩ := (assembled_same_reference_iff twice once).mp backwards
  have whole : utf8 "foo.out" ++ Suffix.outTextual = stem ++ Suffix.outTextual := Option.some.inj last
  rw [← List.append_cancel_right whole] at same
  exact absurd same (by decide)

/-- Stored binaries are not safe from the comparisons around them. -/
theorem stored_binary_overlapped :
    ¬ ∀ (tree : FileTree) (dir : Path), ∀ pair ∈ tree.discover dir .reassembly,
      ∀ other ∈ tree.discover dir .reassembly, ∀ reference ∈ other.reference,
        (assembledPath pair.root).same reference = false := by
  intro spared
  have discovered := twiceWritten_discover
  have safe := spared twiceWritten (.ofString "/") onceWrittenPair (by simp [discovered]) twiceWrittenPair
    (by simp [discovered]) (.ofString "/foo.out.bc") rfl
  exact absurd safe (by decide +kernel)

end ExitParity
