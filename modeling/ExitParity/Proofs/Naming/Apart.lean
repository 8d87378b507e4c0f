import ExitParity.Proofs.Naming.Kinds

namespace ExitParity

namespace Suffix

theorem ascii_textual : ∀ byte ∈ textual, byte.toNat < 0x80 := fun byte member =>
  have each : (textual.all fun byte => decide (byte.toNat < 0x80)) = true := by decide
  of_decide_eq_true (List.all_eq_true.mp each byte member)

theorem outBinary_eq : outBinary = out ++ binary := by decide

theorem valid_textual : Utf8.valid textual = true := by decide

theorem valid_binary : Utf8.valid binary = true := by decide

end Suffix

/-- A module whose name has this stem. -/
structure Path.HasStem (path : Path) (stem : Bytes) : Prop where
  fileName : path.fileName? = some (stem ++ Suffix.textual)
  wellFormed : Utf8.valid stem = true

/-- The binary that lies beside a module under a name of its own. -/
def Path.binaryBeside (path : Path) (stem : Bytes) : Path := path.withFileName (stem ++ Suffix.binary)

namespace Path.HasStem

variable {path other : Path} {stem otherStem part otherPart : Bytes}

theorem plain (named : path.HasStem stem) : slash ∉ stem := fun slashed =>
  not_mem_of_fileName? named.fileName (List.mem_append_left _ slashed)

theorem assembledPath (named : path.HasStem stem) : assembledPath path = path.binaryBeside stem := by
  have wellFormed : Utf8.valid (stem ++ Suffix.textual) = true := by
    rw [Utf8.valid_append named.wellFormed, Suffix.valid_textual]
  simp only [ExitParity.assembledPath, named.fileName, Option.getD_some, Utf8.lossy_of_valid wellFormed,
    Bytes.stripSuffix?_append]
  rfl

theorem parent_binaryBeside (named : path.HasStem stem) (plain : slash ∉ part) :
    (path.binaryBeside part).parent = path.parent :=
  have isBinary := Suffix.isBinary_of_plain plain
  parent_withFileName named.fileName isBinary.step? isBinary.plain

theorem fileName?_binaryBeside (named : path.HasStem stem) (plain : slash ∉ part) :
    (path.binaryBeside part).fileName? = some (part ++ Suffix.binary) :=
  have isBinary := Suffix.isBinary_of_plain plain
  fileName?_withFileName named.fileName isBinary.step? isBinary.plain

/-- Two binaries beside modules are one only in one directory and under one name. -/
theorem binaryBeside_same_iff (named : path.HasStem stem) (otherNamed : other.HasStem otherStem)
    (plain : slash ∉ part) (otherPlain : slash ∉ otherPart) :
    (path.binaryBeside part).same (other.binaryBeside otherPart) = true ↔
      path.components.dropLast = other.components.dropLast ∧ otherPart = part := by
  rw [same_iff, binaryBeside, Suffix.sound_binary.components_withFileName named.fileName plain, binaryBeside,
    Suffix.sound_binary.components_withFileName otherNamed.fileName otherPlain, concat_name_inj]

theorem same_iff_stem (named : path.HasStem stem) (otherNamed : other.HasStem otherStem) :
    path.same other = true ↔ path.components.dropLast = other.components.dropLast ∧ otherStem = stem := by
  rw [same_iff, components_of_fileName? named.fileName, components_of_fileName? otherNamed.fileName,
    concat_name_inj, List.dropLast_concat, List.dropLast_concat]

/-- The kind of a binary tells whether its stem is one that was written anew. -/
theorem kind_binaryBeside (named : path.HasStem stem) (plain : slash ∉ part) (wellFormed : Utf8.valid part = true) :
    ArtifactKind.of (path.binaryBeside part) =
      some (if Suffix.out.isSuffixOf part then .generatedBinary else .referenceBinary) := by
  have valid : Utf8.valid (part ++ Suffix.binary) = true := by
    rw [Utf8.valid_append wellFormed, Suffix.valid_binary]
  have ends : Suffix.binary.isSuffixOf (part ++ Suffix.binary) = true :=
    List.isSuffixOf_iff_suffix.mpr (List.suffix_append _ _)
  have anew : Suffix.outBinary.isSuffixOf (part ++ Suffix.binary) = Suffix.out.isSuffixOf part := by
    rw [Bool.eq_iff_iff, List.isSuffixOf_iff_suffix, List.isSuffixOf_iff_suffix, Suffix.outBinary_eq,
      List.suffix_append_self_iff]
  simp only [ArtifactKind.of, named.fileName?_binaryBeside plain, Option.bind_eq_bind, Option.bind_some, valid, anew,
    ends, Bool.not_true, Bool.false_eq_true, if_false, if_true]
  split <;> rfl

end Path.HasStem

namespace Layout

/-- The pairs of a layout by the stems of their modules. -/
inductive Pairs : Layout → Path → Bytes → ArtifactPair → Prop
  | reassembly {path : Path} {base : Bytes} (named : path.HasStem (base ++ Suffix.out)) :
      Pairs .reassembly path (base ++ Suffix.out) ⟨path, some (path.binaryBeside base)⟩
  | selfConsistency {path : Path} {stem : Bytes} (named : path.HasStem stem) (fresh : ¬Suffix.out <:+ stem) :
      Pairs .selfConsistency path stem ⟨path, none⟩

variable {layout otherLayout : Layout} {path other : Path} {stem otherStem : Bytes} {pair otherPair : ArtifactPair}

theorem exists_pairs (rooted : layout.pairRoot? path = some pair) : ∃ stem, layout.Pairs path stem pair := by
  have root : pair.root = path := root_of_pairRoot? rooted
  cases layout with
  | reassembly =>
    obtain ⟨base, named⟩ := exists_hasStem rooted
    have fileName := named.fileName
    have wellFormed := named.wellFormed
    rw [Suffix.outTextual_eq, ← List.append_assoc] at fileName wellFormed
    have whole : pair = ⟨path, some (path.binaryBeside base)⟩ := by
      rw [← root, Path.binaryBeside, ← named.reference]
    rw [root] at fileName
    exact whole ▸ ⟨_, .reassembly ⟨fileName, Utf8.valid_of_append Suffix.ascii_textual wellFormed⟩⟩
  | selfConsistency =>
    obtain ⟨name, last, wellFormed, ⟨stem, rfl⟩, fresh⟩ := isSome_pairRoot?.mp (Option.isSome_of_eq_some rooted)
    rw [Suffix.outTextual_eq, List.suffix_append_self_iff] at fresh
    have whole : pair = ⟨path, none⟩ := by
      simp only [pairRoot?, last] at rooted
      simp_all
    exact whole ▸ ⟨stem, .selfConsistency ⟨last, Utf8.valid_of_append Suffix.ascii_textual wellFormed⟩ fresh⟩

/-- What the binary that a module is assembled to is to other comparisons. -/
def assembledKind : Layout → ArtifactKind
  | .reassembly => .generatedBinary
  | .selfConsistency => .referenceBinary

namespace Pairs

theorem named (pairs : layout.Pairs path stem pair) : path.HasStem stem := by
  cases pairs <;> assumption

theorem kind_assembledPath (pairs : layout.Pairs path stem pair) :
    ArtifactKind.of (assembledPath path) = some layout.assembledKind := by
  have named := pairs.named
  rw [named.assembledPath, named.kind_binaryBeside named.plain named.wellFormed]
  cases pairs with
  | reassembly => rw [if_pos (List.isSuffixOf_iff_suffix.mpr (List.suffix_append _ _)), assembledKind]
  | selfConsistency _ fresh => rw [if_neg (mt List.isSuffixOf_iff_suffix.mp fresh), assembledKind]

/-- A reference has the stem that the module was written anew from. -/
theorem exists_reference (pairs : layout.Pairs path stem pair) {reference : Path}
    (stored : reference ∈ pair.reference) :
    ∃ base, stem = base ++ Suffix.out ∧ Path.slash ∉ base ∧ reference = path.binaryBeside base := by
  cases pairs with
  | reassembly named =>
    have plain := named.plain
    obtain rfl := Option.some.inj stored
    exact ⟨_, rfl, fun slashed => plain (List.mem_append_left _ slashed), rfl⟩
  | selfConsistency => cases stored

end Pairs

/-- Comparisons that start from different modules write different binaries and
share no reference, whatever their layouts are. All of these lie beside the
modules, and no comparison writes over its own reference. -/
theorem comparisons_apart (rooted : layout.pairRoot? path = some pair)
    (otherRooted : otherLayout.pairRoot? other = some otherPair) :
    pair.root = path ∧
      (assembledPath path).parent = path.parent ∧
      (∀ reference ∈ pair.reference, reference.parent = path.parent ∧ (assembledPath path).same reference = false) ∧
      ArtifactKind.of (assembledPath path) = some layout.assembledKind ∧
      ((assembledPath path).same (assembledPath other) = true ↔ path.same other = true) ∧
      ∀ reference ∈ pair.reference, ∀ otherReference ∈ otherPair.reference,
        (reference.same otherReference = true ↔ path.same other = true) := by
  obtain ⟨stem, pairs⟩ := exists_pairs rooted
  obtain ⟨otherStem, otherPairs⟩ := exists_pairs otherRooted
  have named := pairs.named
  have otherNamed := otherPairs.named
  refine ⟨root_of_pairRoot? rooted, ?_, ?_, pairs.kind_assembledPath, ?_, ?_⟩
  · rw [named.assembledPath, named.parent_binaryBeside named.plain]
  · intro reference stored
    obtain ⟨base, longer, plain, rfl⟩ := pairs.exists_reference stored
    refine ⟨named.parent_binaryBeside plain, ?_⟩
    rw [← Bool.not_eq_true, named.assembledPath, named.binaryBeside_same_iff named named.plain plain]
    rintro ⟨-, same⟩
    have length := congrArg List.length (same.trans longer)
    simp [Suffix.out, utf8, String.utf8EncodeChar] at length
  · rw [named.assembledPath, otherNamed.assembledPath,
      named.binaryBeside_same_iff otherNamed named.plain otherNamed.plain, named.same_iff_stem otherNamed]
  · intro reference stored otherReference otherStored
    obtain ⟨base, longer, plain, rfl⟩ := pairs.exists_reference stored
    obtain ⟨otherBase, otherLonger, otherPlain, rfl⟩ := otherPairs.exists_reference otherStored
    rw [named.binaryBeside_same_iff otherNamed plain otherPlain, named.same_iff_stem otherNamed, longer, otherLonger,
      List.append_cancel_right_eq]

/-- A module whose name is nothing but a suffix, under an awkward spelling. -/
def bareModule : Path := .ofString "a/.//.out.ll/"

/-- A module whose name repeats the suffix, in the same directory. -/
def doubledModule : Path := .ofString "a//.out.out.ll"

theorem bareModule_apart : (assembledPath bareModule).parent = .ofString "a" ∧
    (assembledPath bareModule).same (.ofString "a/.bc") = false ∧
    (assembledPath bareModule).same (assembledPath doubledModule) = false := by
  have rooted : reassembly.pairRoot? bareModule = some ⟨bareModule, some (.ofString "a/.bc")⟩ := by decide +kernel
  have otherRooted : reassembly.pairRoot? doubledModule = some ⟨doubledModule, some (.ofString "a/.out.bc")⟩ := by
    decide +kernel
  obtain ⟨-, beside, references, -, binaries, -⟩ := comparisons_apart rooted otherRooted
  refine ⟨beside.trans (by decide), (references _ rfl).2, ?_⟩
  rw [← Bool.not_eq_true, binaries]
  decide

end Layout

end ExitParity
