import ExitParity.Proofs.Naming.Overlap

namespace ExitParity

namespace Suffix

/-- A file name that ends in the suffix of a binary. -/
structure IsBinary (name : Bytes) : Prop where
  ends : binary <:+ name
  plain : Path.slash ∉ name

/-- The binary of a stem, which holds no separator. -/
theorem isBinary_of_plain {stem : Bytes} (plain : Path.slash ∉ stem) : IsBinary (stem ++ binary) where
  ends := List.suffix_append _ _
  plain slashed := by
    rcases List.mem_append.mp slashed with early | late
    · exact plain early
    · exact sound_binary.plain late

theorem IsBinary.step? {name : Bytes} (isBinary : IsBinary name) : Path.step? name = some (.name name) :=
  Path.step?_of_length (Nat.lt_of_lt_of_le (by decide : 2 < binary.length) isBinary.ends.length_le)

/-- No name ends in the suffix of a binary and in that of a module. -/
theorem not_textual {name : Bytes} (ends : binary <:+ name) : ¬textual <:+ name := by
  intro other
  have same : binary = textual := (List.suffix_of_suffix_length_le ends other (by decide)).eq_of_length (by decide)
  exact absurd same (by decide)

theorem textual_of_outTextual {name : Bytes} (ends : outTextual <:+ name) : textual <:+ name :=
  (List.suffix_append out textual).trans (outTextual_eq ▸ ends)

theorem binary_of_outBinary {name : Bytes} (ends : outBinary <:+ name) : binary <:+ name :=
  (List.suffix_append out binary).trans (show out ++ binary <:+ name from ends)

end Suffix

namespace Layout

variable {path : Path} {layout : Layout} {pair : ArtifactPair}

theorem root_of_pairRoot? (rooted : layout.pairRoot? path = some pair) : pair.root = path := by
  simp only [pairRoot?] at rooted
  obtain ⟨name, -, rooted⟩ := Option.bind_eq_some_iff.mp rooted
  split at rooted
  · cases rooted
  · cases layout with
    | reassembly =>
      obtain ⟨stem, -, made⟩ := Option.bind_eq_some_iff.mp rooted
      exact Option.some.inj made ▸ rfl
    | selfConsistency =>
      simp only at rooted
      split at rooted
      · cases rooted
      · split at rooted
        · exact Option.some.inj rooted ▸ rfl
        · cases rooted

/-- Which names a layout takes for a root. -/
def Takes (layout : Layout) (name : Bytes) : Prop :=
  match layout with
  | .reassembly => Suffix.outTextual <:+ name
  | .selfConsistency => Suffix.textual <:+ name ∧ ¬Suffix.outTextual <:+ name

theorem isSome_pairRoot? : (layout.pairRoot? path).isSome = true ↔
    ∃ name, path.fileName? = some name ∧ Utf8.valid name = true ∧ layout.Takes name := by
  cases last : path.fileName? with
  | none => simp [pairRoot?, last]
  | some name =>
    cases wellFormed : Utf8.valid name with
    | false => simp [pairRoot?, last, wellFormed]
    | true =>
      cases layout with
      | reassembly =>
        by_cases ends : Suffix.outTextual <:+ name <;>
          simp [pairRoot?, last, wellFormed, Takes, Bytes.stripSuffix?, List.isSuffixOf_iff_suffix, ends]
      | selfConsistency =>
        by_cases ends : Suffix.outTextual <:+ name <;> by_cases textual : Suffix.textual <:+ name <;>
          simp [pairRoot?, last, wellFormed, Takes, List.isSuffixOf_iff_suffix, ends, textual]

end Layout

theorem ArtifactKind.of_eq_generatedTextual {path : Path} : of path = some .generatedTextual ↔
    ∃ name, path.fileName? = some name ∧ Utf8.valid name = true ∧ Suffix.textual <:+ name := by
  cases last : path.fileName? with
  | none => simp [of, last]
  | some name =>
    cases wellFormed : Utf8.valid name with
    | false => simp [of, last, wellFormed]
    | true =>
      by_cases ends : Suffix.textual <:+ name
      · have other : ¬Suffix.binary <:+ name := fun binary => Suffix.not_textual binary ends
        have unlike : ¬Suffix.outBinary <:+ name := fun out => other (Suffix.binary_of_outBinary out)
        simp [of, last, wellFormed, List.isSuffixOf_iff_suffix, ends, other, unlike]
      · by_cases binary : Suffix.binary <:+ name <;> by_cases out : Suffix.outBinary <:+ name <;>
          simp [of, last, wellFormed, List.isSuffixOf_iff_suffix, ends, binary, out]

namespace Layout

variable {path : Path}

/-- The two layouts share the modules among them. -/
theorem exists_pairRoot?_iff : (∃ layout : Layout, (layout.pairRoot? path).isSome = true) ↔
    ArtifactKind.of path = some .generatedTextual := by
  simp only [isSome_pairRoot?, ArtifactKind.of_eq_generatedTextual]
  constructor
  · rintro ⟨layout, name, last, wellFormed, takes⟩
    refine ⟨name, last, wellFormed, ?_⟩
    cases layout with
    | reassembly => exact Suffix.textual_of_outTextual takes
    | selfConsistency => exact takes.1
  · rintro ⟨name, last, wellFormed, ends⟩
    by_cases out : Suffix.outTextual <:+ name
    · exact ⟨.reassembly, name, last, wellFormed, out⟩
    · exact ⟨.selfConsistency, name, last, wellFormed, ends, out⟩

theorem eq_of_pairRoot? {layout other : Layout} (rooted : (layout.pairRoot? path).isSome = true)
    (too : (other.pairRoot? path).isSome = true) : layout = other := by
  obtain ⟨name, last, -, takes⟩ := isSome_pairRoot?.mp rooted
  obtain ⟨name', last', -, takes'⟩ := isSome_pairRoot?.mp too
  obtain rfl := Option.some.inj (last.symm.trans last')
  cases layout <;> cases other
  · rfl
  · exact absurd takes takes'.2
  · exact absurd takes' takes.2
  · rfl

/-- A binary is the root of no pair. -/
theorem pairRoot?_of_isBinary {name : Bytes} (layout : Layout) (last : path.fileName? = some name)
    (isBinary : Suffix.IsBinary name) : layout.pairRoot? path = none := by
  rw [← Option.not_isSome_iff_eq_none]
  intro rooted
  obtain ⟨name', last', -, ends⟩ := ArtifactKind.of_eq_generatedTextual.mp (exists_pairRoot?_iff.mp ⟨layout, rooted⟩)
  obtain rfl := Option.some.inj (last.symm.trans last')
  exact Suffix.not_textual isBinary.ends ends

end Layout

/-- What a module is assembled to lies beside it, under the name of a binary. -/
theorem assembledPath_eq {path : Path} {name : Bytes} (last : path.fileName? = some name)
    (wellFormed : Utf8.valid name = true) (ends : Suffix.textual <:+ name) :
    ∃ binary, Suffix.IsBinary binary ∧ assembledPath path = path.withFileName binary := by
  obtain ⟨stem, rfl⟩ := ends
  have plain : Path.slash ∉ stem := fun slashed => Path.not_mem_of_fileName? last (List.mem_append_left _ slashed)
  refine ⟨stem ++ Suffix.binary, Suffix.isBinary_of_plain plain, ?_⟩
  simp only [assembledPath, last, Option.getD_some, Utf8.lossy_of_valid wellFormed, Bytes.stripSuffix?_append]

end ExitParity
