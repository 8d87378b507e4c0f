import ExitParity.Proofs.Naming.Siblings

namespace ExitParity.Path

variable {path : Path} {name : Bytes}

/-- A path ends in a name when one of its segments is the name and no segment
after that one is a step. -/
theorem fileName?_eq_some_iff : path.fileName? = some name ↔
    ∃ front after, Bytes.split slash path.bytes = front ++ name :: after ∧ step? name = some (.name name) ∧
      ∀ segment ∈ after, idle segment = true := by
  constructor
  · intro last
    obtain ⟨anchor, before, after, named⟩ := exists_named last
    refine ⟨anchor ++ before, after, ?_, named.step, named.idles⟩
    rw [named.written, List.append_assoc]
    exact Bytes.split_joinWith (by simp) named.plain
  · rintro ⟨front, after, cut, step, idles⟩
    obtain ⟨anchor, body, begins, plain, written⟩ := exists_begins path
    have some_ : anchor ++ body ≠ [] := by cases begins <;> simp
    have parts : anchor ++ body = front ++ name :: after := by
      rw [← cut, written]
      exact (Bytes.split_joinWith some_ plain).symm
    -- Neither of the segments that a path may begin with is a name.
    obtain ⟨before, inner⟩ : ∃ before, body = before ++ name :: after := by
      rcases List.append_eq_append_iff.mp parts with ⟨before, -, inner⟩ | ⟨rest, early, late⟩
      · exact ⟨before, inner⟩
      · cases rest with
        | nil => exact ⟨[], late.symm⟩
        | cons segment rest =>
          obtain ⟨rfl, -⟩ := List.cons.inj late
          cases begins with
          | root => cases front <;> simp_all [step?, idle]
          | here => cases front <;> simp_all [step?, idle]
          | free => simp at early
    subst inner
    exact Named.fileName? ⟨begins, plain, written, step, idles⟩

theorem empty_join (other : Path) : (⟨[]⟩ : Path).join other = other := by
  unfold join
  split <;> rfl

/-- A path put below another one stays as it is, or stands behind a separator. -/
theorem join_cases (path other : Path) :
    path.join other = other ∨ ∃ front, path.join other = ⟨front ++ slash :: other.bytes⟩ := by
  unfold join
  split
  · exact .inl rfl
  · cases ends : path.bytes.getLast? with
    | none => exact .inl rfl
    | some last =>
      dsimp only
      split
      · next slashed =>
        obtain ⟨front, written⟩ := List.getLast?_eq_some_iff.mp ends
        refine .inr ⟨front, ?_⟩
        rw [written, beq_iff_eq.mp slashed, List.append_assoc, List.singleton_append]
      · exact .inr ⟨path.bytes, rfl⟩

/-- What is put below a path keeps its file name. -/
theorem fileName?_join (path : Path) {other : Path} (last : other.fileName? = some name) :
    (path.join other).fileName? = some name := by
  rcases join_cases path other with same | ⟨outer, written⟩
  · rw [same, last]
  · obtain ⟨front, after, cut, step, idles⟩ := fileName?_eq_some_iff.mp last
    refine fileName?_eq_some_iff.mpr ⟨Bytes.split slash outer ++ front, after, ?_, step, idles⟩
    rw [written, Bytes.split_cut, cut, List.append_assoc]

theorem fileName?_of_step? (free : slash ∉ name) (step : step? name = some (.name name)) :
    (⟨name⟩ : Path).fileName? = some name :=
  fileName?_eq_some_iff.mpr ⟨[], [], Bytes.split_of_not_mem free, step, List.forall_mem_nil _⟩

end ExitParity.Path
