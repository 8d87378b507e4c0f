import ExitParity.Proofs.Lookup.Preference

namespace ExitParity.Lookup

section

variable {isExecutable : Path → Bool} {name : Bytes} {dirs : List Path} {path : Path}

/-- The first executable file lies in some directory, and there is none in
those before. -/
theorem First.position (first : First isExecutable name dirs path) :
    ∃ (position : ℕ) (dir : Path), dirs[position]? = some dir ∧ path = dir.join ⟨name⟩ ∧
      ∀ earlier < position, ∀ prior : Path, dirs[earlier]? = some prior → isExecutable (prior.join ⟨name⟩) = false := by
  induction first with
  | here executable => exact ⟨0, _, rfl, rfl, nofun⟩
  | later other first ih =>
    obtain ⟨position, dir, there, named, before⟩ := ih
    refine ⟨position + 1, dir, there, named, fun earlier small prior at_ => ?_⟩
    cases earlier with
    | zero =>
      obtain rfl := Option.some.inj at_
      exact other
    | succ earlier => exact before earlier (Nat.lt_of_succ_lt_succ small) prior at_

theorem exists_first {dir : Path} (member : dir ∈ dirs) (executable : isExecutable (dir.join ⟨name⟩) = true) :
    ∃ path, First isExecutable name dirs path := by
  cases first : search isExecutable dirs name with
  | none =>
    rw [search_eq_none.mp first dir member] at executable
    cases executable
  | some path => exact ⟨path, search_eq_some.mp first⟩

end

variable {σ : Type} {around : Surroundings σ} {name : String} {versions : List String} {searchPath : Option Bytes}
  {s : σ} {position : ℕ} {dir : Path}

/-- A directory before this one has the plain program that is met first, and it
tells none of the versions. -/
def IsShadowed (around : Surroundings σ) (name : String) (versions : List String) (searchPath : Option Bytes) (s : σ)
    (position : ℕ) : Prop :=
  ∃ earlier < position, ∃ dir, (directories searchPath)[earlier]? = some dir ∧
    IsPlain around name searchPath s (dir.join ⟨utf8 name⟩) ∧ ¬Tells around versions s (dir.join ⟨utf8 name⟩)

/-- A plain program that tells one of the versions is missed exactly when
another one shadows it and none has a version in its name. -/
theorem missed_iff_shadowed (there : (directories searchPath)[position]? = some dir)
    (executable : around.isExecutable s (dir.join ⟨utf8 name⟩) = true)
    (tells : Tells around versions s (dir.join ⟨utf8 name⟩)) :
    (findProgram around name versions searchPath s).1 = .error (notFound name versions) ↔
      ¬IsSuffixed around name versions searchPath s ∧ IsShadowed around name versions searchPath s position := by
  constructor
  · intro missed
    obtain ⟨-, unsuffixed, silent⟩ := findProgram_eq_error_iff.mp missed
    obtain ⟨path, plain⟩ := exists_first (List.mem_of_getElem? there) executable
    have untold : ¬Tells around versions s path := fun tells => silent ⟨path, plain, tells⟩
    obtain ⟨earlier, other, at_, rfl, before⟩ := plain.position
    refine ⟨unsuffixed, earlier, ?_, other, at_, plain, untold⟩
    -- The program that tells a version is executable, so the first one cannot lie behind it.
    rcases Nat.lt_trichotomy earlier position with small | rfl | after
    · exact small
    · obtain rfl := Option.some.inj (there.symm.trans at_)
      exact absurd tells untold
    · rw [before position after dir there] at executable
      cases executable
  · rintro ⟨unsuffixed, earlier, -, other, -, plain, untold⟩
    refine findProgram_eq_error_iff.mpr ⟨rfl, unsuffixed, ?_⟩
    rintro ⟨path, again, tells⟩
    exact untold (First.unique again plain ▸ tells)

theorem crowdedHost_tells : Tells Host.surroundings ["4.0", "5.0"] crowdedHost (.ofString "/new/lli") :=
  tells_iff.mpr (by decide +kernel)

/-- The interpreter of another version is in the way in one order of the two
directories, and not in the other. -/
theorem crowdedHost_shadowed :
    let found (searchPath : String) :=
      (findProgram Host.surroundings "lli" ["4.0", "5.0"] (some (utf8 searchPath)) crowdedHost).1
    let missing := Except.error (notFound "lli" ["4.0", "5.0"])
    found "/old:/new" = missing ∧ found "/new:/old" ≠ missing := by
  intro found missing
  constructor
  · have plain : IsPlain Host.surroundings "lli" (some (utf8 "/old:/new")) crowdedHost (.ofString "/old/lli") :=
      search_eq_some.mp (by decide)
    have untold : ¬Tells Host.surroundings ["4.0", "5.0"] crowdedHost (.ofString "/old/lli") :=
      mt tells_iff.mp (by decide +kernel)
    have unsuffixed : ¬IsSuffixed Host.surroundings "lli" ["4.0", "5.0"] (some (utf8 "/old:/new")) crowdedHost :=
      findSome?_eq_none_iff.mp (by decide +kernel)
    exact (@missed_iff_shadowed _ Host.surroundings "lli" ["4.0", "5.0"] (some (utf8 "/old:/new")) crowdedHost 1
      (.ofString "/new") (by decide) (by decide) crowdedHost_tells).mpr
        ⟨unsuffixed, 0, by decide, .ofString "/old", by decide, plain, untold⟩
  · intro missed
    obtain ⟨-, earlier, before, -⟩ := (@missed_iff_shadowed _ Host.surroundings "lli" ["4.0", "5.0"]
      (some (utf8 "/new:/old")) crowdedHost 0 (.ofString "/new") (by decide) (by decide) crowdedHost_tells).mp missed
    exact absurd before (Nat.not_lt_zero earlier)

/-- A tool that is there can be missed, although it tells its version. -/
theorem listed_tool_missed :
    ¬∀ (host : Host) (name : String) (versions : List String) (searchPath : Option Bytes),
      (∃ dir ∈ directories searchPath, host.tree.isExecutable (dir.join ⟨utf8 name⟩) = true ∧
        Tells Host.surroundings versions host (dir.join ⟨utf8 name⟩)) →
      (findProgram Host.surroundings name versions searchPath host).1 ≠ .error (notFound name versions) := by
  intro complete
  have found := complete crowdedHost "lli" ["4.0", "5.0"] (some (utf8 "/old:/new"))
    ⟨.ofString "/new", by decide, by decide, crowdedHost_tells⟩
  exact found (by decide +kernel)

end ExitParity.Lookup
