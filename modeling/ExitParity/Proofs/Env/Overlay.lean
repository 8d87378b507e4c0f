import ExitParity.Env
import Mathlib.Data.List.TakeWhile

namespace ExitParity.Env

/-- The value of the last entry of a name. -/
def lastValue? (entries : List (Bytes × Bytes)) (name : Bytes) : Option Bytes :=
  (entries.reverse.find? (·.1 == name)).map (·.2)

theorem lastValue?_append (before after : List (Bytes × Bytes)) (name : Bytes) :
    lastValue? (before ++ after) name = (lastValue? after name).or (lastValue? before name) := by
  rw [lastValue?, List.reverse_append, List.find?_append, Option.map_or, lastValue?, lastValue?]

theorem lastValue?_cons (entry : Bytes × Bytes) (rest : List (Bytes × Bytes)) (name : Bytes) :
    lastValue? (entry :: rest) name = (lastValue? rest name).or (if entry.1 = name then some entry.2 else none) := by
  rw [← List.singleton_append, lastValue?_append]
  by_cases same : entry.1 = name <;> simp [lastValue?, same]

theorem lastValue?_eq_none_iff {entries : List (Bytes × Bytes)} {name : Bytes} :
    lastValue? entries name = none ↔ ∀ entry ∈ entries, entry.1 ≠ name := by
  simp only [lastValue?, Option.map_eq_none_iff, List.find?_eq_none, List.mem_reverse, beq_iff_eq, ne_eq]

theorem mem_of_lastValue? {entries : List (Bytes × Bytes)} {name value : Bytes}
    (found : lastValue? entries name = some value) : (name, value) ∈ entries := by
  obtain ⟨entry, last, rfl⟩ := Option.map_eq_some_iff.mp found
  have named := List.find?_some last
  simp only [beq_iff_eq] at named
  subst named
  exact List.mem_reverse.mp (List.mem_of_find?_eq_some last)

theorem lastValue?_of_nodup {entries : List (Bytes × Bytes)} (distinct : (entries.map Prod.fst).Nodup)
    {name value : Bytes} (member : (name, value) ∈ entries) : lastValue? entries name = some value := by
  induction entries with
  | nil => cases member
  | cons entry rest ih =>
    rw [List.map_cons, List.nodup_cons] at distinct
    rw [lastValue?_cons]
    rcases List.mem_cons.mp member with rfl | later
    · have alone : lastValue? rest name = none := by
        refine lastValue?_eq_none_iff.mpr fun other inside same => ?_
        have listed : other.1 ∈ rest.map Prod.fst := List.mem_map_of_mem inside
        exact distinct.1 (same ▸ listed)
      rw [alone, if_pos rfl, Option.none_or]
    · rw [ih distinct.2 later, Option.some_or]

/-- Of each name the last entry remains. -/
theorem mem_lastEntries_iff {entries : List (Bytes × Bytes)} {name value : Bytes} :
    (name, value) ∈ lastEntries entries ↔ lastValue? entries name = some value := by
  induction entries with
  | nil => exact ⟨nofun, nofun⟩
  | cons entry rest ih =>
    rw [lastEntries, lastValue?_cons]
    by_cases again : rest.any (·.1 == entry.1) = true
    · rw [if_pos again, ih]
      by_cases same : entry.1 = name
      · obtain ⟨other, member, named⟩ := List.any_eq_true.mp again
        have there : lastValue? rest name ≠ none := fun absent =>
          lastValue?_eq_none_iff.mp absent other member ((beq_iff_eq.mp named).trans same)
        obtain ⟨last, found⟩ := Option.ne_none_iff_exists'.mp there
        rw [found, Option.some_or]
      · rw [if_neg same, Option.or_none]
    · have alone : ∀ other ∈ rest, other.1 ≠ entry.1 := fun other member named =>
        again (List.any_eq_true.mpr ⟨other, member, beq_iff_eq.mpr named⟩)
      rw [if_neg again, List.mem_cons, ih]
      by_cases same : entry.1 = name
      · subst same
        rw [lastValue?_eq_none_iff.mpr alone, if_pos rfl, Option.none_or, Option.some_inj]
        constructor
        · rintro (own | none_)
          · exact (congrArg Prod.snd own).symm
          · cases none_
        · rintro rfl
          exact .inl rfl
      · have other : (name, value) ≠ entry := fun own => same (congrArg Prod.fst own).symm
        rw [if_neg same, Option.or_none]
        exact or_iff_right other

/-- Entries put one after another leave a variable with the value on which all
of them agree that stand for it. -/
theorem get?_foldl_put {entries : List (Bytes × Bytes)} {env : Env} {name : Bytes} {value : Option Bytes}
    (agree : ∀ entry ∈ entries, (effect entry).1 = name → some (effect entry).2 = value)
    (there : env.get? name = value ∨ ∃ entry ∈ entries, (effect entry).1 = name) :
    (entries.foldl (fun env entry => env.put (effect entry).1 (some (effect entry).2)) env).get? name = value := by
  induction entries generalizing env with
  | nil =>
    rcases there with here | ⟨_, member, _⟩
    · exact here
    · cases member
  | cons entry rest ih =>
    obtain ⟨here, later⟩ := List.forall_mem_cons.mp agree
    rw [List.foldl_cons]
    by_cases own : (effect entry).1 = name
    · refine ih later (.inl ?_)
      rw [get?_put, if_pos own.symm, here own]
    · refine ih later ?_
      rcases there with held | ⟨other, member, same⟩
      · exact .inl (by rw [get?_put, if_neg (Ne.symm own), held])
      · rcases List.mem_cons.mp member with rfl | further
        · exact absurd same own
        · exact .inr ⟨other, further, same⟩

/-- A name without `=` is the variable that an entry of this name stands for. -/
theorem effect_of_not_mem {name value : Bytes} (plain : 0x3d ∉ name) : effect (name, value) = (name, value) := by
  have all : ∀ byte ∈ name, (byte != 0x3d) = true := by
    intro byte member
    rw [bne_iff_ne]
    rintro rfl
    exact plain member
  have none_ : (0x3d :: value).dropWhile (· != 0x3d) = 0x3d :: value := rfl
  simp only [effect, List.takeWhile_eq_self_iff.mpr all, List.dropWhile_append_of_pos all, none_, List.drop_succ_cons,
    List.drop_zero]

/-- No entry under another name is taken for the variable. -/
def Undisguised (name : Bytes) (entries : List (Bytes × Bytes)) : Prop :=
  ∀ entry ∈ entries, (effect entry).1 = name → entry.1 = name

theorem Undisguised.append {name : Bytes} {entries others : List (Bytes × Bytes)} (undisguised : Undisguised name entries)
    (otherUndisguised : Undisguised name others) : Undisguised name (entries ++ others) := by
  intro entry member stands
  rcases List.mem_append.mp member with early | late
  · exact undisguised entry early stands
  · exact otherUndisguised entry late stands

/-- A child sees the last entry of a variable, or else what is inherited. -/
theorem get?_overlay {env : Env} {entries : List (Bytes × Bytes)} {name : Bytes} (plain : 0x3d ∉ name)
    (undisguised : Undisguised name entries) :
    (env.overlay entries).get? name = (lastValue? entries name).or (env.get? name) := by
  have own (value : Bytes) : effect (name, value) = (name, value) := effect_of_not_mem plain
  have agree : ∀ entry ∈ (lastEntries entries).mergeSort fun x y => Bytes.precedes x.1 y.1, (effect entry).1 = name →
      some (effect entry).2 = (lastValue? entries name).or (env.get? name) := by
    rintro ⟨other, value⟩ member stands
    have last : lastValue? entries other = some value := mem_lastEntries_iff.mp (List.mem_mergeSort.mp member)
    have named : other = name := undisguised _ (mem_of_lastValue? last) stands
    subst named
    rw [own, last, Option.some_or]
  refine get?_foldl_put agree ?_
  cases last : lastValue? entries name with
  | none => exact .inl rfl
  | some value =>
    exact .inr ⟨(name, value), List.mem_mergeSort.mpr (mem_lastEntries_iff.mpr last), by rw [own]⟩

theorem mem_entries {env : Env} {names : List Bytes} {name value : Bytes} :
    (name, value) ∈ env.entries names ↔ name ∈ names ∧ env.get? name = some value := by
  simp only [entries, List.mem_filterMap, List.mem_eraseDups, Option.map_eq_some_iff, Prod.mk.injEq]
  constructor
  · rintro ⟨_, listed, _, held, rfl, rfl⟩
    exact ⟨listed, held⟩
  · rintro ⟨listed, held⟩
    exact ⟨name, listed, value, held, rfl, rfl⟩

end ExitParity.Env
