import ExitParity.Report.Decode
import Mathlib.Data.List.Forall2

namespace ExitParity.Json

section Values

variable {key : String} {members others : Members} {value : Json}

theorem valuesOf_append (key : String) (members others : Members) :
    valuesOf key (members ++ others) = valuesOf key members ++ valuesOf key others := by
  simp only [valuesOf, List.filter_append, List.map_append]

theorem valuesOf_cons_self (key : String) (value : Json) (members : Members) :
    valuesOf key ((some key, value) :: members) = value :: valuesOf key members := by
  simp [valuesOf]

theorem valuesOf_cons_of_ne {name : Option String} (other : name ≠ some key) (value : Json) (members : Members) :
    valuesOf key ((name, value) :: members) = valuesOf key members := by
  simp [valuesOf, other]

theorem valuesOf_perm (perm : members.Perm others) : (valuesOf key members).Perm (valuesOf key others) :=
  (perm.filter _).map _

theorem mem_valuesOf : value ∈ valuesOf key members ↔ (some key, value) ∈ members := by
  simp [valuesOf]

/-- Members of another name are not looked for. -/
theorem valuesOf_filter {name : String} (other : name ≠ key) (members : Members) :
    valuesOf key (members.filter fun member => member.1 != some name) = valuesOf key members := by
  unfold valuesOf
  rw [List.filter_filter]
  refine congrArg _ (List.filter_congr fun member _ => ?_)
  by_cases same : member.1 = some key
  · simp [same, Ne.symm other]
  · simp [same]

theorem required?_eq_some_iff : required? key members = some value ↔ valuesOf key members = [value] := by
  unfold required?
  split
  · next single => rw [single, Option.some_inj, List.singleton_inj]
  · next several => exact ⟨nofun, fun same => absurd same (several value)⟩

theorem eq_of_required? {found : Json} (single : required? key members = some found)
    (member : (some key, value) ∈ members) : value = found := by
  rw [← mem_valuesOf, required?_eq_some_iff.mp single] at member
  exact List.mem_singleton.mp member

theorem required?_congr (same : ∀ value, valuesOf key members = [value] ↔ valuesOf key others = [value]) :
    required? key members = required? key others :=
  Option.ext fun value => by rw [required?_eq_some_iff, required?_eq_some_iff, same]

theorem required?_filter {name : String} (other : name ≠ key) (members : Members) :
    required? key (members.filter fun member => member.1 != some name) = required? key members := by
  rw [required?, valuesOf_filter other, required?]

/-- What may be missing is there once or not at all. -/
theorem optional?_eq (key : String) (members : Members) :
    optional? key members = if valuesOf key members = [] then some none else (required? key members).map some := by
  unfold optional? required?
  split
  · next none_ => rw [if_pos none_]
  · next single => rw [single, if_neg (List.cons_ne_nil _ _), Option.map_some]
  · next none_ several =>
    rw [if_neg none_]
    split
    · next single => exact absurd single (several _)
    · rfl

theorem length_of_required? (found : required? key members = some value) : (valuesOf key members).length = 1 := by
  rw [required?_eq_some_iff.mp found, List.length_singleton]

theorem length_of_optional? {found : Option Json} (some_ : optional? key members = some found) :
    (valuesOf key members).length ≤ 1 := by
  rw [optional?_eq] at some_
  split at some_
  · next none_ => simp [none_]
  · obtain ⟨value, single, -⟩ := Option.map_eq_some_iff.mp some_
    exact Nat.le_of_eq (length_of_required? single)

end Values

/-- The members of an object that were put in another order, got one more, or
have another value for one of them. -/
inductive Alter (fresh : Option String × Json → Prop) (same : Option String → Json → Json → Prop) :
    Members → Members → Prop
  | reorder {members others : Members} (perm : members.Perm others) : Alter fresh same members others
  | insert {before after : Members} {member : Option String × Json} (new : fresh member) :
      Alter fresh same (before ++ after) (before ++ member :: after)
  | replace {before after : Members} {key : Option String} {value other : Json} (related : same key value other) :
      Alter fresh same (before ++ (key, value) :: after) (before ++ (key, other) :: after)

namespace Alter

variable {fresh : Option String × Json → Prop} {same : Option String → Json → Json → Prop} {members others : Members}

/-- A test of every member comes to the same when it lets new members pass and
does not tell related values apart. -/
theorem all (alter : Alter fresh same members others) {test : Option String × Json → Bool}
    (passes : ∀ member, fresh member → test member = true)
    (related : ∀ key value other, same key value other → test (key, value) = test (key, other)) :
    members.all test = others.all test := by
  cases alter with
  | reorder perm => exact perm.all_eq
  | insert new => simp [passes _ new]
  | replace same => simp [related _ _ _ same]

variable {key : String} {α : Type} {read : Json → Option α}

/-- There is a value where there was one, and new members do not count. -/
theorem valuesOf_eq_nil (alter : Alter fresh same members others)
    (other : ∀ member, fresh member → member.1 ≠ some key) : valuesOf key members = [] ↔ valuesOf key others = [] := by
  cases alter with
  | reorder perm =>
    have alike := @valuesOf_perm key _ _ perm
    exact ⟨fun none_ => (none_ ▸ alike).symm.eq_nil, fun none_ => (none_ ▸ alike).eq_nil⟩
  | @insert before after member new =>
    rw [valuesOf_append, valuesOf_append, valuesOf_cons_of_ne (other member new)]
  | @replace before after name value other =>
    by_cases named : name = some key
    · subst named
      simp [valuesOf_append, valuesOf_cons_self]
    · simp [valuesOf_append, valuesOf_cons_of_ne named]

/-- A member that has to be there is read as before. -/
theorem bind_required? (alter : Alter fresh same members others) (other : ∀ member, fresh member → member.1 ≠ some key)
    (reads : ∀ value other, same (some key) value other → read value = read other) :
    (required? key members).bind read = (required? key others).bind read := by
  cases alter with
  | reorder perm =>
    have each (value : Json) : valuesOf key members = [value] ↔ valuesOf key others = [value] := by
      have alike := @valuesOf_perm key _ _ perm
      exact ⟨fun single => (single ▸ alike).symm.eq_singleton, fun single => (single ▸ alike).eq_singleton⟩
    rw [required?_congr each]
  | @insert before after member new =>
    rw [required?, required?, valuesOf_append, valuesOf_append, valuesOf_cons_of_ne (other member new)]
  | @replace before after name value edited related =>
    by_cases named : name = some key
    · subst named
      simp only [required?, valuesOf_append, valuesOf_cons_self]
      rcases valuesOf key before with _ | ⟨_, _ | _⟩ <;> rcases valuesOf key after with _ | _ <;>
        simp [reads _ _ related]
    · rw [required?, required?, valuesOf_append, valuesOf_append, valuesOf_cons_of_ne named, valuesOf_cons_of_ne named]

/-- A member that may be missing is read as before. -/
theorem bind_optional? (alter : Alter fresh same members others) (other : ∀ member, fresh member → member.1 ≠ some key)
    (reads : ∀ value other, same (some key) value other → read value = read other) (missing : Option α) :
    (optional? key members).bind (fun found => found.elim missing read) =
      (optional? key others).bind fun found => found.elim missing read := by
  rw [optional?_eq, optional?_eq]
  by_cases none_ : valuesOf key members = []
  · rw [if_pos none_, if_pos ((alter.valuesOf_eq_nil other).mp none_)]
  · rw [if_neg none_, if_neg (mt (alter.valuesOf_eq_nil other).mpr none_), Option.bind_map, Option.bind_map]
    exact alter.bind_required? other reads

end Alter

theorem holdableItems_eq_all (depth : Nat) (items : List Json) :
    holdableItems depth items = items.all (holdable depth) := by
  induction items with
  | nil => rw [holdableItems, List.all_nil]
  | cons item items ih => rw [holdableItems, ih, List.all_cons]

theorem holdableMembers_eq_all (depth : Nat) (members : Members) :
    holdableMembers depth members = members.all fun member => member.1.isSome && holdable depth member.2 := by
  induction members with
  | nil => rw [holdableMembers, List.all_nil]
  | cons member members ih =>
    obtain ⟨key, value⟩ := member
    rw [holdableMembers, ih, List.all_cons]

end ExitParity.Json
