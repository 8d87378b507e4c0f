import ExitParity.Proofs.Report.Edits
import ExitParity.Proofs.Report.Reading
import Mathlib.Logic.Relation

namespace ExitParity

open Json Relation

namespace Json

/-- The names that no more than one member may have. -/
def Form.once : Form → List String
  | .verdict => ["verdict"]
  | .entry => ["verdict", "report"]
  | form => form.fields

/-- One change to a text that makes it unreadable: a member is there once more,
or it is left out. -/
inductive Spoil : Form → Json → Json → Prop
  | doubled {form : Form} {before after : Members} {key : String} {value : Json} (once : key ∈ form.once)
      (present : valuesOf key (before ++ after) ≠ []) :
      Spoil form (.object (before ++ after)) (.object (before ++ (some key, value) :: after))
  | missing {form : Form} {before after : Members} {key : String} {value : Json} (once : key ∈ form.once)
      (needed : key ≠ "prepare_failure") :
      Spoil form (.object (before ++ (some key, value) :: after)) (.object (before ++ after))
  | member {form : Form} {before after : Members} {key : Option String} {value spoiled : Json}
      (inside : Spoil (form.member key) value spoiled) :
      Spoil form (.object (before ++ (key, value) :: after)) (.object (before ++ (key, spoiled) :: after))
  | item {form : Form} {before after : List Json} {value spoiled : Json}
      (inside : Spoil (form.item before.length) value spoiled) :
      Spoil form (.array (before ++ value :: after)) (.array (before ++ spoiled :: after))

/-- The values that can be read for a form. Anything will do where no reader
looks closer. -/
def Form.Accepts : Form → Json → Prop
  | .verdict, json => (Verdict.ofJson? json).isSome = true
  | .report, json => (Report.ofJson? json).isSome = true
  | .entry, json => (Report.entryOfJson? json).isSome = true
  | .suites, json => (RunSummary.suitesOfJson? json).isSome = true
  | .summary, json => (RunSummary.ofJson? json).isSome = true
  | .other, _ => True

/-- A name is there once, or else it is the one that may be missing. -/
def Settled (key : String) (members : Members) : Prop :=
  (valuesOf key members).length ≤ 1 ∧ (key ≠ "prepare_failure" → valuesOf key members ≠ [])

theorem settled_of_required? {key : String} {members : Members} {value : Json}
    (single : required? key members = some value) : Settled key members := by
  rw [required?_eq_some_iff] at single
  rw [Settled, single]
  exact ⟨Nat.le_refl _, fun _ => List.cons_ne_nil _ _⟩

theorem settled_of_optional? {members : Members} {found : Option Json}
    (some_ : optional? "prepare_failure" members = some found) : Settled "prepare_failure" members :=
  ⟨length_of_optional? some_, fun other => absurd rfl other⟩

namespace Form.Accepts

variable {form : Form} {members : Members}

theorem verdict (accepts : Form.verdict.Accepts (.object members)) : Settled "verdict" members := by
  obtain ⟨verdict, read⟩ := Option.isSome_iff_exists.mp accepts
  simp only [Verdict.ofJson?_object, Option.bind_eq_some_iff] at read
  obtain ⟨_, ⟨_, tag, -⟩, -⟩ := read
  exact settled_of_required? tag

theorem report (accepts : Form.report.Accepts (.object members)) : ∀ key ∈ Form.report.fields, Settled key members := by
  obtain ⟨report, read⟩ := Option.isSome_iff_exists.mp accepts
  rw [Report.ofJson?_object] at read
  split at read
  · simp only [Option.bind_eq_bind, Option.bind_eq_some_iff] at read
    obtain ⟨_, ⟨_, suite, -⟩, _, ⟨_, passed, -⟩, _, ⟨_, failed, -⟩, _, ⟨_, failedReference, -⟩, _, ⟨_, wrong, -⟩,
      _, ⟨_, prepareFailure, -⟩, _, ⟨_, interrupted, -⟩, -⟩ := read
    simp only [fields, List.forall_mem_cons, List.not_mem_nil]
    exact ⟨settled_of_required? suite, settled_of_required? passed, settled_of_required? failed,
      settled_of_required? failedReference, settled_of_required? wrong, settled_of_optional? prepareFailure,
      settled_of_required? interrupted, nofun⟩
  · cases read

/-- A suite entry that can be read has one tag, and one report that can be read. -/
theorem entry (accepts : Form.entry.Accepts (.object members)) : Settled "verdict" members ∧
    ∃ report, required? "report" members = some report ∧ Form.report.Accepts report := by
  obtain ⟨entry, read⟩ := Option.isSome_iff_exists.mp accepts
  rw [Report.entryOfJson?_object] at read
  split at read
  · simp only [Option.bind_eq_bind, Option.bind_eq_some_iff] at read
    obtain ⟨_, ⟨report, single, told⟩, read⟩ := read
    split at read
    · simp only [Option.bind_eq_some_iff] at read
      obtain ⟨_, ⟨_, tag, -⟩, -⟩ := read
      exact ⟨settled_of_required? tag, report, single, Option.isSome_of_eq_some told⟩
    · cases read
  · cases read

theorem summary (accepts : Form.summary.Accepts (.object members)) : Settled "success" members ∧
    ∃ suites, required? "suites" members = some suites ∧ Form.suites.Accepts suites := by
  obtain ⟨summary, read⟩ := Option.isSome_iff_exists.mp accepts
  rw [RunSummary.ofJson?_object] at read
  split at read
  · simp only [Option.bind_eq_bind, Option.bind_eq_some_iff] at read
    obtain ⟨_, ⟨_, success, -⟩, _, ⟨suites, single, told⟩, -⟩ := read
    exact ⟨settled_of_required? success, suites, single, Option.isSome_of_eq_some told⟩
  · cases read

/-- What can be read has every name once that is needed once. -/
theorem settled {key : String} (accepts : form.Accepts (.object members)) (once : key ∈ form.once) :
    Settled key members := by
  cases form with
  | verdict =>
    obtain rfl := List.mem_singleton.mp once
    exact accepts.verdict
  | report => exact accepts.report key once
  | entry =>
    obtain ⟨tag, report, single, -⟩ := accepts.entry
    rcases List.mem_pair.mp once with rfl | rfl
    · exact tag
    · exact settled_of_required? single
  | summary =>
    obtain ⟨success, suites, single, -⟩ := accepts.summary
    rcases List.mem_pair.mp once with rfl | rfl
    · exact success
    · exact settled_of_required? single
  | suites | other => cases once

/-- What lies inside of what can be read can be read. -/
theorem member {before after : Members} {key : Option String} {value : Json}
    (accepts : form.Accepts (.object (before ++ (key, value) :: after))) : (form.member key).Accepts value := by
  unfold Form.member
  split
  · obtain ⟨-, report, single, reads⟩ := accepts.entry
    exact eq_of_required? single (List.mem_append_right before List.mem_cons_self) ▸ reads
  · obtain ⟨-, suites, single, reads⟩ := accepts.summary
    exact eq_of_required? single (List.mem_append_right before List.mem_cons_self) ▸ reads
  · trivial

theorem item {before after : List Json} {value : Json} (accepts : form.Accepts (.array (before ++ value :: after))) :
    (form.item before.length).Accepts value := by
  unfold Form.item
  split
  · have each := accepts
    simp only [Accepts, RunSummary.suitesOfJson?, isSome_mapM, List.all_append, List.all_cons, Bool.and_eq_true] at each
    exact each.2.1
  · next index =>
    obtain ⟨success, rfl⟩ := List.length_eq_one_iff.mp index
    obtain ⟨summary, read⟩ := Option.isSome_iff_exists.mp accepts
    cases after with
    | cons => cases read
    | nil =>
      simp only [List.singleton_append, RunSummary.ofJson?, Option.bind_eq_bind, Option.bind_eq_some_iff] at read
      obtain ⟨_, -, _, suites, -⟩ := read
      exact Option.isSome_of_eq_some suites
  · trivial

end Form.Accepts

/-- What can be read cannot be read once it is spoiled. -/
theorem Spoil.rejected {form : Form} {json spoiled : Json} (spoil : Spoil form json spoiled) :
    form.Accepts json → ¬form.Accepts spoiled := by
  -- Where nothing in particular is read both would be accepted, but no spoiling ends there.
  induction spoil with
  | @doubled form before after key value once present =>
    intro _ accepts
    have settled := (accepts.settled once).1
    rw [valuesOf_append, valuesOf_cons_self] at settled
    rw [valuesOf_append] at present
    have some_ := List.length_pos_iff.mpr present
    simp only [List.length_append, List.length_cons] at settled some_
    omega
  | @missing form before after key value once needed =>
    intro accepts rest
    have settled := (accepts.settled once).1
    rw [valuesOf_append, valuesOf_cons_self] at settled
    have still := (rest.settled once).2 needed
    rw [valuesOf_append] at still
    have some_ := List.length_pos_iff.mpr still
    simp only [List.length_append, List.length_cons] at settled some_
    omega
  | member _ ih => exact fun accepts spoiled => ih accepts.member spoiled.member
  | item _ ih => exact fun accepts spoiled => ih accepts.item spoiled.item

end Json

/-- A reader of texts that takes no notice of the order of members nor of those
that it does not know, and that insists on every member it needs, once. -/
structure Lenient {α : Type} (form : Form) (read : Json → Option α) : Prop where
  edited : ∀ {text other : String} {json edited : Json}, Json.parse? text = some json →
    Json.parse? other = some edited → ReflTransGen (Edit form) json edited →
    (Json.parse? other).bind read = (Json.parse? text).bind read
  spoiled : ∀ {text other : String} {json spoiled : Json}, Json.parse? text = some json →
    Json.parse? other = some spoiled → Spoil form json spoiled → ((Json.parse? text).bind read).isSome = true →
    (Json.parse? other).bind read = none

theorem lenient_of_same {α : Type} {form : Form} {read : Json → Option α}
    (same : ∀ {json other}, form.Same json other → read json = read other)
    (accepts : ∀ {json}, form.Accepts json ↔ (read json).isSome = true) : Lenient form read where
  edited {text other json edited} parsed parsedOther edits := by
    rw [parsed, parsedOther, Option.bind_some, Option.bind_some]
    clear parsed parsedOther
    induction edits with
    | refl => rfl
    | tail _ edit ih => exact (same edit.same).symm.trans ih
  spoiled {text other json spoiled} parsed parsedOther spoil told := by
    rw [parsed, Option.bind_some] at told
    rw [parsedOther, Option.bind_some, ← Option.not_isSome_iff_eq_none]
    exact fun read => spoil.rejected (accepts.mpr told) (accepts.mpr read)

/-- The order of members means nothing, and neither do members of other names,
unless half of a surrogate pair is in a name or in a string that has to be held
for a verdict. What is needed once cannot be missing or be there twice. -/
theorem readers_lenient :
    Lenient .verdict Verdict.ofJson? ∧ Lenient .report Report.ofJson? ∧ Lenient .summary RunSummary.ofJson? :=
  ⟨lenient_of_same id Iff.rfl, lenient_of_same id Iff.rfl, lenient_of_same id Iff.rfl⟩

/-- The members of a report on one module. -/
def oneModule : Members :=
  [(some "suite", .text "s"), (some "passed", .array [.text "a.ll"]), (some "failed", .array []),
    (some "failed_reference", .array []), (some "wrong", .array []), (some "interrupted", .bool false)]

/-- A summary of one suite with these members. -/
def oneSuite (entry : Members) : Json :=
  .object [(some "success", .bool true), (some "suites", .array [.object entry])]

def storedEntry : Members :=
  [(some "verdict", .text "passed"), (some "total", .count 1), (some "report", .object oneModule)]

/-- The report before the verdict. -/
def shuffledEntry (report : Members) : Members :=
  [(some "report", .object report), (some "verdict", .text "passed"), (some "total", .count 1)]

/-- The report with one more member. -/
def notedModule : Members := oneModule ++ [(some "note", .null)]

theorem printable_object {members : Members} (each : ∀ member ∈ members, member.1.isSome = true ∧ member.2.Printable) :
    (Json.object members).Printable :=
  .object (fun member found => (each member found).1) fun member found => (each member found).2

theorem printable_oneModule : ∀ member ∈ oneModule, member.1.isSome = true ∧ member.2.Printable := by
  have none_ : (Json.array []).Printable := .array nofun
  have one : (Json.array [.text "a.ll"]).Printable := .array (by simp)
  simp [oneModule, none_, one]

theorem parse?_oneSuite {entry : Members} (each : ∀ member ∈ entry, member.1.isSome = true ∧ member.2.Printable) :
    Json.parse? (String.ofList ((oneSuite entry).pretty 0)) = some (oneSuite entry) := by
  have suites : (Json.array [.object entry]).Printable := .array (by simpa using printable_object each)
  exact parse?_pretty (printable_object (by simp [suites]))

theorem edit_oneSuite {entry edited : Members} (edit : Edit .entry (.object entry) (.object edited)) :
    Edit .summary (oneSuite entry) (oneSuite edited) :=
  @Edit.member .summary [(some "success", .bool true)] [] (some "suites") _ _ (@Edit.item .suites [] [] _ _ edit)

theorem edits_shuffled :
    ReflTransGen (Edit .summary) (oneSuite storedEntry) (oneSuite (shuffledEntry notedModule)) := by
  have shuffle : Edit .entry (.object storedEntry) (.object (shuffledEntry oneModule)) :=
    .reorder (show List.Perm ([_, _] ++ [_]) ([_] ++ [_, _]) from List.perm_append_comm)
  have note : Edit .report (.object oneModule) (.object notedModule) :=
    @Edit.insert .report oneModule [] _ (by decide) (.mk (by decide) .null nofun)
  exact .tail (.single (edit_oneSuite shuffle)) (edit_oneSuite (@Edit.member .entry [] _ (some "report") _ _ note))

/-- The stored text is read as it was when its entry is shuffled, and is
refused with the tag of the verdict there twice. -/
theorem oneSuite_read :
    (Json.parse? (String.ofList ((oneSuite (shuffledEntry notedModule)).pretty 0))).bind RunSummary.ofJson? =
      (Json.parse? (String.ofList ((oneSuite storedEntry).pretty 0))).bind RunSummary.ofJson? ∧
    ((Json.parse? (String.ofList ((oneSuite storedEntry).pretty 0))).bind RunSummary.ofJson?).isSome = true ∧
    (Json.parse? (String.ofList ((oneSuite ((some "verdict", .text "passed") :: storedEntry)).pretty 0))).bind
      RunSummary.ofJson? = none := by
  have report := printable_object printable_oneModule
  have noted : (Json.object notedModule).Printable := printable_object fun member found => by
    rcases List.mem_append.mp found with old | new
    · exact printable_oneModule member old
    · exact List.mem_singleton.mp new ▸ ⟨rfl, .null⟩
  have count : (Json.count 1).Printable := .count (by decide)
  have stored := @parse?_oneSuite storedEntry (by simp [storedEntry, report, count])
  have shuffled := @parse?_oneSuite (shuffledEntry notedModule) (by simp [shuffledEntry, noted, count])
  have twice := @parse?_oneSuite ((some "verdict", .text "passed") :: storedEntry)
    (by simp [storedEntry, report, count])
  have told : ((Json.parse? (String.ofList ((oneSuite storedEntry).pretty 0))).bind
      RunSummary.ofJson?).isSome = true := by
    rw [stored]
    decide +kernel
  have spoil : Spoil .summary (oneSuite storedEntry) (oneSuite ((some "verdict", .text "passed") :: storedEntry)) :=
    @Spoil.member .summary [(some "success", .bool true)] [] (some "suites") _ _ (@Spoil.item .suites [] [] _ _
      (@Spoil.doubled .entry [] storedEntry "verdict" (.text "passed") (by decide) (by simp [storedEntry, valuesOf])))
  obtain ⟨-, -, lenient⟩ := readers_lenient
  exact ⟨lenient.edited stored shuffled edits_shuffled, told, lenient.spoiled stored twice spoil told⟩

/-- A string that no reader would look at makes a verdict unreadable when it
holds half of a surrogate pair. -/
theorem broken_note_refused : ∃ members,
    Json.parse? "\x7b\"verdict\":\"empty\"\x7d" = some (.object members) ∧
    Json.parse? "\x7b\"verdict\":\"empty\",\"note\":\"\\ud800\"\x7d" =
      some (.object (members ++ [(some "note", .string none)])) ∧
    "note" ∉ Form.verdict.fields ∧ (Json.string none).IsScalar ∧
    Verdict.ofJson? (.object members) = some .empty ∧
    Verdict.ofJson? (.object (members ++ [(some "note", .string none)])) = none :=
  ⟨[(some "verdict", .text "empty")], by cbv, by cbv, by decide, .string none, by decide +kernel, by decide +kernel⟩

end ExitParity
