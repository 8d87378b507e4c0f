import ExitParity.Proofs.Json.Members

namespace ExitParity

namespace Json

/-- A value without parts, and not out of range. Every number of 64 bits is in
range, and a string may be a broken one. -/
inductive IsScalar : Json → Prop
  | null : IsScalar .null
  | bool (value : Bool) : IsScalar (.bool value)
  | number {value : JsonNumber} (finite : value.isFinite = true) : IsScalar (.number value)
  | string (text : Option String) : IsScalar (.string text)

theorem IsScalar.holdable {value : Json} (scalar : value.IsScalar) (whole : value ≠ .string none) (depth : Nat) :
    value.holdable depth = true := by
  cases scalar with
  | null | bool => rw [Json.holdable]
  | number finite => rw [Json.holdable, finite]
  | string text =>
    rw [Json.holdable]
    exact Option.isSome_iff_ne_none.mpr fun broken => whole (congrArg Json.string broken)

/-- What a part of a text stands for. -/
inductive Form where
  | verdict
  | report
  | entry
  | suites
  | summary
  | other

namespace Form

/-- The names that are declared for the members of an object. -/
def fields : Form → List String
  | .verdict => ["verdict", "failed", "total"]
  | .report => ["suite", "passed", "failed", "failed_reference", "wrong", "prepare_failure", "interrupted"]
  | .entry => ["verdict", "failed", "total", "report"]
  | .summary => ["success", "suites"]
  | .suites | .other => []

/-- What the value of a member stands for. -/
def member : Form → Option String → Form
  | .entry, some "report" => .report
  | .summary, some "suites" => .suites
  | _, _ => .other

/-- What the item of an array at an index stands for. -/
def item : Form → Nat → Form
  | .suites, _ => .entry
  | .summary, 1 => .suites
  | _, _ => .other

/-- Whether the members of an object are held until the tag among them is known. -/
def holds : Form → Bool
  | .verdict | .entry => true
  | _ => false

/-- A member that may be added: it has a name of its own that is text, and it
is text itself if it is a string that has to be held. -/
inductive Fresh (form : Form) : Option String × Json → Prop
  | mk {name : String} {value : Json} (undeclared : name ∉ form.fields) (scalar : value.IsScalar)
      (whole : form.holds = true → value ≠ .string none) : Fresh form (some name, value)

end Form

/-- One change to a text that leaves its meaning as it is. -/
inductive Edit : Form → Json → Json → Prop
  | reorder {form : Form} {members others : Members} (perm : members.Perm others) :
      Edit form (.object members) (.object others)
  | insert {form : Form} {before after : Members} {added : Option String × Json} (stands : form.fields ≠ [])
      (fresh : form.Fresh added) : Edit form (.object (before ++ after)) (.object (before ++ added :: after))
  | member {form : Form} {before after : Members} {key : Option String} {value edited : Json}
      (inside : Edit (form.member key) value edited) :
      Edit form (.object (before ++ (key, value) :: after)) (.object (before ++ (key, edited) :: after))
  | item {form : Form} {before after : List Json} {value edited : Json}
      (inside : Edit (form.item before.length) value edited) :
      Edit form (.array (before ++ value :: after)) (.array (before ++ edited :: after))

/-- Two values that no reader of a value without members tells apart. -/
structure Alike (json other : Json) : Prop where
  text : json.toText? = other.toText?
  optionalText : json.toOptionalText? = other.toOptionalText?
  bool : json.toBool? = other.toBool?
  count : json.toCount? = other.toCount?
  paths : json.toPaths? = other.toPaths?
  held : Verdict.Case.ofHeld? json = Verdict.Case.ofHeld? other
  holdable : ∀ depth, json.holdable depth = other.holdable depth

theorem Alike.refl (json : Json) : json.Alike json := ⟨rfl, rfl, rfl, rfl, rfl, rfl, fun _ => rfl⟩

theorem mapM_congr {α : Type} {read : Json → Option α} {items others : List Json}
    (same : List.Forall₂ (fun json other => read json = read other) items others) :
    items.mapM read = others.mapM read := by
  induction same with
  | nil => rfl
  | cons first _ ih => rw [List.mapM_cons, List.mapM_cons, first, ih]

theorem all_congr {test : Json → Bool} {items others : List Json}
    (same : List.Forall₂ (fun json other => test json = test other) items others) :
    items.all test = others.all test := by
  induction same with
  | nil => rfl
  | cons first _ ih => rw [List.all_cons, List.all_cons, first, ih]

theorem forall₂_replace {same : Json → Json → Prop} (refl : ∀ json, same json json) {value edited : Json}
    (related : same value edited) (before after : List Json) :
    List.Forall₂ same (before ++ value :: after) (before ++ edited :: after) := by
  have each (items : List Json) : List.Forall₂ same items items := List.forall₂_same.mpr fun json _ => refl json
  induction before with
  | nil => exact .cons related (each after)
  | cons first before ih => exact .cons (refl first) ih

theorem Alike.array {items others : List Json} (same : List.Forall₂ Alike items others) :
    (Json.array items).Alike (.array others) where
  text := rfl
  optionalText := rfl
  bool := rfl
  count := rfl
  paths := mapM_congr (same.imp fun _ _ alike => congrArg (Option.map Path.ofString) alike.text)
  held := rfl
  holdable depth := by
    cases depth with
    | zero => rw [Json.holdable, Json.holdable]
    | succ depth =>
      rw [Json.holdable, Json.holdable, holdableItems_eq_all, holdableItems_eq_all]
      exact all_congr (same.imp fun _ _ alike => alike.holdable depth)

/-- The values for a form that are read as the same. -/
def Form.Same : Form → Json → Json → Prop
  | .verdict, json, edited => Verdict.ofJson? json = Verdict.ofJson? edited
  | .report, json, edited => Report.ofJson? json = Report.ofJson? edited
  | .entry, json, edited => Report.entryOfJson? json = Report.entryOfJson? edited
  | .suites, json, edited => RunSummary.suitesOfJson? json = RunSummary.suitesOfJson? edited
  | .summary, json, edited => RunSummary.ofJson? json = RunSummary.ofJson? edited
  | .other, json, edited => json.Alike edited

/-- The change that an edit makes to the members of an object. -/
abbrev Form.Alters (form : Form) : Members → Members → Prop :=
  Alter (fun added => form.fields ≠ [] ∧ form.Fresh added) fun key => (form.member key).Same

end Json

open Json

namespace Verdict

theorem ofJson?_object (members : Members) : ofJson? (.object members) =
    ((required? "verdict" members).bind fun tag => tag.toText?.bind Case.ofTag?).bind fun case =>
      if members.all fun member => member.1.isSome && holdable (depthLimit - 1) member.2 then ofMembers? members case
      else none := by
  rw [← holdableMembers_eq_all]
  simp only [ofJson?, Option.bind_eq_bind, Option.bind_assoc]

theorem ofMembers?_passed (members : Members) : ofMembers? members .passed =
    ((required? "total" members).bind toCount?).bind fun total => some (.passed total) := by
  simp only [ofMembers?, Option.bind_eq_bind, Option.bind_assoc]

theorem ofMembers?_failed (members : Members) : ofMembers? members .failed =
    ((required? "failed" members).bind toCount?).bind fun failures =>
      ((required? "total" members).bind toCount?).bind fun total => some (.failed failures total) := by
  simp only [ofMembers?, Option.bind_eq_bind, Option.bind_assoc]

/-- The counts are all that a verdict takes from the members. -/
theorem ofMembers?_congr {members others : Members}
    (total : (required? "total" members).bind toCount? = (required? "total" others).bind toCount?)
    (failed : (required? "failed" members).bind toCount? = (required? "failed" others).bind toCount?) (case : Case) :
    ofMembers? members case = ofMembers? others case := by
  cases case with
  | passed => rw [ofMembers?_passed, ofMembers?_passed, total]
  | failed => rw [ofMembers?_failed, ofMembers?_failed, total, failed]
  | empty => rfl
  | interrupted => rfl

theorem ofItems?_congr {items others : List Json} (same : List.Forall₂ Alike items others) (case : Case) :
    ofItems? items case = ofItems? others case := by
  cases case with
  | passed =>
    rcases same with _ | ⟨total, _ | _⟩
    case cons.nil => simp only [ofItems?, total.count]
    all_goals rfl
  | failed =>
    rcases same with _ | ⟨failures, _ | ⟨total, _ | _⟩⟩
    case cons.cons.nil => simp only [ofItems?, failures.count, total.count]
    all_goals rfl
  | empty => cases same <;> rfl
  | interrupted => cases same <;> rfl

/-- The report beside the verdict is none of its counts. -/
theorem ofMembers?_filter (members : Members) (case : Case) :
    ofMembers? (members.filter fun member => member.1 != some "report") case = ofMembers? members case :=
  ofMembers?_congr (by rw [required?_filter (by decide)]) (by rw [required?_filter (by decide)]) case

end Verdict

/-- What is found is read on the spot. -/
theorem Json.bind_bind {α β : Type} {found : Option Json} {read : Json → Option α} {next other : α → Option β}
    (same : ∀ value, next value = other value) :
    (found >>= fun json => read json >>= next) = found.bind read >>= other := by
  obtain rfl := funext same
  cases found <;> rfl

theorem Report.ofJson?_object (members : Members) : Report.ofJson? (.object members) =
    if keysHold members then (do
      let suite ← (required? "suite" members).bind toText?
      let passed ← (required? "passed" members).bind toPaths?
      let failed ← (required? "failed" members).bind toPaths?
      let failedReference ← (required? "failed_reference" members).bind toPaths?
      let wrong ← (required? "wrong" members).bind toPaths?
      let prepareFailure ← (optional? "prepare_failure" members).bind (·.elim (some none) toOptionalText?)
      let interrupted ← (required? "interrupted" members).bind toBool?
      some { suite, passed, failed, failedReference, wrong, prepareFailure, interrupted })
    else none := by
  cases hold : keysHold members with
  | false =>
    simp only [ofJson?, hold]
    rfl
  | true =>
    simp only [ofJson?, hold, Bool.not_true, Bool.false_eq_true, if_false, if_true]
    refine bind_bind fun suite => bind_bind fun passed => bind_bind fun failed => bind_bind fun failedReference =>
      bind_bind fun wrong => ?_
    rcases optional? "prepare_failure" members with _ | _ | json
    · rfl
    · exact bind_bind fun interrupted => rfl
    · exact congrArg (Option.bind _) (funext fun prepareFailure => bind_bind fun interrupted => rfl)

theorem Report.entryOfJson?_object (members : Members) : Report.entryOfJson? (.object members) =
    if keysHold members then (do
      let report ← (required? "report" members).bind Report.ofJson?
      if members.all fun member => member.1 == some "report" || (member.1.isSome && holdable (depthLimit - 3) member.2)
      then
        let case ← (required? "verdict" members).bind Verdict.Case.ofHeld?
        let verdict ← Verdict.ofMembers? members case
        some (verdict, report)
      else none)
    else none := by
  have held : holdableMembers (depthLimit - 3) (members.filter fun member => member.1 != some "report") =
      members.all fun member =>
        member.1 == some "report" || (member.1.isSome && holdable (depthLimit - 3) member.2) := by
    rw [holdableMembers_eq_all, List.all_filter]
    refine congrArg members.all (funext fun member => ?_)
    rw [bne, Bool.not_not]
  simp only [entryOfJson?, Option.bind_eq_bind, Option.bind_assoc, held, Verdict.ofMembers?_filter,
    required?_filter (show "report" ≠ "verdict" by decide)]
  cases keysHold members with
  | false => rfl
  | true => cases members.all _ <;> rfl

theorem RunSummary.ofJson?_object (members : Members) : RunSummary.ofJson? (.object members) =
    if keysHold members then (do
      let success ← (required? "success" members).bind toBool?
      let suites ← (required? "suites" members).bind suitesOfJson?
      some { success, suites })
    else none := by
  simp only [ofJson?, Option.bind_eq_bind, Option.bind_assoc]
  cases keysHold members <;> rfl

namespace Json.Form

/-- A new member has none of the declared names. -/
theorem ne_of_fresh {form : Form} {added : Option String × Json} {key : String} (declared : key ∈ form.fields)
    (fresh : form.fields ≠ [] ∧ form.Fresh added) : added.1 ≠ some key := by
  obtain ⟨undeclared, -, -⟩ := fresh.2
  rintro ⟨⟩
  exact undeclared declared

theorem isSome_of_fresh {form : Form} {added : Option String × Json} (fresh : form.fields ≠ [] ∧ form.Fresh added) :
    added.1.isSome = true := by
  obtain ⟨-, -, -⟩ := fresh.2
  rfl

theorem holdable_of_fresh {form : Form} {added : Option String × Json} (holds : form.holds = true)
    (fresh : form.fields ≠ [] ∧ form.Fresh added) (depth : Nat) : added.2.holdable depth = true := by
  obtain ⟨-, scalar, whole⟩ := fresh.2
  exact scalar.holdable (whole holds) depth

variable {form : Form} {members others : Members}

theorem Alters.keysHold (alter : form.Alters members others) : keysHold members = keysHold others :=
  alter.all (fun _ fresh => isSome_of_fresh fresh) fun _ _ _ _ => rfl

/-- A declared member that has to be there is read as before. -/
theorem Alters.bind_required? (alter : form.Alters members others) {key : String} (declared : key ∈ form.fields)
    {α : Type} {read : Json → Option α}
    (reads : ∀ value other, (form.member (some key)).Same value other → read value = read other) :
    (required? key members).bind read = (required? key others).bind read :=
  Alter.bind_required? alter (fun _ fresh => ne_of_fresh declared fresh) reads

theorem Alters.verdict (alter : Form.verdict.Alters members others) :
    Verdict.ofJson? (.object members) = Verdict.ofJson? (.object others) := by
  have tag : (required? "verdict" members).bind (fun tag => tag.toText?.bind Verdict.Case.ofTag?) =
      (required? "verdict" others).bind fun tag => tag.toText?.bind Verdict.Case.ofTag? :=
    alter.bind_required? (by decide) fun _ _ same => by rw [Alike.text same]
  have counts := Verdict.ofMembers?_congr
    (alter.bind_required? (by decide) fun _ _ same => Alike.count same)
    (alter.bind_required? (by decide) fun _ _ same => Alike.count same)
  have held (depth : Nat) : (members.all fun member => member.1.isSome && holdable depth member.2) =
      others.all fun member => member.1.isSome && holdable depth member.2 :=
    alter.all (fun added fresh => by rw [isSome_of_fresh fresh, holdable_of_fresh rfl fresh]; rfl)
      fun key value other same => by rw [Alike.holdable same]
  rw [Verdict.ofJson?_object, Verdict.ofJson?_object, tag, held]
  simp only [counts]

theorem Alters.report (alter : Form.report.Alters members others) :
    Report.ofJson? (.object members) = Report.ofJson? (.object others) := by
  have paths {key : String} (declared : key ∈ Form.report.fields) :
      (required? key members).bind toPaths? = (required? key others).bind toPaths? :=
    alter.bind_required? declared fun _ _ same => Alike.paths same
  have suite : (required? "suite" members).bind toText? = (required? "suite" others).bind toText? :=
    alter.bind_required? (by decide) fun _ _ same => Alike.text same
  have interrupted : (required? "interrupted" members).bind toBool? = (required? "interrupted" others).bind toBool? :=
    alter.bind_required? (by decide) fun _ _ same => Alike.bool same
  have prepareFailure : (optional? "prepare_failure" members).bind (·.elim (some none) toOptionalText?) =
      (optional? "prepare_failure" others).bind (·.elim (some none) toOptionalText?) :=
    alter.bind_optional? (fun _ fresh => ne_of_fresh (by decide) fresh) (fun _ _ same => Alike.optionalText same) _
  rw [Report.ofJson?_object, Report.ofJson?_object, alter.keysHold, suite, paths (by decide), paths (by decide),
    paths (by decide), paths (by decide), prepareFailure, interrupted]

/-- All that is beside the report of an entry is held. -/
theorem entry_member {key : Option String} (other : key ≠ some "report") : Form.entry.member key = .other := by
  unfold Form.member
  split
  · next name form => exact absurd rfl other
  · next form => cases form
  · rfl

theorem Alters.entry (alter : Form.entry.Alters members others) :
    Report.entryOfJson? (.object members) = Report.entryOfJson? (.object others) := by
  have report : (required? "report" members).bind Report.ofJson? = (required? "report" others).bind Report.ofJson? :=
    alter.bind_required? (by decide) fun _ _ same => same
  have tag : (required? "verdict" members).bind Verdict.Case.ofHeld? =
      (required? "verdict" others).bind Verdict.Case.ofHeld? :=
    alter.bind_required? (by decide) fun _ _ same => Alike.held same
  have counts := Verdict.ofMembers?_congr
    (alter.bind_required? (by decide) fun _ _ same => Alike.count same)
    (alter.bind_required? (by decide) fun _ _ same => Alike.count same)
  have held (depth : Nat) :
      (members.all fun member => member.1 == some "report" || (member.1.isSome && holdable depth member.2)) =
        others.all fun member => member.1 == some "report" || (member.1.isSome && holdable depth member.2) := by
    refine alter.all (fun added fresh => ?_) fun key value other same => ?_
    · rw [isSome_of_fresh fresh, holdable_of_fresh rfl fresh, Bool.and_self, Bool.or_true]
    -- The report is read where it stands, and an edit in it need not be one that can be held.
    · by_cases named : key = some "report"
      · rw [named, beq_self_eq_true, Bool.true_or, Bool.true_or]
      · rw [entry_member named] at same
        rw [Alike.holdable same]
  rw [Report.entryOfJson?_object, Report.entryOfJson?_object, alter.keysHold, report, held, tag]
  simp only [counts]

theorem Alters.summary (alter : Form.summary.Alters members others) :
    RunSummary.ofJson? (.object members) = RunSummary.ofJson? (.object others) := by
  have success : (required? "success" members).bind toBool? = (required? "success" others).bind toBool? :=
    alter.bind_required? (by decide) fun _ _ same => Alike.bool same
  have suites : (required? "suites" members).bind RunSummary.suitesOfJson? =
      (required? "suites" others).bind RunSummary.suitesOfJson? :=
    alter.bind_required? (by decide) fun _ _ same => same
  rw [RunSummary.ofJson?_object, RunSummary.ofJson?_object, alter.keysHold, success, suites]

theorem Alters.other (alter : Form.other.Alters members others) : (Json.object members).Alike (.object others) where
  text := rfl
  optionalText := rfl
  bool := rfl
  count := rfl
  paths := rfl
  held := rfl
  holdable depth := by
    cases depth with
    | zero => rw [Json.holdable, Json.holdable]
    | succ depth =>
      rw [Json.holdable, Json.holdable, holdableMembers_eq_all, holdableMembers_eq_all]
      exact alter.all (fun _ fresh => absurd rfl fresh.1) fun key value other same => by rw [Alike.holdable same]

/-- An edit of the members of an object changes nothing that is read from it. -/
theorem Alters.same (alter : form.Alters members others) : form.Same (.object members) (.object others) := by
  cases form with
  | verdict => exact alter.verdict
  | report => exact alter.report
  | entry => exact alter.entry
  | suites => rfl
  | summary => exact alter.summary
  | other => exact alter.other

theorem verdict_items {items others : List Json} (same : List.Forall₂ Alike items others) :
    Verdict.ofJson? (.array items) = Verdict.ofJson? (.array others) := by
  cases same with
  | nil => rfl
  | @cons tag otherTag items others tags same =>
    have held (depth : Nat) : holdableItems depth items = holdableItems depth others := by
      rw [holdableItems_eq_all, holdableItems_eq_all]
      exact all_congr (same.imp fun _ _ alike => alike.holdable depth)
    simp only [Verdict.ofJson?, tags.text, held, Verdict.ofItems?_congr same]

theorem report_items {items others : List Json} (same : List.Forall₂ Alike items others) :
    Report.ofJson? (.array items) = Report.ofJson? (.array others) := by
  rcases same with _ | ⟨suite, _ | ⟨passed, _ | ⟨failed, _ | ⟨failedReference, _ | ⟨wrong, _ | ⟨prepareFailure,
    _ | ⟨interrupted, _ | _⟩⟩⟩⟩⟩⟩⟩
  case cons.cons.cons.cons.cons.cons.cons.nil =>
    simp only [Report.ofJson?, suite.text, passed.paths, failed.paths, failedReference.paths, wrong.paths,
      prepareFailure.optionalText, interrupted.bool]
  all_goals rfl

/-- Only an array of two items is read, and the entries are in the second. -/
theorem summary_items {before after : List Json} {value other : Json}
    (same : (Form.summary.item before.length).Same value other) :
    RunSummary.ofJson? (.array (before ++ value :: after)) =
      RunSummary.ofJson? (.array (before ++ other :: after)) := by
  rcases before with _ | ⟨success, _ | ⟨_, before⟩⟩
  · rcases after with _ | ⟨suites, _ | _⟩
    · rfl
    · simp only [RunSummary.ofJson?, List.nil_append, Alike.bool same]
    · rfl
  · have suites : RunSummary.suitesOfJson? value = RunSummary.suitesOfJson? other := same
    rcases after with _ | _
    · simp only [RunSummary.ofJson?, List.cons_append, List.nil_append, suites]
    · rfl
  · rcases before with _ | _ <;> rfl

theorem same_item {before after : List Json} {value other : Json} (same : (form.item before.length).Same value other) :
    form.Same (.array (before ++ value :: after)) (.array (before ++ other :: after)) := by
  cases form with
  | verdict => exact verdict_items (forall₂_replace Alike.refl same before after)
  | report => exact report_items (forall₂_replace Alike.refl same before after)
  | entry => rfl
  | suites =>
    have entry : Report.entryOfJson? value = Report.entryOfJson? other := same
    simp only [Form.Same, RunSummary.suitesOfJson?, List.mapM_append, List.mapM_cons, entry]
  | summary => exact summary_items same
  | other => exact Alike.array (forall₂_replace Alike.refl same before after)

end Json.Form

/-- An edit changes nothing that is read, at whatever depth it is made. -/
theorem Json.Edit.same {form : Form} {json edited : Json} (edit : Edit form json edited) : form.Same json edited := by
  induction edit with
  | reorder perm => exact Form.Alters.same (.reorder perm)
  | insert stands fresh => exact Form.Alters.same (.insert ⟨stands, fresh⟩)
  | member _ ih => exact Form.Alters.same (.replace ih)
  | item _ ih => exact Form.same_item ih

end ExitParity
