import ExitParity.Proofs.Files.Storing
import ExitParity.Proofs.Json.RoundTrip
import ExitParity.Proofs.Text.Utf8
import ExitParity.Report.Decode
import ExitParity.Report.Storage

namespace ExitParity

namespace Json

@[simp] theorem printable_text (text : String) : (Json.text text).Printable := .text text

@[simp] theorem printable_bool (value : Bool) : (Json.bool value).Printable := .bool value

theorem printable_count {value : Nat} (fits : value < 2 ^ 64) : (Json.count value).Printable := .count fits

end Json

/-- A list of values that may be missing is whole when each of them is there. -/
theorem isSome_mapM {α β : Type} (write : α → Option β) (values : List α) :
    (values.mapM write).isSome = values.all fun value => (write value).isSome := by
  induction values with
  | nil => rfl
  | cons value values ih =>
    rw [List.mapM_cons, List.all_cons, ← ih]
    cases write value with
    | none => rfl
    | some written => cases values.mapM write <;> rfl

/-- A value that is written as a tree which can be printed, and which is read
as the value again. -/
def Returns {α : Type} (write : α → Option Json) (read : Json → Option α) (value : α) : Prop :=
  ∃ json, write value = some json ∧ json.Printable ∧ read json = some value

theorem Returns.items {α : Type} {write : α → Option Json} {read : Json → Option α} {values : List α}
    (each : ∀ value ∈ values, Returns write read value) : ∃ items, values.mapM write = some items ∧
      (∀ item ∈ items, item.Printable) ∧ items.mapM read = some values := by
  induction values with
  | nil => exact ⟨[], rfl, nofun, rfl⟩
  | cons value values ih =>
    obtain ⟨json, written, printable, back⟩ := each value List.mem_cons_self
    obtain ⟨items, allWritten, allPrintable, allBack⟩ := ih fun other member => each other (List.mem_cons_of_mem _ member)
    refine ⟨json :: items, ?_, ?_, ?_⟩
    · simp [written, allWritten]
    · intro item member
      rcases List.mem_cons.mp member with rfl | later
      · exact printable
      · exact allPrintable item later
    · simp [back, allBack]

theorem Path.returns {path : Path} (wellFormed : Utf8.valid path.bytes = true) :
    Returns Path.toJson? Json.toPath? path := by
  have shown : Utf8.text? path.bytes = some (Utf8.display path.bytes) := if_pos wellFormed
  have same : Path.ofString (Utf8.display path.bytes) = path := by
    rw [Path.ofString, Utf8.utf8_of_text? shown]
  refine ⟨Json.text (Utf8.display path.bytes), ?_, .text _, congrArg some same⟩
  rw [Path.toJson?, shown, Option.map_some]

theorem Path.list_returns {paths : List Path} (wellFormed : ∀ path ∈ paths, Utf8.valid path.bytes = true) :
    Returns Path.listToJson? Json.toPaths? paths := by
  obtain ⟨items, written, printable, back⟩ := Returns.items fun path member => Path.returns (wellFormed path member)
  refine ⟨.array items, ?_, .array printable, back⟩
  rw [Path.listToJson?, written, Option.map_some]

namespace Report

/-- Every path of the report is text throughout. -/
def IsText (report : Report) : Prop := ∀ outcome, ∀ path ∈ report.bucket outcome, Utf8.valid path.bytes = true

/-- The members of a report's object around its lists of paths. -/
def members (report : Report) (passed failed failedReference wrong : Json) : Members :=
  [(some "suite", Json.text report.suite), (some "passed", passed), (some "failed", failed),
    (some "failed_reference", failedReference), (some "wrong", wrong)] ++
  (report.prepareFailure.toList.map fun failure => (some "prepare_failure", Json.text failure)) ++
  [(some "interrupted", .bool report.interrupted)]

theorem returns {report : Report} (isText : report.IsText) : Returns Report.toJson? Report.ofJson? report := by
  obtain ⟨passed, writtenPassed, printablePassed, backPassed⟩ := Path.list_returns (isText .passed)
  obtain ⟨failed, writtenFailed, printableFailed, backFailed⟩ := Path.list_returns (isText .failed)
  obtain ⟨reference, writtenReference, printableReference, backReference⟩ := Path.list_returns (isText .failedReference)
  obtain ⟨wrong, writtenWrong, printableWrong, backWrong⟩ := Path.list_returns (isText .wrong)
  simp only [bucket] at *
  refine ⟨.object (report.members passed failed reference wrong), ?_, ?_, ?_⟩
  · rw [toJson?, writtenPassed, writtenFailed, writtenReference, writtenWrong]
    rfl
  · refine .object ?_ ?_
    · cases failure : report.prepareFailure <;> simp [members, failure]
    · cases failure : report.prepareFailure <;>
        simp [members, failure, printablePassed, printableFailed, printableReference, printableWrong]
  · obtain ⟨suite, _, _, _, _, prepareFailure, interrupted⟩ := report
    cases prepareFailure <;>
      simp [members, ofJson?, Json.keysHold, Json.required?, Json.optional?, Json.valuesOf, Json.text, Json.toText?,
        Json.toOptionalText?, Json.toBool?, backPassed, backFailed, backReference, backWrong]

end Report

namespace Verdict

/-- The counts of a verdict are numbers of 64 bits. -/
def Fits : Verdict → Prop
  | .passed total => total < 2 ^ 64
  | .failed failures total => failures < 2 ^ 64 ∧ total < 2 ^ 64
  | .empty | .interrupted => True

theorem fits_of_total {report : Report} (counted : report.total < 2 ^ 64) : report.verdict.Fits := by
  have part : report.failed.length ≤ report.total := Nat.le_add_left _ _
  unfold Report.verdict
  split
  · trivial
  · split
    · exact ⟨Nat.lt_of_le_of_lt part counted, counted⟩
    · split
      · trivial
      · exact counted

theorem members_keys (verdict : Verdict) : ∀ member ∈ verdict.members, member.1.isSome = true := by
  cases verdict <;> simp [members]

theorem members_printable {verdict : Verdict} (fits : verdict.Fits) :
    ∀ member ∈ verdict.members, member.2.Printable := by
  cases verdict with
  | passed total => simp [members, Json.printable_count fits]
  | failed failures total => simp [members, Json.printable_count fits.1, Json.printable_count fits.2]
  | empty => simp [members]
  | interrupted => simp [members]

theorem members_holdable (verdict : Verdict) : Json.holdableMembers (Json.depthLimit - 3) verdict.members = true := by
  cases verdict <;>
    simp [members, Json.text, Json.count, Json.holdableMembers, Json.holdable, JsonNumber.isFinite]

/-- The members of a verdict tell the verdict. -/
theorem exists_case (verdict : Verdict) : ∃ tag case, Json.required? "verdict" verdict.members = some tag ∧
    Case.ofHeld? tag = some case ∧ ofMembers? verdict.members case = some verdict := by
  cases verdict <;>
    simp [members, tag, Json.text, Json.count, Json.required?, Json.valuesOf, Case.ofHeld?, Case.ofTag?, ofMembers?,
      Json.toCount?]

theorem report_beside_members (verdict : Verdict) (inner : Json) :
    Json.required? "report" (verdict.members ++ [(some "report", inner)]) = some inner := by
  cases verdict <;> simp [members, Json.required?, Json.valuesOf]

theorem members_beside_report (verdict : Verdict) (inner : Json) :
    (verdict.members ++ [(some "report", inner)]).filter (fun member => member.1 != some "report") = verdict.members := by
  cases verdict <;> simp [members]

end Verdict

namespace Report

theorem child_returns {verdict : Verdict} {report : Report} (fits : verdict.Fits) (isText : report.IsText) :
    Returns (fun (verdict, report) => Report.child? verdict report) Report.entryOfJson? (verdict, report) := by
  obtain ⟨inner, written, printable, back⟩ := Report.returns isText
  have keys : ∀ member ∈ verdict.members ++ [(some "report", inner)], member.1.isSome = true := by
    intro member found
    rcases List.mem_append.mp found with beside | last
    · exact verdict.members_keys member beside
    · rw [List.mem_singleton.mp last]
      rfl
  refine ⟨.object (verdict.members ++ [(some "report", inner)]), ?_, .object keys ?_, ?_⟩
  · simp [child?, written]
  · intro member found
    rcases List.mem_append.mp found with beside | last
    · exact Verdict.members_printable fits member beside
    · rw [List.mem_singleton.mp last]
      exact printable
  · obtain ⟨tag, case, tagged, held, told⟩ := verdict.exists_case
    have keysHold : Json.keysHold (verdict.members ++ [(some "report", inner)]) = true := List.all_eq_true.mpr keys
    simp [entryOfJson?, keysHold, verdict.report_beside_members, back, verdict.members_beside_report,
      verdict.members_holdable, tagged, held, told]

end Report

/-- What the program stores at a path that admits it is all that is there
afterwards. -/
theorem FileTree.Admits.store {tree : FileTree} {path : Path} (admits : tree.Admits path)
    (named : (0 : UInt8) ∉ path.bytes) (bytes : Bytes) :
    ∃ later mode, tree.store path bytes = .ok later ∧ later.node path = .ok (.file mode (.data bytes)) := by
  obtain ⟨later, mode, written, holds⟩ := admits.write (.data bytes)
  have clean : path.bytes.elem 0 = false := by simpa using named
  refine ⟨later, mode, ?_, holds⟩
  rw [FileTree.store, clean, written]
  rfl

namespace RunSummary

theorem returns {summary : RunSummary} (fits : ∀ entry ∈ summary.suites, entry.1.Fits)
    (isText : ∀ entry ∈ summary.suites, entry.2.IsText) : Returns RunSummary.toJson? RunSummary.ofJson? summary := by
  obtain ⟨items, written, printable, back⟩ :=
    Returns.items fun entry member => Report.child_returns (fits entry member) (isText entry member)
  refine ⟨.object [(some "success", .bool summary.success), (some "suites", .array items)], ?_, .object ?_ ?_, ?_⟩
  · simp [toJson?, written]
  · simp
  · have array : (Json.array items).Printable := .array printable
    simp [array]
  · simp [ofJson?, Json.keysHold, Json.required?, Json.valuesOf, Json.toBool?, suitesOfJson?, back]

/-- What the bytes of a machine readable report say. -/
def decode? (bytes : Bytes) : Option RunSummary :=
  ((Utf8.text? bytes).bind Json.parse?).bind ofJson?

/-- The text of a summary is what is stored. -/
theorem store_of_text {summary : RunSummary} {text : String} (written : summary.text? = some text) (path : Path)
    (tree : FileTree) :
    summary.store path tree = (tree.store path (utf8 text)).mapError (Failure.unwritable path) := by
  rw [store, written]
  dsimp only
  cases tree.store path (utf8 text) <;> rfl

theorem store_of_admits {summary : RunSummary} {text : String} (written : summary.text? = some text) {path : Path}
    {tree : FileTree} (named : (0 : UInt8) ∉ path.bytes) (admits : tree.Admits path) :
    ∃ after mode, summary.store path tree = .ok after ∧ after.node path = .ok (.file mode (.data (utf8 text))) := by
  obtain ⟨after, mode, stored, holds⟩ := admits.store named (utf8 text)
  refine ⟨after, mode, ?_, holds⟩
  rw [store_of_text written, stored]
  rfl

/-- A summary whose paths are text has a text, that text is what is stored, and
its bytes say the summary again. -/
theorem exists_text {summary : RunSummary} (fits : ∀ entry ∈ summary.suites, entry.1.Fits)
    (isText : ∀ entry ∈ summary.suites, entry.2.IsText) : ∃ text, summary.text? = some text ∧
      (∀ path tree, summary.store path tree = (tree.store path (utf8 text)).mapError (Failure.unwritable path)) ∧
      decode? (utf8 text) = some summary := by
  obtain ⟨json, written, printable, back⟩ := returns fits isText
  have text : summary.text? = some (String.ofList (json.pretty 0)) := by rw [text?, written, Option.map_some]
  refine ⟨_, text, store_of_text text, ?_⟩
  simp [decode?, Utf8.text?_utf8, Json.parse?_pretty printable, back]

theorem mem_of {reports : List Report} {entry : Verdict × Report} (member : entry ∈ (RunSummary.of reports).suites) :
    entry.2 ∈ reports ∧ entry.1 = entry.2.verdict := by
  obtain ⟨report, found, rfl⟩ := List.mem_map.mp member
  exact ⟨found, rfl⟩

theorem exists_text_of {reports : List Report} (isText : ∀ report ∈ reports, report.IsText)
    (counted : ∀ report ∈ reports, report.total < 2 ^ 64) : ∃ text, (RunSummary.of reports).text? = some text ∧
      (∀ path tree, (RunSummary.of reports).store path tree =
        (tree.store path (utf8 text)).mapError (Failure.unwritable path)) ∧
      decode? (utf8 text) = some (RunSummary.of reports) := by
  refine exists_text (fun entry member => ?_) fun entry member => isText _ (mem_of member).1
  obtain ⟨found, own⟩ := mem_of member
  exact own ▸ Verdict.fits_of_total (counted _ found)

end RunSummary

/-- What is stored for some reports whose paths are text, and what a file at the
path holds then, says each of them in order, beside a verdict that is the
report's own, and it says success when there are reports and every verdict is
passed. The number of tests is one of 64
bits, as the length of what lies in memory always is. -/
theorem stored_decoded {reports : List Report} (isText : ∀ report ∈ reports, report.IsText)
    (counted : ∀ report ∈ reports, report.total < 2 ^ 64) :
    ∃ text decoded, (RunSummary.of reports).text? = some text ∧
      (∀ path tree, (RunSummary.of reports).store path tree =
        (tree.store path (utf8 text)).mapError (Failure.unwritable path)) ∧
      (∀ (path : Path) (tree : FileTree), (0 : UInt8) ∉ path.bytes → tree.Admits path →
        ∃ after mode, (RunSummary.of reports).store path tree = .ok after ∧
          after.node path = .ok (.file mode (.data (utf8 text)))) ∧
      RunSummary.decode? (utf8 text) = some decoded ∧ decoded = RunSummary.of reports ∧
      decoded.suites.map Prod.snd = reports ∧ (∀ entry ∈ decoded.suites, entry.1 = entry.2.verdict) ∧
      (decoded.success = true ↔ decoded.suites ≠ [] ∧ ∀ entry ∈ decoded.suites, entry.1.isPassed = true) := by
  obtain ⟨text, written, stored, back⟩ := RunSummary.exists_text_of isText counted
  refine ⟨text, RunSummary.of reports, written, stored, fun path tree => RunSummary.store_of_admits written, back, rfl, ?_,
    fun entry member => (RunSummary.mem_of member).2, ?_⟩
  · rw [RunSummary.of, List.map_map]
    exact List.map_id _
  · simp [RunSummary.of, Report.isSuccess]

/-- Names with a quote, a backslash and control characters in them. -/
def awkward : Report where
  suite := "say \"suite\" \\ é"
  passed := [.ofString "a\tb\x01.ll"]
  failed := []
  failedReference := [.ofString "c\\\"d\".ll"]
  wrong := []
  prepareFailure := some "line\nfeed"
  interrupted := false

theorem awkward_isText : awkward.IsText := by
  intro outcome
  cases outcome <;> decide +kernel

/-- Files with an older report at `/o.json`. -/
def reportedTree : FileTree where
  nodes := #[.directory 0o755 0 true [(utf8 "o.json", 1)],
    .file 0o600 (.data (utf8 "an older report, and a longer one"))]
  times := #[0, 0]
  now := 0
  cwd := 0

theorem reportedTree_admits : reportedTree.Admits (.ofString "/o.json") :=
  .existing (show _ = Except.ok (FileTree.Spot.found 1 (some (0, utf8 "o.json"))) from rfl) rfl rfl

/-- Such a report is stored in the older one's place as a success, and is read
back as it was. -/
theorem awkward_decoded : ∃ text decoded after mode, (RunSummary.of [awkward]).text? = some text ∧
    (RunSummary.of [awkward]).store (.ofString "/o.json") reportedTree = .ok after ∧
    after.node (.ofString "/o.json") = .ok (.file mode (.data (utf8 text))) ∧
    RunSummary.decode? (utf8 text) = some decoded ∧ decoded.suites = [(.passed 1, awkward)] ∧ decoded.success = true := by
  have isText : ∀ report ∈ [awkward], report.IsText := by
    intro report member
    rw [List.mem_singleton.mp member]
    exact awkward_isText
  have counted : ∀ report ∈ [awkward], report.total < 2 ^ 64 := by
    intro report member
    rw [List.mem_singleton.mp member]
    decide
  obtain ⟨text, decoded, written, -, stored, back, rfl, -, -, -⟩ := stored_decoded isText counted
  obtain ⟨after, mode, sent, holds⟩ := stored (.ofString "/o.json") reportedTree (by decide) reportedTree_admits
  exact ⟨text, _, after, mode, written, sent, holds, back, by rfl, by rfl⟩

end ExitParity
