import ExitParity.Proofs.Report.Reading
import ExitParity.Session

namespace ExitParity

theorem Path.isSome_toJson? (path : Path) : path.toJson?.isSome = Utf8.valid path.bytes := by
  rw [toJson?, Option.isSome_map, Utf8.text?]
  cases Utf8.valid path.bytes <;> rfl

theorem Path.isSome_listToJson? (paths : List Path) :
    (Path.listToJson? paths).isSome = paths.all fun path => Utf8.valid path.bytes := by
  simp only [listToJson?, Option.isSome_map, isSome_mapM, isSome_toJson?]

namespace Report

/-- A report can be written down when each of its lists can. -/
theorem isSome_toJson? (report : Report) : report.toJson?.isSome =
    ((Path.listToJson? report.passed).isSome && (Path.listToJson? report.failed).isSome &&
      (Path.listToJson? report.failedReference).isSome && (Path.listToJson? report.wrong).isSome) := by
  unfold toJson?
  cases Path.listToJson? report.passed <;> cases Path.listToJson? report.failed <;>
    cases Path.listToJson? report.failedReference <;> cases Path.listToJson? report.wrong <;> rfl

theorem isText_iff {report : Report} : report.IsText ↔ report.toJson?.isSome = true := by
  simp only [isSome_toJson?, Path.isSome_listToJson?, Bool.and_eq_true, List.all_eq_true]
  constructor
  · intro isText
    exact ⟨⟨⟨isText .passed, isText .failed⟩, isText .failedReference⟩, isText .wrong⟩
  · rintro ⟨⟨⟨passed, failed⟩, failedReference⟩, wrong⟩ outcome
    cases outcome with
    | passed => exact passed
    | failed => exact failed
    | failedReference => exact failedReference
    | wrong => exact wrong

end Report

namespace RunSummary

theorem isSome_toJson? (summary : RunSummary) :
    summary.toJson?.isSome = true ↔ ∀ entry ∈ summary.suites, entry.2.IsText := by
  have items := isSome_mapM (fun entry : Verdict × Report => entry.2.child? entry.1) summary.suites
  have whole : summary.toJson?.isSome =
      (summary.suites.mapM fun entry : Verdict × Report => entry.2.child? entry.1).isSome := by
    rw [toJson?]
    cases summary.suites.mapM fun entry : Verdict × Report => entry.2.child? entry.1 <;> rfl
  rw [whole, items, List.all_eq_true]
  refine forall₂_congr fun entry _ => ?_
  rw [Report.child?, Option.isSome_map, Report.isText_iff]

/-- The whole summary is written down, or nothing is. -/
theorem toJson?_of (reports : List Report) :
    (RunSummary.of reports).toJson?.isSome = true ↔ ∀ report ∈ reports, report.IsText := by
  simp only [isSome_toJson?, RunSummary.of, List.forall_mem_map]

theorem send_of_none {summary : RunSummary} (none_ : summary.toJson? = none) (target : Path) (host : Host) :
    summary.send target host = .error .unserializable := by
  have text : summary.text? = none := by rw [text?, none_, Option.map_none]
  rw [send, store, text]

/-- What has a text fails only when it cannot be written. -/
theorem send_error {summary : RunSummary} {text : String} (written : summary.text? = some text) {target : Path}
    {host : Host} {failure : Failure} (failed : summary.send target host = .error failure) :
    ∃ cause, failure = .unwritable target cause := by
  rw [send, store_of_text written] at failed
  cases stored : host.tree.store target (utf8 text) with
  | error cause =>
    rw [stored] at failed
    exact ⟨cause, (Except.error.inj failed).symm⟩
  | ok tree =>
    simp only [stored, Except.mapError] at failed
    split at failed
    · split at failed
      · cases failed
      · next errno _ => exact ⟨.system errno, (Except.error.inj failed).symm⟩
    · cases failed

theorem send_of_admits {summary : RunSummary} {text : String} (written : summary.text? = some text) {target : Path}
    {host : Host} (named : (0 : UInt8) ∉ target.bytes) (admits : host.tree.Admits target) :
    ∃ after mode, summary.send target host = .ok after ∧
      after.tree.node target = .ok (.file mode (.data (utf8 text))) := by
  obtain ⟨later, mode, stored, holds⟩ := store_of_admits written named admits
  refine ⟨{ host with tree := later }, mode, ?_, holds⟩
  simp only [send, stored, holds]

theorem decode_text {reports : List Report} {text : String} (written : (RunSummary.of reports).text? = some text)
    (isText : ∀ report ∈ reports, report.IsText) (counted : ∀ report ∈ reports, report.total < 2 ^ 64) :
    decode? (utf8 text) = some (RunSummary.of reports) := by
  obtain ⟨own, again, -, back⟩ := exists_text_of isText counted
  obtain rfl := Option.some.inj (written.symm.trans again)
  exact back

end RunSummary

/-- A machine readable report is stored whole or not at all. If some path of
some report is no text, nothing is touched, wherever the path is. Otherwise the
text of all of it is what a file that can be written holds afterwards, and the
text says the whole summary again. -/
theorem stored_whole (reports : List Report) (target : Path) (host : Host) :
    ((∃ report ∈ reports, ∃ outcome, ∃ path ∈ report.bucket outcome, Utf8.valid path.bytes = false) ↔
      (RunSummary.of reports).send target host = .error .unserializable) ∧
    ((RunSummary.of reports).send target host = .error .unserializable →
      Session.finish reports (some target) host = (.error .unserializable, host)) ∧
    ((∀ report ∈ reports, report.IsText) → ∃ json, (RunSummary.of reports).toJson? = some json ∧
      (∀ failure, (RunSummary.of reports).send target host = .error failure →
        ∃ cause, failure = .unwritable target cause) ∧
      ((0 : UInt8) ∉ target.bytes → host.tree.Admits target →
        ∃ after mode, (RunSummary.of reports).send target host = .ok after ∧
          after.tree.node target = .ok (.file mode (.data (utf8 (String.ofList (json.pretty 0)))))) ∧
      ((∀ report ∈ reports, report.total < 2 ^ 64) →
        RunSummary.decode? (utf8 (String.ofList (json.pretty 0))) = some (RunSummary.of reports))) := by
  have unfit : (∃ report ∈ reports, ∃ outcome, ∃ path ∈ report.bucket outcome, Utf8.valid path.bytes = false) ↔
      (RunSummary.of reports).toJson? = none := by
    rw [← Option.not_isSome_iff_eq_none, RunSummary.toJson?_of]
    simp only [Report.IsText, not_forall, Bool.not_eq_true, exists_prop]
  refine ⟨unfit.trans ⟨fun missing => ?_, fun failed => ?_⟩, fun failed => ?_, fun isText => ?_⟩
  · exact RunSummary.send_of_none missing target host
  · cases written : (RunSummary.of reports).toJson? with
    | none => rfl
    | some json =>
      obtain ⟨cause, other⟩ := RunSummary.send_error (congrArg (Option.map _) written) failed
      cases other
  · simp only [Session.finish, failed]
  · obtain ⟨json, written⟩ := Option.isSome_iff_exists.mp ((RunSummary.toJson?_of reports).mpr isText)
    have text : (RunSummary.of reports).text? = some (String.ofList (json.pretty 0)) := congrArg (Option.map _) written
    exact ⟨json, written, fun failure => RunSummary.send_error text, RunSummary.send_of_admits text,
      RunSummary.decode_text text isText⟩

/-- A report with one path that is no text, behind others. -/
def latin : Report where
  suite := "latin"
  passed := [.ofString "a.ll"]
  failed := []
  failedReference := []
  wrong := [.ofString "b.ll", ⟨[0x63, 0xe9]⟩]
  prepareFailure := none
  interrupted := false

def reportedHost : Host := .idle reportedTree .empty [] .unset .never 1

/-- The older report is replaced, or it stays. -/
theorem awkward_stored :
    (∃ json after mode, (RunSummary.of [awkward]).toJson? = some json ∧
      (RunSummary.of [awkward]).send (.ofString "/o.json") reportedHost = .ok after ∧
      after.tree.node (.ofString "/o.json") = .ok (.file mode (.data (utf8 (String.ofList (json.pretty 0))))) ∧
      RunSummary.decode? (utf8 (String.ofList (json.pretty 0))) = some (RunSummary.of [awkward])) ∧
    Session.finish [awkward, latin] (some (.ofString "/o.json")) reportedHost =
      (.error .unserializable, reportedHost) := by
  obtain ⟨-, -, whole⟩ := stored_whole [awkward] (.ofString "/o.json") reportedHost
  obtain ⟨unfit, kept, -⟩ := stored_whole [awkward, latin] (.ofString "/o.json") reportedHost
  constructor
  · obtain ⟨json, written, -, stored, decoded⟩ := whole fun report member =>
      List.mem_singleton.mp member ▸ awkward_isText
    obtain ⟨after, mode, sent, holds⟩ := stored (by decide) reportedTree_admits
    have counted : ∀ report ∈ [awkward], report.total < 2 ^ 64 := by decide
    exact ⟨json, after, mode, written, sent, holds, decoded counted⟩
  · exact kept (unfit.mp ⟨latin, by simp, .wrong, ⟨[0x63, 0xe9]⟩, by simp [Report.bucket, latin], by decide +kernel⟩)

end ExitParity
