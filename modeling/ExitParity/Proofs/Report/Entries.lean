import ExitParity.Proofs.Evaluation.Progress
import Mathlib.Logic.Function.Basic

namespace ExitParity

/-- The progress text of an outcome. -/
def Outcome.echo (outcome : Outcome) : Bytes := utf8 (String.singleton outcome.symbol)

namespace Sink

/-- A sink that fails in this way and has issued so many writes and flushes. -/
structure Stands (sink : Sink) (faults : SinkFaults) (writes flushes : ℕ) : Prop where
  faults : sink.faults = faults
  writes : sink.issued.countP SinkCall.isWrite = writes
  flushes : (sink.issued.countP fun call => !call.isWrite) = flushes

variable {sink after : Sink} {faults : SinkFaults} {writes flushes : ℕ} {calls : List SinkCall}

theorem Stands.issues (stands : sink.Stands faults writes flushes) (issues : sink.Issues calls after) :
    after.Stands faults (writes + calls.countP SinkCall.isWrite)
      (flushes + calls.countP fun call => !call.isWrite) := by
  refine ⟨issues.faults.trans stands.faults, ?_, ?_⟩
  · rw [issues.issued, List.countP_append, stands.writes]
  · rw [issues.issued, List.countP_append, stands.flushes]

theorem Stands.write (stands : sink.Stands faults writes flushes) (printed : ℕ) (bytes : Bytes) :
    sink.Outputs [.write writes] (sink.write printed bytes).1 (sink.write printed bytes).2 ∧
      (sink.write printed bytes).2.text = sink.text ++ if faults.write writes then [] else bytes := by
  have outputs := sink.issue_outputs (.write writes)
  have struck : sink.faults.strikes (.write writes) = faults.write writes := congrArg (·.write writes) stands.faults
  simp only [Sink.write, issue, stands.writes, struck] at outputs ⊢
  generalize faults.write writes = fails at outputs ⊢
  cases fails with
  | true => exact ⟨outputs, (List.append_nil _).symm⟩
  | false => exact ⟨⟨⟨outputs.issued, outputs.faults⟩, outputs.told⟩, by simp [text]⟩

theorem write_ok {printed : ℕ} {bytes : Bytes} (written : sink.write printed bytes = (.ok (), after)) :
    after.text = sink.text ++ bytes := by
  have stands : sink.Stands sink.faults _ _ := ⟨rfl, rfl, rfl⟩
  obtain ⟨outputs, text⟩ := stands.write printed bytes
  rw [written] at outputs text
  cases struck : sink.faults.write (sink.issued.countP SinkCall.isWrite) with
  | true =>
    have told := outputs.told
    simp [SinkFaults.strikes, struck] at told
  | false => simpa [struck] using text

theorem Stands.flush (stands : sink.Stands faults writes flushes) :
    sink.Outputs [.flush flushes] sink.flush.1 sink.flush.2 ∧ sink.flush.2.text = sink.text := by
  have outputs := sink.issue_outputs (.flush flushes)
  unfold Sink.flush
  rw [stands.flushes]
  exact ⟨outputs, rfl⟩

end Sink

/-- Progress output fails when one of its calls does. -/
theorem Sink.Outputs.failed_iff {before after : Sink} {calls : List SinkCall} {told : Except SinkError Unit}
    (outputs : before.Outputs calls told after) :
    (∃ error, told = .error error) ↔ ∃ call ∈ calls, before.faults.strikes call = true := by
  rw [outputs.told, ← List.find?_isSome]
  cases calls.find? before.faults.strikes <;> simp

/-- The calls that echo an outcome behind so many writes and flushes. -/
def echoCalls (faults : SinkFaults) (writes flushes : ℕ) : List SinkCall :=
  if faults.write writes then [.write writes] else [.write writes, .flush flushes]

namespace Report

theorem record_echoes {sink : Sink} {faults : SinkFaults} {writes flushes : ℕ}
    (stands : sink.Stands faults writes flushes) (report : Report) (printed : ℕ) (path : Path) (outcome : Outcome) :
    sink.Outputs (echoCalls faults writes flushes) (report.record sink printed path outcome).1
        (report.record sink printed path outcome).2.2 ∧
      (report.record sink printed path outcome).2.2.text =
        sink.text ++ if faults.write writes then [] else outcome.echo := by
  obtain ⟨outputs, text⟩ := stands.write printed outcome.echo
  unfold record echoCalls
  unfold Outcome.echo at outputs text ⊢
  generalize sink.write printed (utf8 (String.singleton outcome.symbol)) = written at outputs text ⊢
  obtain ⟨told, between⟩ := written
  have answer := outputs.told
  rw [stands.faults] at answer
  cases struck : faults.write writes with
  | true =>
    obtain rfl : told = .error (.write writes) := by simpa [SinkFaults.strikes, struck] using answer
    rw [struck] at text
    exact ⟨outputs, text⟩
  | false =>
    obtain rfl : told = .ok () := by simpa [SinkFaults.strikes, struck] using answer
    obtain ⟨flushed, same⟩ := (stands.issues outputs.toIssues).flush
    rw [struck] at text
    exact ⟨outputs.next flushed, same.trans text⟩

/-- What can be entered in a report that is being put together. -/
inductive Entry where
  | judged (path : Path) (outcome : Outcome) (printed : ℕ)
  | unprepared (failure : String)
  | interrupted

namespace Entry

def enter : Entry → Report × Sink → Except SinkError Unit × (Report × Sink)
  | .judged path outcome printed, (report, sink) => report.record sink printed path outcome
  | .unprepared failure, (report, sink) => (.ok (), (report.failPreparation failure, sink))
  | .interrupted, (report, sink) => (.ok (), (report.interrupt, sink))

def judgement? : Entry → Option (Path × Outcome)
  | .judged path outcome _ => some (path, outcome)
  | _ => none

def failure? : Entry → Option String
  | .unprepared failure => some failure
  | _ => none

def isInterrupt : Entry → Bool
  | .interrupted => true
  | _ => false

end Entry

/-- A new report and its sink behind some entries, whatever these have told. -/
def enterAll (suite : String) (faults : SinkFaults) (entries : List Entry) : Report × Sink :=
  entries.foldl (fun state entry => (entry.enter state).2) (.empty suite, .fresh faults)

/-- The paths with one outcome. -/
def held (judged : List (Path × Outcome)) (outcome : Outcome) : List Path :=
  (judged.filter (·.2 = outcome)).map Prod.fst

/-- The judgements whose symbols are written: each of them makes one write. -/
def echoed (faults : SinkFaults) (judged : List (Path × Outcome)) : List (Path × Outcome) :=
  (judged.zipIdx.filter fun item => !faults.write item.2).map Prod.fst

theorem held_concat (judged : List (Path × Outcome)) (path : Path) (outcome other : Outcome) :
    held (judged ++ [(path, outcome)]) other =
      if other = outcome then held judged other ++ [path] else held judged other := by
  by_cases same : other = outcome
  · simp [held, same]
  · simp [held, same, Ne.symm same]

theorem echoed_concat (faults : SinkFaults) (judged : List (Path × Outcome)) (last : Path × Outcome) :
    echoed faults (judged ++ [last]) = echoed faults judged ++ if faults.write judged.length then [] else [last] := by
  cases struck : faults.write judged.length <;> simp [echoed, List.zipIdx_append, struck]

theorem echoed_eq_self {faults : SinkFaults} {judged : List (Path × Outcome)}
    (spared : ∀ index < judged.length, faults.write index = false) : echoed faults judged = judged := by
  have all : ∀ item ∈ judged.zipIdx, (!faults.write item.2) = true := by
    intro item member
    rw [spared item.2 (by simpa using (List.mem_zipIdx member).2.1), Bool.not_false]
  rw [echoed, List.filter_eq_self.mpr all, List.zipIdx_map_fst]

theorem length_held (judged : List (Path × Outcome)) :
    (held judged .passed).length + (held judged .failed).length =
        judged.countP (·.2.countsTowardTotal) ∧
      (held judged .passed).length + (held judged .failed).length + (held judged .failedReference).length +
        (held judged .wrong).length = judged.length := by
  induction judged with
  | nil => exact ⟨rfl, rfl⟩
  | cons head judged ih =>
    obtain ⟨path, outcome⟩ := head
    cases outcome <;> simp [held, Outcome.countsTowardTotal] at ih ⊢ <;> omega

/-- A report and its sink hold what was entered: every path under its outcome
in order, and the symbols that could be written. -/
structure Keeps (suite : String) (faults : SinkFaults) (entries : List Entry) (report : Report) (sink : Sink) :
    Prop where
  suite : report.suite = suite
  bucket (outcome : Outcome) : report.bucket outcome = held (entries.filterMap Entry.judgement?) outcome
  prepareFailure : report.prepareFailure = (entries.filterMap Entry.failure?).getLast?
  interrupted : report.interrupted = entries.any Entry.isInterrupt
  stands : sink.Stands faults (entries.filterMap Entry.judgement?).length
    (echoed faults (entries.filterMap Entry.judgement?)).length
  text : sink.text = (echoed faults (entries.filterMap Entry.judgement?)).flatMap (·.2.echo)

variable {suite : String} {faults : SinkFaults} {entries : List Entry} {report : Report} {sink : Sink}

theorem Keeps.start (suite : String) (faults : SinkFaults) : Keeps suite faults [] (.empty suite) (.fresh faults) where
  suite := rfl
  bucket outcome := by cases outcome <;> rfl
  prepareFailure := rfl
  interrupted := rfl
  stands := ⟨rfl, rfl, rfl⟩
  text := rfl

/-- An outcome is filed whether its symbol can be written or not. -/
theorem Keeps.record (keeps : Keeps suite faults entries report sink) (path : Path) (outcome : Outcome) (printed : ℕ) :
    Keeps suite faults (entries ++ [.judged path outcome printed]) (report.record sink printed path outcome).2.1
      (report.record sink printed path outcome).2.2 := by
  obtain ⟨outputs, text⟩ := record_echoes keeps.stands report printed path outcome
  have later := keeps.stands.issues outputs.toIssues
  have judged : (entries ++ [Entry.judged path outcome printed]).filterMap Entry.judgement? =
      entries.filterMap Entry.judgement? ++ [(path, outcome)] := List.filterMap_append
  have failures : (entries ++ [Entry.judged path outcome printed]).filterMap Entry.failure? =
      entries.filterMap Entry.failure? := List.filterMap_append.trans (List.append_nil _)
  rw [record_filed]
  constructor
  case suite =>
    rw [← keeps.suite]
    cases outcome <;> rfl
  case bucket =>
    intro other
    rw [judged, held_concat, bucket_file, keeps.bucket]
  case prepareFailure =>
    rw [failures, ← keeps.prepareFailure]
    cases outcome <;> rfl
  case interrupted =>
    rw [interrupted_file, List.any_append, keeps.interrupted]
    exact (Bool.or_false _).symm
  case stands =>
    rw [judged, List.length_append, echoed_concat, List.length_append]
    unfold echoCalls at later
    split at later
    · next struck =>
      rw [if_pos struck]
      exact later
    · next spared =>
      rw [if_neg spared]
      exact later
  case text =>
    rw [judged, echoed_concat, List.flatMap_append, ← keeps.text, text]
    split <;> simp

theorem judgements_concat {entry : Entry} (other : entry.judgement? = none) (entries : List Entry) :
    (entries ++ [entry]).filterMap Entry.judgement? = entries.filterMap Entry.judgement? := by
  rw [List.filterMap_append, List.filterMap_cons_none other, List.filterMap_nil, List.append_nil]

theorem Keeps.enter (keeps : Keeps suite faults entries report sink) (entry : Entry) :
    Keeps suite faults (entries ++ [entry]) (entry.enter (report, sink)).2.1 (entry.enter (report, sink)).2.2 := by
  cases entry with
  | judged path outcome printed => exact keeps.record path outcome printed
  | unprepared failure =>
    have judged := judgements_concat (rfl : (Entry.unprepared failure).judgement? = none) entries
    exact {
      suite := keeps.suite
      bucket := by
        intro outcome
        rw [judged, ← keeps.bucket]
        cases outcome <;> rfl
      prepareFailure := by simp [Entry.enter, Entry.failure?, failPreparation]
      interrupted := by simp [Entry.enter, Entry.isInterrupt, failPreparation, keeps.interrupted]
      stands := judged ▸ keeps.stands
      text := judged ▸ keeps.text }
  | interrupted =>
    have judged := judgements_concat (rfl : Entry.interrupted.judgement? = none) entries
    exact {
      suite := keeps.suite
      bucket := by
        intro outcome
        rw [judged, ← keeps.bucket]
        cases outcome <;> rfl
      prepareFailure := by simp [Entry.enter, Entry.failure?, interrupt, keeps.prepareFailure]
      interrupted := by simp [Entry.enter, Entry.isInterrupt, interrupt]
      stands := judged ▸ keeps.stands
      text := judged ▸ keeps.text }

theorem keeps_enterAll (suite : String) (faults : SinkFaults) (entries : List Entry) :
    Keeps suite faults entries (enterAll suite faults entries).1 (enterAll suite faults entries).2 := by
  -- A write is numbered by those before it, so the entries are taken from the last one on.
  induction entries using List.reverseRecOn with
  | nil => exact .start suite faults
  | append_singleton entries entry ih =>
    have step := ih.enter entry
    rwa [enterAll, List.foldl_concat]

theorem Keeps.counts (keeps : Keeps suite faults entries report sink) :
    report.total = (entries.filterMap Entry.judgement?).countP (·.2.countsTowardTotal) ∧
      report.processed = (entries.filterMap Entry.judgement?).length := by
  have lengths := length_held (entries.filterMap Entry.judgement?)
  simp only [← keeps.bucket] at lengths
  exact lengths

/-- The report that is handed out is the one that was put together, and a line
of symbols is ended. -/
theorem finish_eq_ok {printed : ℕ} {handed : Report} {after : Sink}
    (finished : report.finish sink printed = (.ok handed, after)) :
    handed = report ∧ after.text = sink.text ++ if report.processed = 0 then [] else [0x0a] := by
  unfold finish at finished
  generalize begun : (if report.processed > 0 then sink.write printed [0x0a] else (.ok (), sink)) = line at finished
  obtain ⟨told, between⟩ := line
  cases told with
  | error => cases finished
  | ok =>
    have ended : between.text = sink.text ++ if report.processed = 0 then [] else [0x0a] := by
      split at begun
      · next some_ =>
        rw [if_neg (by omega)]
        exact Sink.write_ok begun
      · next none_ =>
        cases begun
        rw [if_pos (by omega), List.append_nil]
    have kept : between.flush.2.text = between.text := rfl
    dsimp only at finished
    generalize between.flush = flushed at finished kept
    obtain ⟨told, last⟩ := flushed
    cases told with
    | error => cases finished
    | ok =>
      cases finished
      exact ⟨rfl, kept.trans ended⟩

/-- Tell apart the judgements on the paths of four lists, by their symbols. -/
def retrace (held : Outcome → List Path) : Bytes → List (Path × Outcome)
  | [] => []
  | symbol :: text =>
    match Outcome.all.find? (·.echo = [symbol]) with
    | none => retrace held text
    | some outcome =>
      match held outcome with
      | [] => retrace held text
      | path :: rest => (path, outcome) :: retrace (Function.update held outcome rest) text

theorem retrace_nothing (text : Bytes) : retrace (fun _ => []) text = [] := by
  induction text with
  | nil => rfl
  | cons symbol text ih =>
    unfold retrace
    split
    · exact ih
    · exact ih

/-- The symbols tell in which order the paths were judged. -/
theorem retrace_held (judged : List (Path × Outcome)) (rest : Bytes) :
    retrace (held judged) (judged.flatMap (·.2.echo) ++ rest) = judged := by
  induction judged with
  | nil => exact retrace_nothing rest
  | cons head judged ih =>
    obtain ⟨path, outcome⟩ := head
    obtain ⟨symbol, echo, known⟩ : ∃ symbol, outcome.echo = [symbol] ∧
        Outcome.all.find? (·.echo = [symbol]) = some outcome := by
      cases outcome <;> exact ⟨_, rfl, by decide⟩
    -- The symbol takes the path from its own list and leaves the other lists as they are.
    have first : held ((path, outcome) :: judged) outcome = path :: held judged outcome := by simp [held]
    have others : Function.update (held ((path, outcome) :: judged)) outcome (held judged outcome) = held judged := by
      funext other
      by_cases same : other = outcome
      · rw [same, Function.update_self]
      · simp [Function.update_of_ne same, held, Ne.symm same]
    rw [List.flatMap_cons, echo, List.append_assoc, List.singleton_append, retrace, known]
    simp only [first, others, ih]

/-- Whatever is entered and whichever progress output fails, every path is filed
under its outcome, and the text has the symbols that could be written. To judge
a path tells whether its own output failed. The report that is handed out in the
end is the one that was put together. When every symbol is written, the report
and the text say in which order the paths were judged. -/
theorem enterAll_account (suite : String) (faults : SinkFaults) (entries : List Entry) :
    let judged := entries.filterMap Entry.judgement?
    let report := (enterAll suite faults entries).1
    let sink := (enterAll suite faults entries).2
    let own := echoCalls faults judged.length (echoed faults judged).length
    Keeps suite faults entries report sink ∧
    (report.total = judged.countP (·.2.countsTowardTotal) ∧ report.processed = judged.length) ∧
    (∀ printed path outcome,
      sink.Outputs own (report.record sink printed path outcome).1 (report.record sink printed path outcome).2.2 ∧
      ((∃ error, (report.record sink printed path outcome).1 = .error error) ↔
        ∃ call ∈ own, faults.strikes call = true)) ∧
    (∀ printed, ∃ calls told, sink.Outputs calls told (report.finish sink printed).2 ∧
      (report.finish sink printed).1 = told.map fun () => report) ∧
    (∀ printed handed after, report.finish sink printed = (.ok handed, after) →
      handed = report ∧ after.text = sink.text ++ if judged = [] then [] else [0x0a]) ∧
    ((∀ index < judged.length, faults.write index = false) →
      ∀ rest, retrace report.bucket (sink.text ++ rest) = judged) := by
  intro judged report sink own
  have keeps : Keeps suite faults entries report sink := keeps_enterAll suite faults entries
  refine ⟨keeps, keeps.counts, fun printed path outcome => ?_, report.finish_outputs sink, ?_, fun spared rest => ?_⟩
  · obtain ⟨outputs, -⟩ := record_echoes keeps.stands report printed path outcome
    have failed := outputs.failed_iff
    rw [keeps.stands.faults] at failed
    exact ⟨outputs, failed⟩
  · intro printed handed after finished
    obtain ⟨same, text⟩ := finish_eq_ok finished
    have empty : report.processed = 0 ↔ judged = [] := by rw [keeps.counts.2, List.length_eq_zero_iff]
    exact ⟨same, by simpa only [empty] using text⟩
  · have buckets : report.bucket = held judged := funext keeps.bucket
    rw [buckets, keeps.text, echoed_eq_self spared]
    exact retrace_held judged rest

/-- A file that is judged twice, and another one whose symbol is not written.
Without failures the order comes back. -/
theorem twice_account :
    let a := Path.ofString "a.ll"
    let b := Path.ofString "b.ll"
    let entries : List Entry :=
      [.judged a .passed 0, .unprepared "exit code 1", .judged b .failed 0, .interrupted, .judged a .wrong 2]
    let disturbed := enterAll "twice" ⟨(· == 1), fun _ => false⟩ entries
    let calm := enterAll "twice" .never entries
    disturbed.1.bucket .failed = [b] ∧ disturbed.2.text = utf8 ".W" ∧
      (∃ after, disturbed.1.finish disturbed.2 2 = (.ok disturbed.1, after) ∧ after.text = utf8 ".W\n") ∧
      retrace calm.1.bucket calm.2.text = [(a, .passed), (b, .failed), (a, .wrong)] := by
  intro a b entries disturbed calm
  obtain ⟨keeps, -, -, -, finished, -⟩ := enterAll_account "twice" ⟨(· == 1), fun _ => false⟩ entries
  obtain ⟨-, -, -, -, -, order⟩ := enterAll_account "twice" .never entries
  have text : disturbed.2.text = utf8 ".W" := keeps.text.trans (by decide)
  refine ⟨(keeps.bucket .failed).trans (by decide), text, ?_, ?_⟩
  · generalize ended : disturbed.1.finish disturbed.2 2 = left
    obtain ⟨handed, after⟩ := left
    cases handed with
    | error error =>
      have spared : (disturbed.1.finish disturbed.2 2).1 = .ok disturbed.1 := by rfl
      rw [ended] at spared
      cases spared
    | ok handed =>
      obtain ⟨rfl, written⟩ := finished 2 handed after ended
      rw [text] at written
      exact ⟨after, rfl, written⟩
  · have back := order (fun _ _ => rfl) []
    rwa [List.append_nil] at back

end Report
end ExitParity
