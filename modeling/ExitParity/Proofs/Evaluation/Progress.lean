import ExitParity.Proofs.Evaluation.Account
import ExitParity.Proofs.Evaluation.Errand
import ExitParity.Proofs.Pool.Lockstep

namespace ExitParity

/-- A sink behind some more progress calls. -/
structure Sink.Issues (before : Sink) (calls : List SinkCall) (after : Sink) : Prop where
  issued : after.issued = before.issued ++ calls
  faults : after.faults = before.faults

/-- Progress output that issues these calls, with what it tells of them: the
first one that failed, if any did. -/
structure Sink.Outputs (before : Sink) (calls : List SinkCall) (told : Except SinkError Unit) (after : Sink) : Prop
    extends before.Issues calls after where
  told : told = match calls.find? before.faults.strikes with
    | some call => .error call
    | none => .ok ()

theorem SinkFaults.strikes_never (call : SinkCall) : never.strikes call = false := by
  cases call <;> rfl

namespace Sink

variable {before between after : Sink} {calls more : List SinkCall} {told : Except SinkError Unit}

theorem Issues.refl (sink : Sink) : sink.Issues [] sink := ⟨(List.append_nil _).symm, rfl⟩

theorem Issues.trans (early : before.Issues calls between) (late : between.Issues more after) :
    before.Issues (calls ++ more) after :=
  ⟨by rw [late.issued, early.issued, List.append_assoc], late.faults.trans early.faults⟩

theorem Outputs.refl (sink : Sink) : sink.Outputs [] (.ok ()) sink := ⟨.refl sink, rfl⟩

/-- Output goes on behind calls that did not fail. -/
theorem Outputs.next (early : before.Outputs calls (.ok ()) between) (late : between.Outputs more told after) :
    before.Outputs (calls ++ more) told after := by
  refine ⟨early.toIssues.trans late.toIssues, ?_⟩
  have spared : calls.find? before.faults.strikes = none := by
    have told := early.told
    split at told
    · cases told
    · assumption
  rw [List.find?_append, spared, Option.none_or, late.told, early.faults]

theorem issue_outputs (sink : Sink) (call : SinkCall) : sink.Outputs [call] (sink.issue call).1 (sink.issue call).2 := by
  refine ⟨⟨rfl, rfl⟩, ?_⟩
  cases struck : sink.faults.strikes call with
  | true => simp [issue, struck]
  | false => simp [issue, struck]

theorem write_outputs (sink : Sink) (printed : Nat) (bytes : Bytes) :
    ∃ call, sink.Outputs [call] (sink.write printed bytes).1 (sink.write printed bytes).2 := by
  have outputs := sink.issue_outputs (.write (sink.issued.countP SinkCall.isWrite))
  refine ⟨.write (sink.issued.countP SinkCall.isWrite), ?_⟩
  unfold write
  generalize sink.issue (.write (sink.issued.countP SinkCall.isWrite)) = issued at outputs ⊢
  obtain ⟨told, after⟩ := issued
  cases told with
  | error => exact outputs
  | ok => exact ⟨⟨outputs.issued, outputs.faults⟩, outputs.told⟩

theorem flush_outputs (sink : Sink) : ∃ call, sink.Outputs [call] sink.flush.1 sink.flush.2 :=
  ⟨_, sink.issue_outputs _⟩

end Sink

namespace Report

/-- To file an outcome takes a write and, unless it fails, a flush. -/
theorem record_outputs (report : Report) (sink : Sink) (printed : Nat) (path : Path) (outcome : Outcome) :
    ∃ calls, sink.Outputs calls (report.record sink printed path outcome).1
      (report.record sink printed path outcome).2.2 := by
  obtain ⟨call, outputs⟩ := sink.write_outputs printed (utf8 (String.singleton outcome.symbol))
  unfold record
  generalize sink.write printed (utf8 (String.singleton outcome.symbol)) = written at outputs ⊢
  obtain ⟨told, between⟩ := written
  cases told with
  | error error => exact ⟨[call], outputs⟩
  | ok =>
    obtain ⟨last, flushed⟩ := between.flush_outputs
    exact ⟨[call] ++ [last], outputs.next flushed⟩

/-- The report is handed out unless the last of its progress output fails. -/
theorem finish_outputs (report : Report) (sink : Sink) (printed : Nat) :
    ∃ calls told, sink.Outputs calls told (report.finish sink printed).2 ∧
      (report.finish sink printed).1 = told.map fun () => report := by
  have ended : ∃ calls, sink.Outputs calls
      (if report.processed > 0 then sink.write printed [0x0a] else (.ok (), sink)).1
      (if report.processed > 0 then sink.write printed [0x0a] else (.ok (), sink)).2 := by
    split
    · obtain ⟨call, outputs⟩ := sink.write_outputs printed [0x0a]
      exact ⟨[call], outputs⟩
    · exact ⟨[], .refl sink⟩
  obtain ⟨calls, outputs⟩ := ended
  unfold finish
  generalize (if report.processed > 0 then sink.write printed [0x0a] else (.ok (), sink)) = line at outputs ⊢
  obtain ⟨told, between⟩ := line
  cases told with
  | error error => exact ⟨calls, .error error, outputs, rfl⟩
  | ok =>
    obtain ⟨call, flushed⟩ := between.flush_outputs
    have both := outputs.next flushed
    refine ⟨calls ++ [call], between.flush.1, ?_, ?_⟩
    · simp only
      generalize between.flush = last at both ⊢
      obtain ⟨told, after⟩ := last
      cases told <;> exact both
    · simp only
      generalize between.flush = last
      obtain ⟨told, after⟩ := last
      cases told <;> rfl

theorem record_report (report : Report) (sink other : Sink) (printed : Nat) (path : Path) (outcome : Outcome) :
    (report.record sink printed path outcome).2.1 = (report.record other printed path outcome).2.1 := by
  rw [record_filed, record_filed]

end Report

namespace Evaluation

open Comparison

variable {τ σ : Type}

/-- The evaluation with another sink and another failure of its output. -/
def State.withProgress (state : State σ) (sink : Sink) (sinkError : Option SinkError) : State σ :=
  { state with host := state.host.withSink sink, sinkError }

/-- Two evaluations that differ in nothing but the progress output. -/
def State.SameBehind (state other : State σ) : Prop := ∃ sink sinkError, other = state.withProgress sink sinkError

theorem record_withProgress (pair : ArtifactPair) (outcome : Outcome) (state : State σ) (sink : Sink)
    (sinkError : Option SinkError) :
    (record pair outcome state).SameBehind (record pair outcome (state.withProgress sink sinkError)) := by
  refine ⟨(record pair outcome (state.withProgress sink sinkError)).host.sink,
    (record pair outcome (state.withProgress sink sinkError)).sinkError, ?_⟩
  simp only [record, State.withProgress, Host.withSink]
  rw [Report.record_report state.report sink state.host.sink]

theorem collect_withProgress (pair : ArtifactPair) (ending : Ending) (state : State σ) (sink : Sink)
    (sinkError : Option SinkError) :
    (collect pair ending state).SameBehind (collect pair ending (state.withProgress sink sinkError)) := by
  have reading : (state.withProgress sink sinkError).host.readToken.1 = state.host.readToken.1 := rfl
  cases set : state.host.readToken.1 with
  | true =>
    rw [collect_ignored set, collect_ignored (reading.trans set)]
    exact ⟨sink, sinkError, rfl⟩
  | false =>
    cases counted : outcomeOf ending with
    | none =>
      rw [collect_interrupted set pair counted, collect_interrupted (reading.trans set) pair counted]
      exact ⟨sink, sinkError, rfl⟩
    | some outcome =>
      rw [collect_counted set pair counted, collect_counted (reading.trans set) pair counted]
      exact record_withProgress pair outcome state.afterReading sink sinkError

/-- The pool of an evaluation cannot tell how its progress output fares. -/
theorem duty_respects (protocol : Protocol) (responder : Responder τ (Host × σ)) :
    (duty protocol responder).Respects (@State.SameBehind σ) where
  pull walk same := by
    obtain ⟨sink, sinkError, rfl⟩ := same
    rfl
  begin pair same := by
    obtain ⟨sink, sinkError, rfl⟩ := same
    exact ⟨rfl, sink, sinkError, rfl⟩
  advance suspended same := by
    obtain ⟨sink, sinkError, rfl⟩ := same
    exact ⟨rfl, sink, sinkError, rfl⟩
  collect pair ending same := by
    obtain ⟨sink, sinkError, rfl⟩ := same
    exact collect_withProgress pair ending _ sink sinkError
  readToken same := by
    obtain ⟨sink, sinkError, rfl⟩ := same
    exact ⟨rfl, sink, sinkError, rfl⟩
  cancel same := by
    obtain ⟨sink, sinkError, rfl⟩ := same
    exact ⟨sink, sinkError, rfl⟩

/-- An evaluation that has issued these progress calls, and kept the first of
them that failed. -/
structure State.Issued (before : Sink) (calls : List SinkCall) (state : State σ) : Prop extends
    before.Issues calls state.host.sink where
  kept : state.sinkError = calls.find? before.faults.strikes

variable {before : Sink} {calls : List SinkCall} {state : State σ}

theorem State.Issued.record (issued : state.Issued before calls) (pair : ArtifactPair) (outcome : Outcome) :
    ∃ more, (Evaluation.record pair outcome state).Issued before (calls ++ more) := by
  obtain ⟨more, outputs⟩ :=
    state.report.record_outputs state.host.sink state.host.console.pieces.length pair.root outcome
  refine ⟨more, issued.toIssues.trans outputs.toIssues, ?_⟩
  have told := outputs.told
  simp only [Evaluation.record, issued.kept, List.find?_append, told, issued.faults]
  cases more.find? before.faults.strikes <;> rfl

theorem State.Issued.collect (issued : state.Issued before calls) (pair : ArtifactPair) (ending : Ending) :
    ∃ more, (Evaluation.collect pair ending state).Issued before (calls ++ more) := by
  have read : state.afterReading.Issued before calls := ⟨⟨issued.issued, issued.faults⟩, issued.kept⟩
  cases set : state.host.readToken.1 with
  | true =>
    rw [collect_ignored set]
    exact ⟨[], by rwa [List.append_nil]⟩
  | false =>
    cases counted : outcomeOf ending with
    | none =>
      rw [collect_interrupted set pair counted]
      refine ⟨[], ?_⟩
      rw [List.append_nil]
      exact ⟨⟨issued.issued, issued.faults⟩, issued.kept⟩
    | some outcome =>
      rw [collect_counted set pair counted]
      exact read.record pair outcome

/-- Nothing but the collection of a result issues progress calls. -/
theorem issued_kept {protocol : Protocol} {responder : Responder τ (Host × σ)}
    (deed : Pool.Deed ArtifactPair (Suspended τ) Ending) (state : State σ)
    (issued : ∃ calls, state.Issued before calls) :
    ∃ calls, (deed.worldAfter (duty protocol responder) state).Issued before calls := by
  obtain ⟨calls, issued⟩ := issued
  cases deed with
  | collect pair ending =>
    obtain ⟨more, later⟩ := issued.collect pair ending
    exact ⟨calls ++ more, later⟩
  | read | begin | advance | cancel => exact ⟨calls, ⟨issued.issued, issued.faults⟩, issued.kept⟩
  | pull | send => exact ⟨calls, issued⟩

/-- What a run tells in the end of the progress calls that it issued: the first
one that failed, or the report. -/
inductive Answers (faults : SinkFaults) (report : Report) : List SinkCall → Except Failure Report → Prop
  | undisturbed {calls : List SinkCall} (spared : ∀ call ∈ calls, faults.strikes call = false) :
      Answers faults report calls (.ok report)
  | disturbed {early late : List SinkCall} {call : SinkCall} (spared : ∀ call ∈ early, faults.strikes call = false)
      (struck : faults.strikes call = true) : Answers faults report (early ++ call :: late) (.error (.progress call))

theorem answers_of_find? {faults : SinkFaults} {report : Report} {calls : List SinkCall}
    {answer : Except Failure Report}
    (told : answer = match calls.find? faults.strikes with
      | some call => .error (.progress call)
      | none => .ok report) : Answers faults report calls answer := by
  subst told
  cases found : calls.find? faults.strikes with
  | none =>
    refine .undisturbed fun call member => ?_
    simpa using List.find?_eq_none.mp found call member
  | some call =>
    obtain ⟨struck, early, late, rfl, spared⟩ := List.find?_eq_some_iff_append.mp found
    exact .disturbed (fun call member => by simpa using spared call member) struck

theorem State.Issued.handOut (issued : state.Issued before calls) :
    ∃ more, before.Issues (calls ++ more) (Evaluation.handOut state).2.1.sink ∧
      Answers before.faults state.report (calls ++ more) (Evaluation.handOut state).1 := by
  have kept := issued.kept
  unfold Evaluation.handOut
  cases struck : state.sinkError with
  | some call =>
    refine ⟨[], by simpa using issued.toIssues, answers_of_find? ?_⟩
    rw [List.append_nil, ← kept, struck]
  | none =>
    obtain ⟨more, told, outputs, result⟩ :=
      state.report.finish_outputs state.host.sink state.host.console.pieces.length
    refine ⟨more, issued.toIssues.trans outputs.toIssues, answers_of_find? ?_⟩
    simp only [finish, result, outputs.told]
    rw [List.find?_append, ← kept, struck, Option.none_or, issued.faults]
    cases more.find? before.faults.strikes <;> rfl

/-- The answer leaves the world of the evaluation, but for the sink. -/
theorem handOut_world (state : State σ) :
    ∃ sink, (Evaluation.handOut state).2 = (state.host.withSink sink, state.bench) := by
  unfold Evaluation.handOut
  cases state.sinkError with
  | some error => exact ⟨state.host.sink, rfl⟩
  | none => exact ⟨_, rfl⟩

theorem State.Issued.conclude (issued : state.Issued before calls) : (Evaluation.conclude state).Issued before calls :=
  ⟨⟨issued.issued, issued.faults⟩, issued.kept⟩

variable {dir : Path} {protocol : Protocol} {responder : Responder τ (Host × σ)} {jobs : Nat} {history : History τ}
  {closing : State σ}

theorem Closes.issued (closes : Closes dir protocol responder jobs state history closing)
    (issued : ∃ calls, state.Issued before calls) : ∃ calls, closing.Issued before calls := by
  cases closes with
  | ended run finished =>
    obtain ⟨calls, last⟩ := run.kept (fun deed state (_ : True) => issued_kept deed state) (fun _ _ => trivial) issued
    exact ⟨calls, last.conclude⟩

theorem Closes.withProgress (closes : Closes dir protocol responder jobs state history closing) (sink : Sink)
    (sinkError : Option SinkError) : ∃ other, closing.SameBehind other ∧
      Closes dir protocol responder jobs (state.withProgress sink sinkError) history other := by
  cases closes with
  | ended run finished =>
    have same : state.SameBehind (state.withProgress sink sinkError) := ⟨sink, sinkError, rfl⟩
    obtain ⟨left, ⟨lastSink, lastError, rfl⟩, again⟩ := run.lockstep (duty_respects protocol responder) same
    exact ⟨_, ⟨lastSink, lastError, rfl⟩, .ended again finished⟩

end Evaluation

open Evaluation

variable {τ σ : Type}

theorem Suite.Prepares.withProgress {suite : Suite} {dir : Path} {state after : State σ} {generate : Option Tool}
    {goesOn : Bool} (prepares : suite.Prepares dir state generate goesOn after) (sink : Sink)
    (sinkError : Option SinkError) :
    suite.Prepares dir (state.withProgress sink sinkError) generate goesOn (after.withProgress sink sinkError) := by
  cases prepares with
  | nothing => exact .nothing
  | @renewed _ _ host invoked success =>
    exact @Prepares.renewed _ suite dir (state.withProgress sink sinkError) _ _ host invoked success
  | @failed _ _ host invoked failed =>
    exact @Prepares.failed _ suite dir (state.withProgress sink sinkError) _ _ host invoked failed
  | @unanswered _ _ host invoked genuine =>
    exact @Prepares.unanswered _ suite dir (state.withProgress sink sinkError) _ _ host invoked genuine
  | @interrupted _ _ host invoked interrupt =>
    exact @Prepares.interrupted _ suite dir (state.withProgress sink sinkError) _ _ host invoked interrupt

theorem Suite.Prepares.issued {suite : Suite} {dir : Path} {state after : State σ} {generate : Option Tool}
    {goesOn : Bool} (prepares : suite.Prepares dir state generate goesOn after) {before : Sink}
    {calls : List SinkCall} (issued : state.Issued before calls) : after.Issued before calls := by
  obtain ⟨⟨issued, faults⟩, kept⟩ := issued
  cases prepares <;> exact ⟨⟨issued, faults⟩, kept⟩

namespace Errand

variable {errand : Errand} {responder : Responder τ (Host × σ)} {jobs : Nat} {world : Host × σ}
  {history : History τ} {closing : State σ} {answer : Except Failure Report × (Host × σ)}

/-- What a run tells in the end of its progress calls. -/
theorem Runs.answers (runs : errand.Runs responder jobs world history closing answer) :
    ∃ calls, world.1.sink.Issues calls answer.2.1.sink ∧
      Answers world.1.sink.faults closing.report calls answer.1 := by
  have opening (name : String) (world : Host × σ) : (State.opening name world).Issued world.1.sink [] :=
    ⟨.refl _, rfl⟩
  cases runs with
  | @ofDirectory name dir protocol history closing closes =>
    obtain ⟨calls, issued⟩ := closes.issued ⟨[], opening name world⟩
    obtain ⟨more, told⟩ := issued.handOut
    exact ⟨calls ++ more, told⟩
  | @ofSuite suite cacheRoot generate history closing closes =>
    have begun := opening suite.name (suite.enter world).2
    obtain ⟨calls, issued⟩ : ∃ calls, closing.Issued world.1.sink calls := by
      cases closes with
      | unprepared prepares => exact ⟨[], prepares.issued begun⟩
      | compared prepares closes => exact closes.issued ⟨[], prepares.issued begun⟩
    obtain ⟨more, told⟩ := issued.handOut
    exact ⟨calls ++ more, told⟩

theorem Runs.undisturbed (runs : errand.Runs responder jobs world history closing answer)
    (never : world.1.sink.faults = .never) : answer.1 = .ok closing.report := by
  obtain ⟨calls, -, answers⟩ := runs.answers
  generalize answer.1 = told at answers
  cases answers with
  | undisturbed => rfl
  | @disturbed _ _ call _ struck =>
    rw [never, SinkFaults.strikes_never] at struck
    cases struck

/-- With another sink an errand has the same runs up to the answer. -/
theorem Runs.withSink (runs : errand.Runs responder jobs world history closing answer) (sink : Sink) :
    ∃ other left lastSink, closing.SameBehind other ∧ left.2 = (answer.2.1.withSink lastSink, answer.2.2) ∧
      errand.Runs responder jobs (world.1.withSink sink, world.2) history other left := by
  have behind {other : State σ} (same : closing.SameBehind other) :
      ∃ lastSink, (handOut other).2 = ((handOut closing).2.1.withSink lastSink, (handOut closing).2.2) := by
    obtain ⟨otherSink, otherError, rfl⟩ := same
    obtain ⟨left, here⟩ := handOut_world closing
    obtain ⟨right, there⟩ := handOut_world (closing.withProgress otherSink otherError)
    rw [here, there]
    exact ⟨right, rfl⟩
  cases runs with
  | @ofDirectory name dir protocol history closing closes =>
    obtain ⟨other, same, again⟩ := closes.withProgress sink none
    obtain ⟨lastSink, world⟩ := behind same
    exact ⟨other, _, lastSink, same, world, .ofDirectory again⟩
  | @ofSuite suite cacheRoot generate history closing closes =>
    obtain ⟨other, same, again⟩ : ∃ other, closing.SameBehind other ∧
        suite.Closes cacheRoot generate responder jobs (suite.enter (world.1.withSink sink, world.2)).2 history other := by
      cases closes with
      | unprepared prepares => exact ⟨_, ⟨sink, none, rfl⟩, .unprepared (prepares.withProgress sink none)⟩
      | compared prepares closes =>
        obtain ⟨other, same, again⟩ := closes.withProgress sink none
        exact ⟨other, same, .compared (prepares.withProgress sink none) again⟩
    obtain ⟨lastSink, left⟩ := behind same
    refine ⟨other, _, lastSink, same, ?_, .ofSuite again⟩
    simp only [left]
    rfl

/-- Progress calls that fail change nothing about a run but its answer, which
is the first of them in the order of issue instead of the report. -/
theorem disturbed_beside_calm (runs : errand.Runs responder jobs world history closing answer) :
    ∃ calls, world.1.sink.Issues calls answer.2.1.sink ∧
      Answers world.1.sink.faults closing.report calls answer.1 ∧
      ((∃ failure, answer.1 = .error failure) ↔ ∃ call ∈ calls, world.1.sink.faults.strikes call = true) ∧
      (∀ failure, answer.1 = .error failure → failure.message = "failed to write progress") ∧
      ∀ sink : Sink, sink.faults = .never → ∃ calm lastSink,
        errand.Runs responder jobs (world.1.withSink sink, world.2) history calm
          (.ok closing.report, (answer.2.1.withSink lastSink, answer.2.2)) ∧
        calm.report = closing.report := by
  obtain ⟨calls, issues, answers⟩ := runs.answers
  refine ⟨calls, issues, answers, ?_, ?_, fun sink never => ?_⟩
  · generalize answer.1 = told at answers
    cases answers with
    | undisturbed spared =>
      constructor
      · rintro ⟨failure, failed⟩
        cases failed
      · rintro ⟨call, member, struck⟩
        rw [spared call member] at struck
        cases struck
    | @disturbed early late call spared struck =>
      exact ⟨fun _ => ⟨call, List.mem_append_right _ List.mem_cons_self, struck⟩, fun _ => ⟨_, rfl⟩⟩
  · intro failure failed
    rw [failed] at answers
    cases answers
    rfl
  · obtain ⟨calm, ⟨told, left⟩, lastSink, ⟨_, _, rfl⟩, behind, again⟩ := runs.withSink sink
    obtain rfl : told = .ok closing.report := again.undisturbed never
    obtain rfl : left = _ := behind
    exact ⟨_, lastSink, again, rfl⟩

/-- The symbol of the first module is not written, and the flush behind the
symbol of the second one fails too. -/
theorem twoModules_disturbed :
    let world (faults : SinkFaults) : Host × Unit := (twoModulesState.host.withSink (.fresh faults), ())
    let disturbed := world ⟨(· == 0), (· == 0)⟩
    let errand : Errand := .ofDirectory "two" (.ofString "/") .selfConsistency
    let responder := answering secondFails fun _ => false
    ∃ history closing after, errand.Runs responder 1 disturbed history closing (.error (.progress (.write 0)), after) ∧
      after.1.sink.issued = [.write 0, .write 1, .flush 0] ∧
      closing.report.passed = [.ofString "/a.ll"] ∧ closing.report.wrong = [.ofString "/b.ll"] ∧
      ∃ calm left, errand.Runs responder 1 (world .never) history calm (.ok closing.report, left) := by
  intro world disturbed errand responder
  let state : State Unit := .opening "two" disturbed
  let closing := evaluate (.ofString "/") .selfConsistency responder ⟨1, id⟩ state
  have finished : (Pool.run (duty .selfConsistency responder) id (.at_ (.ofString "/")) 1 state).finished = true := by
    decide
  obtain ⟨history, closes, -⟩ := @evaluate_closes _ _ _ _ responder ⟨1, id⟩ state finished
  have runs : errand.Runs responder 1 disturbed history closing (handOut closing) := .ofDirectory closes
  obtain ⟨-, -, -, -, -, calmly⟩ := disturbed_beside_calm runs
  obtain ⟨calm, lastSink, again, -⟩ := calmly (.fresh .never) rfl
  have told : (handOut closing).1 = .error (.progress (.write 0)) := by decide
  refine ⟨history, closing, (handOut closing).2, ?_, by decide, by decide, by decide, calm, _, again⟩
  rw [← told]
  exact runs

end Errand
end ExitParity
