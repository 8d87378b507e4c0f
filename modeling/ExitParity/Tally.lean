import ExitParity.Console
import ExitParity.Report

namespace ExitParity.Report

/-- File an outcome and echo its symbol behind so many pieces printed
elsewhere. The outcome counts even when the symbol could not be written, and a
symbol not written is not flushed. -/
def record (report : Report) (sink : Sink) (printed : Nat) (path : Path) (outcome : Outcome) :
    Except SinkError Unit × Report × Sink :=
  let filed := report.file path outcome
  match sink.write printed (utf8 (String.singleton outcome.symbol)) with
  | (.error error, sink) => (.error error, filed, sink)
  | (.ok (), sink) =>
    let (result, sink) := sink.flush
    (result, filed, sink)

def failPreparation (report : Report) (failure : String) : Report :=
  { report with prepareFailure := some failure }

def interrupt (report : Report) : Report :=
  { report with interrupted := true }

/-- End the line of symbols, if there is one, and hand out the report. -/
def finish (report : Report) (sink : Sink) (printed : Nat) : Except SinkError Report × Sink :=
  let (ended, sink) := if report.processed > 0 then sink.write printed [0x0a] else (.ok (), sink)
  match ended with
  | .error error => (.error error, sink)
  | .ok () =>
    match sink.flush with
    | (.error error, sink) => (.error error, sink)
    | (.ok (), sink) => (.ok report, sink)

end ExitParity.Report
