import ExitParity.CommandLine
import ExitParity.Evaluation
import ExitParity.Report.Storage
import ExitParity.Report.Summary

namespace ExitParity.Session

/-- The exit status of a run that passed, of one that did not, of a command
line that is refused, and of a run that was interrupted. -/
def passedStatus : Nat := 0

def failedStatus : Nat := 1

def usageStatus : Nat := 2

def interruptedStatus : Nat := 130

/-- The suites of the given names in the given order, or every suite there is
when no name is given. -/
def selectSuites (names : List String) (family : Family) (protocol : Protocol) : Except Failure (List Suite) :=
  if names.isEmpty then
    let all := Suite.registered family protocol
    if all.isEmpty then .error (.noSuites family protocol) else .ok all
  else names.mapM fun name =>
    match Suite.find? name family protocol with
    | some suite => .ok suite
    | none => .error (.unknownSuite name family protocol)

def toolRequest (options : ToolOptions) : Toolchain.Request where
  assemblerVersions := options.family.versions
  interpreterVersions := options.family.versions
  candidate := options.candidate
  candidateArgs := options.candidateArgs
  timeout := if options.timeout > 0 then some (options.timeout * 1000) else none
  showOutput := options.showOutput
  versionTag := utf8 options.family.tag

/-- Find the tools of a run on the host's search path. -/
def resolve (options : ToolOptions) (host : Host) : Except Failure Toolchain × Host :=
  match Toolchain.resolve Host.surroundings (toolRequest options) host.searchPath host with
  | (.ok tools, host) => (.ok tools, host)
  | (.error error, host) => (.error (.lookup error), host)

def evaluationOptions (options : ToolOptions) (schedule : Pool.Schedule) (host : Host) : EvaluationOptions where
  jobs := effectiveJobs options.jobs host.processors
  schedule := schedule

/-- The command that regenerates artifacts, without a time limit. -/
def generator (options : RunOptions) : Option Tool :=
  options.generateCommand.map fun command => (Tool.ofProgram command).withArgs options.generateArgs

def printSummary (report : Report) (host : Host) : Host := host.print .out report.summary

variable {τ σ : Type}

/-- Run suites one after another until the token is found set. -/
def runSuites (responder : Responder τ (Host × σ)) (options : RunOptions) (evaluation : EvaluationOptions) :
    List Suite → List Report → Host × σ → Except Failure (List Report) × (Host × σ)
  | [], reports, world => (.ok reports, world)
  | suite :: rest, reports, (host, bench) =>
    let (isSet, host) := host.readToken
    if isSet then (.ok reports, (host, bench))
    else match suite.run options.cacheDir (generator options) responder evaluation (host, bench) with
      | (.error failure, world) => (.error failure, world)
      | (.ok report, (host, bench)) =>
        runSuites responder options evaluation rest (reports ++ [report]) (printSummary report host, bench)

/-- Store the reports if that is asked for, and tell the exit status. -/
def finish (reports : List Report) (reportJson : Option Path) (host : Host) : Except Failure Nat × Host :=
  let summary := RunSummary.of reports
  let sent : Except Failure Host := match reportJson with
    | none => .ok host
    | some path => summary.send path host
  match sent with
  | .error failure => (.error failure, host)
  | .ok host =>
    let (isSet, host) := host.readToken
    if isSet || reports.any (·.interrupted) then (.ok interruptedStatus, host)
    else (.ok (if summary.success then passedStatus else failedStatus), host)

/-- Run suites of the cache with the given responder. -/
def runSelected (responder : Responder τ (Host × σ)) (options : RunOptions) (evaluation : EvaluationOptions)
    (suites : List Suite) (world : Host × σ) : Except Failure Nat × (Host × σ) :=
  match runSuites responder options evaluation suites [] world with
  | (.error failure, world) => (.error failure, world)
  | (.ok reports, (host, bench)) =>
    let (result, host) := finish reports options.tools.reportJson host
    (result, (host, bench))

/-- Run one directory with the given responder. -/
def runOne (responder : Responder τ (Host × σ)) (options : DirOptions) (evaluation : EvaluationOptions)
    (world : Host × σ) : Except Failure Nat × (Host × σ) :=
  match runDirectory options.dir.display options.dir options.protocol responder evaluation world with
  | (.error failure, world) => (.error failure, world)
  | (.ok report, (host, bench)) =>
    let (result, host) := finish [report] options.tools.reportJson (printSummary report host)
    (result, (host, bench))

/-- Run suites of the cache. The suites are chosen before the tools are found. -/
def run (options : RunOptions) (schedule : Pool.Schedule) (host : Host) : Except Failure Nat × Host :=
  match selectSuites options.suites options.tools.family options.protocol with
  | .error failure => (.error failure, host)
  | .ok suites =>
    match resolve options.tools host with
    | (.error failure, host) => (.error failure, host)
    | (.ok tools, host) =>
      let evaluation := evaluationOptions options.tools schedule host
      let (result, (host, ())) := runSelected tools.responder options evaluation suites (host, ())
      (result, host)

/-- Run one directory. The directory is checked before the tools are found. -/
def dir (options : DirOptions) (schedule : Pool.Schedule) (host : Host) : Except Failure Nat × Host :=
  if !host.tree.isDirectory options.dir then (.error (.notDirectory options.dir), host)
  else match resolve options.tools host with
    | (.error failure, host) => (.error failure, host)
    | (.ok tools, host) =>
      let evaluation := evaluationOptions options.tools schedule host
      let (result, (host, ())) := runOne tools.responder options evaluation (host, ())
      (result, host)

/-- A text with blanks behind it up to a width. -/
def column (width : Nat) (text : String) : String := text ++ String.ofList (List.replicate (width - text.length) ' ')

/-- The line of a suite in the list of suites. -/
def listLine (suite : Suite) : String :=
  s!"{column 18 suite.name} {column 4 suite.family.tag} {column 17 suite.protocol.name} {suite.cacheSubdir}\n"

def listing : String := String.join (Suite.registry.map listLine)

/-- The text of a cause with every line moved in. -/
def indented (text : String) : String :=
  String.ofList (text.toList.flatMap fun c => if c = '\n' then ['\n', ' ', ' ', ' ', ' '] else [c])

/-- What is printed about a failure. -/
def complaint (failure : Failure) : String :=
  match failure.cause? with
  | none => s!"Error: {failure.message}\n"
  | some cause => s!"Error: {failure.message}\n\nCaused by:\n    {indented cause}\n"

/-- Do what is asked, and tell the exit status or why it could not be done. -/
def perform (request : Request) (schedule : Pool.Schedule) (host : Host) : Except Failure Nat × Host :=
  match request with
  | .run options => run options schedule host
  | .dir options => dir options schedule host
  | .list => (.ok passedStatus, host.print .out (utf8 listing))

/-- Do what is asked, print what went wrong, and tell the exit status. -/
def carryOut (request : Request) (schedule : Pool.Schedule) (host : Host) : Nat × Host :=
  let (result, host) := perform request schedule host
  match result with
  | .ok status => (status, host)
  | .error failure => (failedStatus, host.print .err (utf8 (complaint failure)))

/-- Run the program with the given arguments. -/
def execute (args : List Bytes) (schedule : Pool.Schedule) (host : Host) : Nat × Host :=
  match Request.ofArgs args host.env with
  | .ok request => carryOut request schedule host
  | .error .usage => (usageStatus, host)
  | .error .help => (passedStatus, host)

end ExitParity.Session
