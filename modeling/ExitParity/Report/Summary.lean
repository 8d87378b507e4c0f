import ExitParity.Report

namespace ExitParity

/-- A device that takes bytes: whether it took all of them, and its new state. -/
abbrev Writer (ω : Type) := Bytes → ω → Bool × ω

/-- Write one piece after another and stop at the first one refused. -/
def writePieces {ω : Type} (put : Writer ω) : List Bytes → ω → Bool × ω
  | [], sink => (true, sink)
  | piece :: rest, sink =>
    match put piece sink with
    | (true, sink) => writePieces put rest sink
    | (false, sink) => (false, sink)

/-- Something that is written to a device, up to the first line that is refused. -/
abbrev Writing (ω : Type) := ExceptT Unit (StateM ω)

/-- Write something to a device, and tell whether the device took all of it. -/
def Writing.perform {ω : Type} (writing : Writing ω Unit) (sink : ω) : Bool × ω :=
  match writing.run sink with
  | (.ok (), sink) => (true, sink)
  | (.error (), sink) => (false, sink)

/-- A sink with room for a limited number of bytes. -/
structure CappedSink where
  stored : Bytes
  room : Nat
  deriving DecidableEq

/-- Take the bytes there is room for. -/
def CappedSink.put : Writer CappedSink := fun bytes sink =>
  (bytes.length ≤ sink.room, ⟨sink.stored ++ bytes.take sink.room, sink.room - bytes.length⟩)

namespace Report

/-- Paths numbered from zero, one to a line. -/
def numbered (paths : List Path) : List String :=
  paths.zipIdx.map fun (path, index) => s!"  {index}) {path.display}"

/-- A heading with its paths and an empty line, or nothing for no paths. -/
def section_ (heading : String) (paths : List Path) : List String :=
  if paths.isEmpty then [] else heading :: numbered paths ++ [""]

/-- The lines of the readable summary: warnings, the verdict, and what failed. -/
def summaryLines (report : Report) : List String :=
  [s!"suite {report.suite}:"] ++
  (report.prepareFailure.toList.map fun failure => s!"warning: artifact generation failed: {failure}") ++
  section_ s!"{report.failedReference.length} reference tests failed!" report.failedReference ++
  section_ s!"{report.wrong.length} tests have a nonzero reference exit code!" report.wrong ++
  [report.verdict.message] ++
  numbered report.failed ++
  (if report.interrupted then
    [s!"{report.processed} artifacts processed before the interrupt ({report.passed.length} passed, {report.failed.length} failed)"]
  else [])

/-- The summary as it is written: every line with its line feed. -/
def summaryPieces (report : Report) : List Bytes :=
  report.summaryLines.map fun line => utf8 line ++ [0x0a]

/-- The whole summary text. -/
def summary (report : Report) : Bytes := report.summaryPieces.flatten

section Writing

variable {ω : Type} (put : Writer ω)

/-- Write a line with its line feed. -/
def writeLine (line : String) : Writing ω Unit := fun sink =>
  match put (utf8 line ++ [0x0a]) sink with
  | (true, sink) => (.ok (), sink)
  | (false, sink) => (.error (), sink)

/-- Write paths numbered from zero, one to a line. -/
def writeNumbered (paths : List Path) : Writing ω Unit :=
  paths.zipIdx.forM fun (path, index) => writeLine put s!"  {index}) {path.display}"

/-- Write a heading with its paths and an empty line, or nothing for no paths. -/
def writeSection (heading : String) (paths : List Path) : Writing ω Unit := do
  if paths.isEmpty then return
  writeLine put heading
  writeNumbered put paths
  writeLine put ""

/-- Write warnings, the verdict, and what failed. -/
def writeLines (report : Report) : Writing ω Unit := do
  writeLine put s!"suite {report.suite}:"
  if let some failure := report.prepareFailure then
    writeLine put s!"warning: artifact generation failed: {failure}"
  writeSection put s!"{report.failedReference.length} reference tests failed!" report.failedReference
  writeSection put s!"{report.wrong.length} tests have a nonzero reference exit code!" report.wrong
  writeLine put report.verdict.message
  if !report.failed.isEmpty then writeNumbered put report.failed
  if report.interrupted then
    writeLine put s!"{report.processed} artifacts processed before the interrupt ({report.passed.length} passed, {report.failed.length} failed)"

/-- Write the summary to any device, and tell whether it took all of it. -/
def writeSummary (report : Report) (sink : ω) : Bool × ω := (report.writeLines put).perform sink

end Writing

end Report
end ExitParity
