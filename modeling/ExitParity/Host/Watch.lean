import ExitParity.Host
import ExitParity.Stage

namespace ExitParity

/-- A watch over a tool that runs on a file. -/
structure Watch where
  tool : Tool
  file : Path
  process : Nat
  started : Nat
  phase : Invocation.Phase
  /-- The time of the next look. -/
  due : Nat

/-- A way to poll a process once a moment has come, and to read the token and
the time behind that. A poll may show anything, and others may go on meanwhile. -/
structure Polling where
  poll (process due : Nat) (host : Host) : Invocation.Poll × Host
  due_le (process due : Nat) (host : Host) : due ≤ (poll process due host).1.time
  time_le (process due : Nat) (host : Host) : (poll process due host).1.time ≤ (poll process due host).1.read
  read_le (process due : Nat) (host : Host) : (poll process due host).1.read ≤ (poll process due host).1.checked
  checked_le (process due : Nat) (host : Host) : (poll process due host).1.checked ≤ (poll process due host).2.clock
  token (process due : Nat) (host : Host) : (poll process due host).2.token = host.token

/-- What is to be seen of a process. -/
def Host.sighting (host : Host) (process : Nat) : Invocation.Sighting :=
  match host.statusOf? process with
  | some status => .ended status
  | none => .running

/-- Let the processes of the host go on up to a moment, and see what has become
of one of them. None of them is ever lost. -/
def Polling.ofHost : Polling where
  poll process due host :=
    let host := host.advanceTo due
    (⟨host.sighting process, host.clock, host.clock, host.clock⟩, host)
  due_le _ due host := host.due_le_advanceTo due
  time_le _ _ _ := Nat.le_refl _
  read_le _ _ _ := Nat.le_refl _
  checked_le _ _ _ := Nat.le_refl _
  token _ due host := (host.passes_advanceTo due).token

namespace Tool

def interrupted (tool : Tool) (file : Path) : ToolError :=
  .interrupted tool.program.display file.display

def unlaunched (tool : Tool) (file : Path) (cause : Fault) : ToolError :=
  .launch tool.program.display file.display cause

/-- The arguments that the program is started with. The file is the last one. -/
def argv (tool : Tool) (file : Path) : List Bytes := tool.program.bytes :: tool.args ++ [file.bytes]

/-- Whether a zero byte keeps the program from being started. -/
def hasZero (tool : Tool) (file : Path) : Bool :=
  (tool.argv file ++ tool.env.flatMap fun (name, value) => [name, value]).any fun bytes => bytes.elem 0

/-- The open files of the program: nothing to read, and its output let through
or swallowed. -/
def openFiles (tool : Tool) : List OpenFile :=
  if tool.showOutput then [Host.nullFile, Host.streamFile .out, Host.streamFile .err]
  else [Host.nullFile, Host.nullFile, Host.nullFile]

/-- The time limit of a run. -/
def limit (tool : Tool) : Option Nat := tool.timeout.map (· * Invocation.millisecond)

/-- The watch over a tool that was started on a file as a process. -/
def watchOver (tool : Tool) (file : Path) (process : Nat) (host : Host) : Watch :=
  ⟨tool, file, process, host.clock, .watching, host.clock⟩

/-- Start a tool on a file, and watch over it. Nothing is started when the
token is set. -/
def begin (tool : Tool) (file : Path) (host : Host) : Stage Watch Answer × Host :=
  let (isSet, host) := host.readToken
  if isSet then (.finished (.error (tool.interrupted file)), host)
  else if tool.hasZero file then (.finished (.error (tool.unlaunched file .nulByte)), host)
  else match host.imageOf tool.program (tool.argv file) tool.env with
    | .error errno => (.finished (.error (tool.unlaunched file (.system errno))), host)
    | .ok image =>
      let (process, host) := host.start image (host.environment tool.env) tool.openFiles
      (.pending (tool.watchOver file process host), host)

end Tool

namespace Watch

/-- The answer that the end of a watch stands for. -/
def answer (watch : Watch) : Invocation.Result → Answer
  | .exited code => .ok (.exited code)
  | .timedOut => .ok .timeout
  | .interrupted => .error (watch.tool.interrupted watch.file)
  | .lost cause => .error (.wait watch.tool.program.display watch.file.display cause)

/-- Take the status of the process, or kill it first. -/
def cleanUp (watch : Watch) (cleanup : Invocation.Cleanup) (host : Host) : Host :=
  match cleanup with
  | .collected => host.collect watch.process
  | .killedAndReaped => host.killAndReap watch.process

/-- The end of a watch: its answer, and the process cleaned up. -/
def conclude (watch : Watch) (ending : Invocation.Ending) (host : Host) : Answer × Host :=
  (watch.answer ending.result, (watch.cleanUp ending.cleanup host).past ending.time)

/-- Let time pass up to the next look, and look. -/
def lookBy (polling : Polling) (watch : Watch) (host : Host) : Stage Watch Answer × Host :=
  let (poll, host) := polling.poll watch.process watch.due host
  match Invocation.look host.token watch.tool.limit watch.started watch.phase poll with
  | .ok phase => (.pending { watch with phase, due := host.clock + Invocation.pollInterval }, host)
  | .error ending =>
    let (answer, host) := watch.conclude ending host
    (.finished answer, host)

/-- Watch over a tool until its end, for at most so many looks. -/
def toEndBy (polling : Polling) : Nat → Watch → Host → Answer × Host
  | 0, watch, host => (.error (watch.tool.interrupted watch.file), host)
  | looks + 1, watch, host =>
    match watch.lookBy polling host with
    | (.finished answer, host) => (answer, host)
    | (.pending watch, host) => toEndBy polling looks watch host

/-- The number of looks after which a watch is given up. -/
def lookLimit : Nat := 1000000000

/-- Look at a process of the host. -/
def look (watch : Watch) (host : Host) : Stage Watch Answer × Host := watch.lookBy .ofHost host

end Watch

namespace Tool

/-- Run a tool on a file and wait for its end, with some way to poll the
process. -/
def invokeBy (polling : Polling) (tool : Tool) (file : Path) (host : Host) : Answer × Host :=
  match tool.begin file host with
  | (.finished answer, host) => (answer, host)
  | (.pending watch, host) => watch.toEndBy polling Watch.lookLimit host

/-- Run a tool on a file as a process of the host. -/
def invoke (tool : Tool) (file : Path) (host : Host) : Answer × Host := tool.invokeBy .ofHost file host

end Tool
end ExitParity
