import ExitParity.Env
import ExitParity.Host.Program
import ExitParity.Invocation
import ExitParity.Launch
import ExitParity.Suite
import ExitParity.Tool

namespace ExitParity

/-- The thread of a process, and the time from which on it can make a step. -/
structure Strand where
  process : Nat
  ready : Nat
  thread : Thread Machine

/-- Everything around the program: a machine with its running threads, the
program's own environment, the token, the number of processors, and the sink. -/
structure Host extends Machine where
  env : Env
  /-- Names of variables, among them all that the program was given. -/
  names : List Bytes
  token : Token
  processors : Nat
  strands : List Strand
  /-- Where the progress symbols go. No process knows of it. -/
  sink : Sink

namespace Host

/-- A host with nothing running. -/
def idle (tree : FileTree) (env : Env) (names : List Bytes) (token : Token) (faults : SinkFaults) (processors : Nat) :
    Host where
  toMachine := .idle tree
  env := env
  names := names
  token := token
  processors := processors
  strands := []
  sink := .fresh faults

/-- Read the token. Every reading has a moment of its own, so whichever of
them is the first to find the token set, some token makes it so. -/
def readToken (host : Host) : Bool × Host :=
  (host.token.isSet host.clock, { host with clock := host.clock + 1 })

def cancel (host : Host) : Host := { host with token := host.token.cancel host.clock }

def print (host : Host) (stream : Stream) (bytes : Bytes) : Host :=
  { host with console := host.console.print stream bytes }

/-- The host with another sink. -/
def withSink (host : Host) (sink : Sink) : Host := { host with sink }

/-- Everything printed so far in order of time, the progress symbols among it. -/
def pieces (host : Host) : List (Stream × Bytes) := host.sink.among host.console.pieces

/-- The text of the streams that `shown` accepts, in order of time. -/
def text (host : Host) (shown : Stream → Bool) : Bytes :=
  (host.pieces.filter fun piece => shown piece.1).flatMap (·.2)

/-- The time of a strand's next step, if it can make one. -/
def due? (host : Host) (strand : Strand) : Option Nat :=
  if !host.isRunning strand.process then none
  else match strand.thread with
    | .wait ready _ => if ready host.toMachine then some (max strand.ready host.clock) else none
    | _ => some (max strand.ready host.clock)

/-- The strand whose step is the earliest, by its index, with the time. -/
def next? (host : Host) : Option (Nat × Nat) :=
  host.strands.zipIdx.foldl (fun best (strand, index) =>
    match host.due? strand, best with
    | none, best => best
    | some time, none => some (index, time)
    | some time, some (first, earliest) => if time < earliest then some (index, time) else some (first, earliest)) none

/-- Put a strand back as it is after a step, with another one if it started
one, and drop the strands of ended processes. -/
def putBack (host : Host) (index : Nat) (strand : Strand) (others : List Strand) : Host :=
  { host with
    strands := (host.strands.set index strand ++ others).filter fun strand =>
      (host.statusOf? strand.process).isNone && (host.process? strand.process).isSome }

/-- The time of one step. -/
def stepTime : Nat := 1000

/-- Make the step of a strand at a time. -/
def step (host : Host) (index : Nat) (strand : Strand) (time : Nat) : Host :=
  let host := { host with clock := time }
  match strand.thread with
  | .ended =>
    let host := { host with toMachine := host.toMachine.finish strand.process (.ofExit 0) }
    host.putBack index strand []
  | .act step =>
    let (thread, machine) := step host.toMachine
    { host with toMachine := machine }.putBack index { strand with ready := time + stepTime, thread } []
  | .rest duration next => host.putBack index { strand with ready := time + duration, thread := next () } []
  | .wait _ next => host.putBack index { strand with ready := time, thread := next () } []
  | .fork number child next =>
    host.putBack index { strand with ready := time + stepTime, thread := next () } [⟨number, time + stepTime, child ()⟩]

/-- The number of steps after which the processes are left alone. -/
def stepLimit : Nat := 1000000000

/-- Let the processes make their steps up to a time, or until something is so. -/
def runWhile (goesOn : Machine → Bool) (limit : Option Nat) : Nat → Host → Host
  | 0, host => host
  | fuel + 1, host =>
    if !goesOn host.toMachine then host
    else match host.next? with
      | none => host
      | some (index, time) =>
        if limit.any (· < time) then host
        else match host.strands[index]? with
          | none => host
          | some strand => runWhile goesOn limit fuel (host.step index strand time)

/-- Let time pass up to a moment. -/
def advanceTo (host : Host) (time : Nat) : Host :=
  let host := runWhile (fun _ => true) (some time) stepLimit host
  { host with clock := max host.clock time }

/-- The host behind a moment. -/
def past (host : Host) (moment : Nat) : Host := { host with clock := max host.clock (moment + 1) }

/-- Let the processes go on until something is so. -/
def await (ready : Machine → Bool) (host : Host) : Host :=
  let after := runWhile (fun machine => !ready machine) none stepLimit host
  { after with clock := max host.clock after.clock }

/-- The environment that a program is started with. -/
def environment (host : Host) (entries : List (Bytes × Bytes)) : List (Bytes × Bytes) :=
  let names := (host.names ++ versionVariable :: entries.map fun entry => (Env.effect entry).1).eraseDups
  (host.env.overlay entries).entries (if entries.isEmpty then names else names.mergeSort Bytes.precedes)

/-- Start an image as a process with open files for its first descriptors. -/
def start (host : Host) (image : Image) (env : List (Bytes × Bytes)) (files : List OpenFile) : Nat × Host :=
  let (descriptors, machine) := files.zipIdx.foldl (fun (descriptors, machine) (file, descriptor) =>
    let (opened, machine) := machine.addFile file
    (descriptors ++ [(descriptor, opened)], machine)) (([] : List (Nat × Nat)), host.toMachine)
  let (number, machine) := machine.spawn descriptors
  let program : Program := { process := number, argv := image.argv, env }
  let strand : Strand := ⟨number, host.clock, Launch.image image program⟩
  (number, { host with toMachine := machine, strands := host.strands ++ [strand] })

def nullFile : OpenFile := ⟨.device .null, true, true⟩

def streamFile (stream : Stream) : OpenFile := ⟨.stream stream, false, true⟩

/-- Take the status of a process that ended. -/
def collect (host : Host) (number : Nat) : Host := { host with toMachine := host.toMachine.reap number }

/-- Kill a process and take its status. -/
def killAndReap (host : Host) (number : Nat) : Host :=
  let machine := host.toMachine.modify number (Machine.strike Signal.kill)
  { host with
    toMachine := machine.reap number
    strands := host.strands.filter (·.process != number) }

/-- Find the program of a tool. With a search path among the tool's own
variables that one is searched for a bare name, and a file of no known format
that is found there is a text for the shell. -/
def imageOf (host : Host) (program : Path) (argv : List Bytes) (entries : List (Bytes × Bytes)) : Except Errno Image :=
  let searches := entries.any fun entry => entry.1 == utf8 "PATH"
  let searchPath := if searches then (host.env.overlay entries).get? (utf8 "PATH") else host.env.get? (utf8 "PATH")
  Image.find host.tree (host.environment entries) searchPath (searches && !program.bytes.elem Path.slash) program argv

/-- Take what is written to a pipe until all who could write have closed it
and a process has ended. -/
def drain (pipe number : Nat) : Nat → Bytes → Host → Bytes × Host
  | 0, before, host => (before, host)
  | fuel + 1, before, host =>
    let goesOn (machine : Machine) : Bool :=
      machine.waiting pipe == 0 && (machine.holds pipe true || (machine.statusOf? number).isNone)
    let host := runWhile goesOn none stepLimit host
    let bytes := ((host.pipes[pipe]?.map (·.pieces)).getD []).flatten
    let host := { host with pipes := host.pipes.setIfInBounds pipe (.ofBytes []) }
    if bytes.isEmpty then (before, host) else drain pipe number fuel (before ++ bytes) host

/-- Hand bytes to those who read a named pipe. This waits for one to open it,
and until no more is left than the pipe has room for. -/
def feed (pipe : Nat) (bytes : Bytes) (host : Host) : Except Errno Host :=
  let (opened, machine) := (host.toMachine.countOpening pipe false true).addFile ⟨.pipe pipe, false, true⟩
  let descriptor := machine.freeDescriptor Machine.ownNumber
  let waiting := { host with toMachine := machine.setDescriptor Machine.ownNumber descriptor (some opened) }
  let isMet := (machine.meeting? opened).getD fun _ => true
  let met := (waiting.await isMet).await (·.canWrite Machine.ownNumber descriptor)
  if met.holds pipe false then
    let filled := { met with toMachine := (met.toMachine.write Machine.ownNumber descriptor bytes).2 }
    let taken := filled.await fun machine => machine.waiting pipe ≤ Machine.pipeLimit || !machine.holds pipe false
    let closed := taken.toMachine.setDescriptor Machine.ownNumber descriptor none
    .ok { taken with toMachine := { closed with clock := max host.clock closed.clock } }
  else .error .brokenPipe

/-- What a program prints when it is asked for its version, if it can be started. -/
def versionText (program : Path) (host : Host) : Option Bytes × Host :=
  match host.imageOf program [program.bytes, utf8 "--version"] [] with
  | .error _ => (none, host)
  | .ok image =>
    let pipe := host.pipes.size
    let ((reading, _), machine) := host.toMachine.makePipe []
    let machine := machine.setDescriptor Machine.ownNumber 0 (some reading)
    let (number, host) := { host with toMachine := machine }.start image (host.environment [])
      [nullFile, ⟨.pipe pipe, false, true⟩, nullFile]
    let (text, host) := drain pipe number stepLimit [] host
    let host := { host with toMachine := host.toMachine.setDescriptor Machine.ownNumber 0 none }
    (some text, host.collect number)

/-- What the processes do and the time that passes leave the program's own
environment and the token as they are. -/
structure Passes (before after : Host) : Prop where
  env : after.env = before.env
  token : after.token = before.token

theorem Passes.refl (host : Host) : host.Passes host := ⟨rfl, rfl⟩

theorem Passes.trans {before between after : Host} (early : before.Passes between) (late : between.Passes after) :
    before.Passes after :=
  ⟨late.env.trans early.env, late.token.trans early.token⟩

theorem passes_step (host : Host) (index : Nat) (strand : Strand) (time : Nat) :
    host.Passes (host.step index strand time) := by
  unfold step
  cases strand.thread <;> exact ⟨rfl, rfl⟩

theorem passes_runWhile (goesOn : Machine → Bool) (limit : Option Nat) (fuel : Nat) (host : Host) :
    host.Passes (runWhile goesOn limit fuel host) := by
  induction fuel generalizing host with
  | zero => exact .refl host
  | succ fuel ih =>
    unfold runWhile
    split
    · exact .refl host
    · split
      · exact .refl host
      · split
        · exact .refl host
        · split
          · exact .refl host
          · exact (host.passes_step _ _ _).trans (ih _)

theorem passes_advanceTo (host : Host) (time : Nat) : host.Passes (host.advanceTo time) :=
  (passes_runWhile _ _ _ host).trans ⟨rfl, rfl⟩

theorem due_le_advanceTo (host : Host) (due : Nat) : due ≤ (host.advanceTo due).clock := Nat.le_max_right ..

theorem token_await (ready : Machine → Bool) (host : Host) : (host.await ready).token = host.token :=
  (passes_runWhile _ _ _ host).token

/-- What is fed into a pipe takes time, and leaves the token as it is. -/
theorem feed_keeps {pipe : Nat} {bytes : Bytes} {host after : Host} (fed : host.feed pipe bytes = .ok after) :
    after.token = host.token ∧ host.clock ≤ after.clock := by
  simp only [feed] at fed
  split at fed
  · obtain rfl := Except.ok.inj fed
    exact ⟨by simp only [token_await], Nat.le_max_left _ _⟩
  · cases fed

end Host
end ExitParity
