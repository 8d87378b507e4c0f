import ExitParity.Console
import ExitParity.Execution
import ExitParity.Host.Signal
import ExitParity.Host.Tree

namespace ExitParity

/-- What an open file stands for. A store is read and written from an offset
that everyone shares who has the file open. -/
inductive Handle where
  | store (node offset : Nat) (appends : Bool)
  | device (device : Device)
  | stream (stream : Stream)
  | pipe (pipe : Nat)

structure OpenFile where
  handle : Handle
  readable : Bool
  writable : Bool

/-- The bytes on their way through a pipe, in the pieces in which they came, and
how often the pipe was opened by its name for reading and for writing. -/
structure Pipe where
  pieces : List Bytes
  size : Nat
  readings : Nat
  writings : Nat

namespace Pipe

def ofBytes (bytes : Bytes) : Pipe := ⟨if bytes.isEmpty then [] else [bytes], bytes.length, 0, 0⟩

def push (pipe : Pipe) (bytes : Bytes) : Pipe :=
  { pipe with pieces := pipe.pieces ++ [bytes], size := pipe.size + bytes.length }

/-- Take up to `count` bytes from some pieces, with what is left of them. -/
def takeFrom : Nat → List Bytes → Bytes × List Bytes
  | _, [] => ([], [])
  | count, piece :: pieces =>
    let taken := piece.take count
    if taken.length < count then
      let (more, left) := takeFrom (count - taken.length) pieces
      (taken ++ more, left)
    else
      let rest := piece.drop count
      (taken, if rest.isEmpty then pieces else rest :: pieces)

def take (pipe : Pipe) (count : Nat) : Bytes × Pipe :=
  let (taken, left) := takeFrom (min count pipe.size) pipe.pieces
  (taken, { pipe with pieces := left, size := pipe.size - taken.length })

end Pipe

/-- What processes use and can be kept from using more of. -/
inductive Resource where
  | time
  | file
  | data
  | stack
  | dump
  | memory
  | lockedMemory
  | processes
  | files
  | addresses
  | locks
  | priority
  deriving DecidableEq

/-- How a process stands. One that ended keeps its status. -/
inductive Life where
  | running
  | stopped
  | ended (status : WaitStatus)
  deriving DecidableEq

/-- How much of a resource a process may use, and how far it may raise that
itself. Nothing stands for as much as there is. -/
structure Limit where
  resource : Resource
  soft : Option Nat
  hard : Option Nat

structure Process where
  number : Nat
  parent : Nat
  /-- The process whose number stands for it and the others of its group. -/
  group : Nat
  life : Life
  /-- Its descriptors with the numbers of the open files. -/
  descriptors : List (Nat × Nat)
  cwd : Nat
  /-- The permissions that it withholds from the files it makes. -/
  mask : Nat
  ignored : List Nat
  caught : List Nat
  /-- The caught signals that it has not dealt with. -/
  pending : List Nat
  /-- What it has printed but not written yet, the last first, and how much. -/
  unwritten : List Bytes
  unwrittenSize : Nat
  /-- Why something that it printed could not be written. -/
  unwritable : Option Errno
  limits : List Limit

/-- How much of a resource a process may use. -/
def Process.limit? (process : Process) (resource : Resource) : Option Nat :=
  (process.limits.find? (·.resource == resource)).bind (·.soft)

/-- What processes see and change: the files, the time in nanoseconds with the
moment from which on it is counted, what has been printed, the processes
themselves, and what they have open. -/
structure Machine where
  tree : FileTree
  began : Nat
  clock : Nat
  console : Console
  processes : List Process
  openFiles : Array OpenFile
  pipes : Array Pipe
  nextNumber : Nat

namespace Machine

/-- The permissions withheld where nothing else is asked for. -/
def usualMask : Nat := 0o022

/-- The number of the process that starts the others and is started by none. -/
def ownNumber : Nat := 0

/-- The limits of a process that was set none. Sizes are in bytes. -/
def usualLimits : List Limit := [
  ⟨.time, none, none⟩, ⟨.file, none, none⟩, ⟨.data, none, none⟩, ⟨.stack, some 8388608, none⟩, ⟨.dump, some 0, none⟩,
  ⟨.memory, none, none⟩, ⟨.lockedMemory, some 8388608, some 8388608⟩, ⟨.processes, none, none⟩,
  ⟨.files, some 1024, some 1048576⟩, ⟨.addresses, none, none⟩, ⟨.locks, none, none⟩, ⟨.priority, some 0, some 0⟩]

def ownProcess (cwd : Nat) : Process where
  number := ownNumber
  parent := ownNumber
  group := ownNumber
  life := .running
  descriptors := []
  cwd := cwd
  mask := usualMask
  ignored := []
  caught := []
  pending := []
  unwritten := []
  unwrittenSize := 0
  unwritable := none
  limits := usualLimits

/-- A machine with files and nothing running but its own process. -/
def idle (tree : FileTree) : Machine where
  tree := tree
  began := tree.now
  clock := 0
  console := .empty
  processes := [ownProcess tree.cwd]
  openFiles := #[]
  pipes := #[]
  nextNumber := 4711

def process? (machine : Machine) (number : Nat) : Option Process :=
  machine.processes.find? (·.number == number)

def modify (machine : Machine) (number : Nat) (change : Process → Process) : Machine :=
  { machine with processes := machine.processes.map fun process =>
      if process.number == number then change process else process }

def addFile (machine : Machine) (file : OpenFile) : Nat × Machine :=
  (machine.openFiles.size, { machine with openFiles := machine.openFiles.push file })

/-- Start a process with some descriptors. -/
def spawn (machine : Machine) (descriptors : List (Nat × Nat)) : Nat × Machine :=
  let number := machine.nextNumber
  let process := { ownProcess machine.tree.cwd with number, descriptors }
  (number, { machine with processes := machine.processes ++ [process], nextNumber := number + 1 })

/-- Start a copy of a process. What it caught it still catches, until it takes
that back itself. -/
def forkOf (machine : Machine) (parent : Nat) : Nat × Machine :=
  let number := machine.nextNumber
  let copies := (machine.process? parent).toList.map fun process =>
    { process with number, parent, pending := [], unwritten := [], unwrittenSize := 0, unwritable := none }
  (number, { machine with processes := machine.processes ++ copies, nextNumber := number + 1 })

/-- End a process. It closes all that it has open. -/
def finish (machine : Machine) (number : Nat) (status : WaitStatus) : Machine :=
  machine.modify number fun process =>
    match process.life with
    | .ended _ => process
    | _ => { process with life := .ended status, descriptors := [] }

/-- The status of a process that has ended. -/
def statusOf? (machine : Machine) (number : Nat) : Option WaitStatus :=
  match machine.process? number with
  | some { life := .ended status, .. } => some status
  | _ => none

def isRunning (machine : Machine) (number : Nat) : Bool :=
  match machine.process? number with
  | some { life := .running, .. } => true
  | _ => false

/-- Forget a process whose status was taken. -/
def reap (machine : Machine) (number : Nat) : Machine :=
  { machine with processes := machine.processes.filter (·.number != number) }

/-- What a signal does to a process. -/
def strike (signal : Nat) (process : Process) : Process :=
  match process.life with
  | .ended _ => process
  | life =>
    let ended : Process := { process with life := .ended (.ofSignal signal), descriptors := [] }
    if signal == Signal.kill then ended
    else if signal == Signal.stop then { process with life := .stopped }
    else
      let process := if signal == Signal.continue_ then { process with life := .running } else { process with life }
      if process.ignored.contains signal then process
      else if process.caught.contains signal then { process with pending := process.pending ++ [signal] }
      else if Signal.harmless.contains signal then process
      else if Signal.stopping.contains signal then { process with life := .stopped }
      else ended

/-- Send a signal; the signal zero only asks whether the process is there. -/
def signal (machine : Machine) (number signal : Nat) : Except Errno Machine :=
  match machine.process? number with
  | none => .error .noProcess
  | some _ => .ok (if signal == 0 then machine else machine.modify number (strike signal))

/-- Send a signal to all processes of a group. -/
def signalGroup (machine : Machine) (group signal : Nat) : Except Errno Machine :=
  let members := machine.processes.filter (·.group == group)
  if members.isEmpty then .error .noProcess
  else .ok (if signal == 0 then machine else members.foldl (fun machine member =>
    machine.modify member.number (strike signal)) machine)

/-- The file tree as a process sees it. -/
def treeOf (machine : Machine) (number : Nat) : FileTree :=
  { machine.tree with
    cwd := ((machine.process? number).map (·.cwd)).getD machine.tree.cwd
    now := machine.began + machine.clock }

/-- Take over the files of a tree, the working directory apart. -/
def withFiles (machine : Machine) (tree : FileTree) : Machine :=
  { machine with tree := { tree with cwd := machine.tree.cwd, now := machine.tree.now } }

def maskOf (machine : Machine) (number : Nat) : Nat := ((machine.process? number).map (·.mask)).getD usualMask

/-- The number of the open file behind a descriptor. -/
def opened? (machine : Machine) (number descriptor : Nat) : Option Nat :=
  (machine.process? number).bind fun process =>
    (process.descriptors.find? (·.1 == descriptor)).map (·.2)

def file? (machine : Machine) (number descriptor : Nat) : Option OpenFile :=
  (machine.opened? number descriptor).bind fun opened => machine.openFiles[opened]?

/-- Put an open file behind a descriptor, or nothing. -/
def setDescriptor (machine : Machine) (number descriptor : Nat) (opened : Option Nat) : Machine :=
  machine.modify number fun process =>
    { process with
      descriptors := process.descriptors.filter (·.1 != descriptor) ++ opened.toList.map (descriptor, ·) }

/-- The lowest descriptor behind the usual three that is free. -/
def freeDescriptor (machine : Machine) (number : Nat) : Nat :=
  let used := ((machine.process? number).map (·.descriptors.map (·.1))).getD []
  ((List.range (used.length + 4)).find? fun number => number ≥ 3 && !used.contains number).getD 3

/-- Whether a living process has one end of a pipe open. -/
def holds (machine : Machine) (pipe : Nat) (writing : Bool) : Bool :=
  machine.processes.any fun process =>
    process.descriptors.any fun (_, opened) =>
      match machine.openFiles[opened]? with
      | some { handle := .pipe other, readable, writable } => other == pipe && if writing then writable else readable
      | _ => false

/-- A new pipe with some bytes in it, and its two ends. -/
def makePipe (machine : Machine) (bytes : Bytes) : (Nat × Nat) × Machine :=
  let pipe := machine.pipes.size
  let machine := { machine with pipes := machine.pipes.push (.ofBytes bytes) }
  let (reading, machine) := machine.addFile ⟨.pipe pipe, true, false⟩
  let (writing, machine) := machine.addFile ⟨.pipe pipe, false, true⟩
  ((reading, writing), machine)

/-- The number of bytes waiting in a pipe. -/
def waiting (machine : Machine) (pipe : Nat) : Nat := (machine.pipes[pipe]?.map (·.size)).getD 0

/-- The number of bytes from which on a pipe takes no more. -/
def pipeLimit : Nat := 65536

/-- Whether a reading would give something, be it the end. -/
def canRead (machine : Machine) (number descriptor : Nat) : Bool :=
  match machine.file? number descriptor with
  | some { handle := .pipe pipe, .. } => machine.waiting pipe > 0 || !machine.holds pipe true
  | _ => true

def canWrite (machine : Machine) (number descriptor : Nat) : Bool :=
  match machine.file? number descriptor with
  | some { handle := .pipe pipe, .. } =>
    machine.waiting pipe < pipeLimit || !machine.holds pipe false
  | _ => true

/-- Take up to `count` bytes. No bytes are the end. -/
def read (machine : Machine) (number descriptor count : Nat) : Except Errno Bytes × Machine :=
  match machine.opened? number descriptor with
  | none => (.error .badDescriptor, machine)
  | some opened =>
    match machine.openFiles[opened]? with
    | none => (.error .badDescriptor, machine)
    | some file =>
      if !file.readable then (.error .badDescriptor, machine)
      else match file.handle with
        | .store node offset appends =>
          match machine.tree.nodes[node]? with
          | some (.file _ (.data bytes)) =>
            let taken := (bytes.drop offset).take count
            let file := { file with handle := .store node (offset + taken.length) appends }
            (.ok taken, { machine with openFiles := machine.openFiles.setIfInBounds opened file })
          | some (.directory ..) => (.error .isDirectory, machine)
          | _ => (.ok [], machine)
        | .device .null | .stream _ => (.ok [], machine)
        | .device _ => (.ok (List.replicate count 0), machine)
        | .pipe pipe =>
          let (taken, left) := (machine.pipes[pipe]?.getD (.ofBytes [])).take count
          (.ok taken, { machine with pipes := machine.pipes.setIfInBounds pipe left })

/-- Go back in a store by so many bytes. -/
def unread (machine : Machine) (number descriptor count : Nat) : Machine :=
  match machine.opened? number descriptor with
  | none => machine
  | some opened =>
    match machine.openFiles[opened]? with
    | some { handle := .store node offset appends, readable, writable } =>
      let file : OpenFile := ⟨.store node (offset - count) appends, readable, writable⟩
      { machine with openFiles := machine.openFiles.setIfInBounds opened file }
    | _ => machine

/-- Put bytes into a store from an offset on; a gap is filled with zero bytes. -/
def overwrite (former : Bytes) (offset : Nat) (bytes : Bytes) : Bytes :=
  let before := former.take offset
  before ++ List.replicate (offset - before.length) 0 ++ bytes ++ former.drop (offset + bytes.length)

/-- Write bytes, all of them. To write where nobody can read any more and to
let a file grow too large are answered by signals. -/
def write (machine : Machine) (number descriptor : Nat) (bytes : Bytes) : Except Errno Unit × Machine :=
  match machine.opened? number descriptor with
  | none => (.error .badDescriptor, machine)
  | some opened =>
    match machine.openFiles[opened]? with
    | none => (.error .badDescriptor, machine)
    | some file =>
      if !file.writable then (.error .badDescriptor, machine)
      else match file.handle with
        | .store node offset appends =>
          match machine.tree.nodes[node]? with
          | some (.file mode (.data former)) =>
            let length := former.length
            let offset := if appends then length else offset
            let kept := match (machine.process? number).bind fun process => process.limit? .file with
              | some limit => bytes.take (limit - offset)
              | none => bytes
            let content := if length == offset then former ++ kept else overwrite former offset kept
            let file := { file with handle := .store node (offset + kept.length) appends }
            let tree := (machine.tree.adjust node (.file mode (.data content))).setTime node (machine.began + machine.clock)
            let machine := { machine with
              tree
              openFiles := machine.openFiles.setIfInBounds opened file }
            if kept.length < bytes.length then (.error .tooLarge, machine.modify number (strike Signal.fileTooLarge))
            else (.ok (), machine)
          | _ => (.ok (), machine)
        | .device .full => (if bytes.isEmpty then .ok () else .error .noSpace, machine)
        | .device _ => (.ok (), machine)
        | .stream stream => (.ok (), { machine with console := machine.console.print stream bytes })
        | .pipe pipe =>
          if machine.holds pipe false then
            (.ok (), { machine with pipes := machine.pipes.modify pipe (·.push bytes) })
          else (.error .brokenPipe, machine.modify number (strike Signal.brokenPipe))

/-- The descriptor that a path in the directory of devices stands for. -/
def ownDescriptor? (path : Path) : Option Nat :=
  if path == Path.ofString "/dev/stdin" then some 0
  else if path == Path.ofString "/dev/stdout" then some 1
  else if path == Path.ofString "/dev/stderr" then some 2
  else match Bytes.stripPrefix? (utf8 "/dev/fd/") path.bytes with
    | some digits =>
      if !digits.isEmpty && digits.all fun digit => 0x30 ≤ digit && digit ≤ 0x39 then
        some (digits.foldl (fun value digit => value * 10 + (digit.toNat - 0x30)) 0)
      else none
    | none => none

/-- The open file that a path in the directory of devices stands for. -/
def reopened (machine : Machine) (number descriptor : Nat) : Except Errno (Nat × Machine) :=
  (machine.opened? number descriptor).elim (.error .noEntry) fun opened => .ok (opened, machine)

/-- Note that one end of a pipe, or both, are opened by its name. Nothing is left
in a pipe that nobody had open. -/
def countOpening (machine : Machine) (pipe : Nat) (reading writing : Bool) : Machine :=
  let isHeld := machine.holds pipe true || machine.holds pipe false
  { machine with pipes := machine.pipes.modify pipe fun pipe =>
      { (if isHeld then pipe else { pipe with pieces := [], size := 0 }) with
        readings := pipe.readings + if reading then 1 else 0
        writings := pipe.writings + if writing then 1 else 0 } }

/-- Whether an open file is an end of a pipe. -/
def isPipe (machine : Machine) (opened : Nat) : Bool :=
  match machine.openFiles[opened]? with
  | some { handle := .pipe _, .. } => true
  | _ => false

/-- What the opening of one end of a pipe by its name waits for, if it has to:
the opening of the other end. -/
def meeting? (machine : Machine) (opened : Nat) : Option (Machine → Bool) :=
  match machine.openFiles[opened]? with
  | some { handle := .pipe number, readable, writable } =>
    match machine.pipes[number]? with
    | none => none
    | some before =>
      if readable == writable || before.readings + before.writings == 0 || machine.holds number readable then none
      else some fun machine => machine.pipes[number]?.any fun now =>
        if readable then now.writings > before.writings else now.readings > before.readings
  | _ => none

/-- Open a file for reading. -/
def openForReading (machine : Machine) (number : Nat) (path : Path) : Except Errno (Nat × Machine) := do
  if let some descriptor := ownDescriptor? path then return ← machine.reopened number descriptor
  let tree := machine.treeOf number
  let node ← tree.number path
  if let some (.pipe mode pipe) := tree.nodes[node]? then
    if !FileTree.mayRead mode then throw .denied
    return (machine.countOpening pipe true false).addFile ⟨.pipe pipe, true, false⟩
  let handle ← match tree.nodes[node]? with
    | some (.device device) => pure (Handle.device device)
    | some (.file mode _) | some (.directory mode ..) =>
      if FileTree.mayRead mode then pure (Handle.store node 0 false) else throw .denied
    | _ => throw .noEntry
  return machine.addFile ⟨handle, true, false⟩

/-- Open a file for writing, and for reading too when `both`. -/
def openForWriting (machine : Machine) (number : Nat) (path : Path) (opening : FileTree.Opening) (appends both : Bool) :
    Except Errno (Nat × Machine) := do
  if let some descriptor := ownDescriptor? path then return ← machine.reopened number descriptor
  let (target, tree) ← (machine.treeOf number).openForWriting path opening
  let machine := machine.withFiles tree
  let (handle, machine) := match target with
    | .device device => (Handle.device device, machine)
    | .store node => (.store node 0 appends, machine)
    | .pipe pipe => (.pipe pipe, machine.countOpening pipe both true)
  return machine.addFile ⟨handle, both, true⟩

/-- Make a pipe with a name. -/
def makeNamedPipe (machine : Machine) (number : Nat) (path : Path) (mode : Nat) : Except Errno Machine := do
  let tree ← (machine.treeOf number).makePipe path mode machine.pipes.size
  return { machine.withFiles tree with pipes := machine.pipes.push (.ofBytes []) }

end Machine
end ExitParity
