import ExitParity.Host.Image
import ExitParity.Host.Machine
import ExitParity.Thread

namespace ExitParity

/-- What a running program was given: its process, its arguments with the name
it is called by first, and its environment. -/
structure Program where
  process : Nat
  argv : List Bytes
  env : List (Bytes × Bytes)

/-- Runs an image as a program. -/
abbrev Launcher := Image → Program → Thread Machine

abbrev Deed := Activity Machine

/-- The time that a system call takes, and that the start of a program takes. -/
def callTime : Nat := 2000

def startTime : Nat := 1000000

/-- The time that a step of a program takes after so many steps. One that has
been busy for long has to leave time to others. -/
def stepTime (count : Nat) : Nat := if count < 250000 then 1000 else 50000

namespace Program

def args (program : Program) : List Bytes := program.argv.drop 1

def name (program : Program) : Bytes := program.argv.head?.getD []

def valueOf? (program : Program) (name : Bytes) : Option Bytes := (program.env.find? (·.1 == name)).map (·.2)

/-- The files as the program sees them. -/
def tree (program : Program) : Deed FileTree := .look (·.treeOf program.process)

/-- Change the files. -/
def change (program : Program) (step : FileTree → Except Errno FileTree) : Deed (Except Errno Unit) :=
  .act fun machine =>
    match step (machine.treeOf program.process) with
    | .ok tree => (.ok (), machine.withFiles tree)
    | .error errno => (.error errno, machine)

/-- Read up to `count` bytes, waiting for the first. -/
def read (program : Program) (descriptor count : Nat) : Deed (Except Errno Bytes) := do
  .wait (·.canRead program.process descriptor)
  .rest callTime
  .act (·.read program.process descriptor count)

/-- The size of the pieces in which whole inputs are read. -/
def pieceSize : Nat := 65536

/-- Read up to the end, for at most so many pieces. The pieces are kept with
the last one first. -/
def readPieces (program : Program) (descriptor : Nat) : Nat → List Bytes → Deed (Except Errno Bytes)
  | 0, before => return .ok before.reverse.flatten
  | fuel + 1, before => do
    match ← program.read descriptor pieceSize with
    | .error errno => return .error errno
    | .ok piece =>
      if piece.isEmpty then return .ok before.reverse.flatten
      else program.readPieces descriptor fuel (piece :: before)

/-- The number of pieces after which reading is given up. -/
def pieceLimit : Nat := 4096

def readAll (program : Program) (descriptor : Nat) : Deed (Except Errno Bytes) :=
  program.readPieces descriptor pieceLimit []

/-- Write bytes, waiting until there is room. -/
def write (program : Program) (descriptor : Nat) (bytes : Bytes) : Deed (Except Errno Unit) := do
  if bytes.isEmpty then return .ok ()
  .wait (·.canWrite program.process descriptor)
  .rest callTime
  .act (·.write program.process descriptor bytes)

/-- How much a program prints before it is written. -/
def bufferSize : Nat := 4096

/-- Write what has been printed. -/
def flush (program : Program) : Deed Unit := do
  let bytes ← .act fun machine =>
    ((((machine.process? program.process).map (·.unwritten)).getD []).reverse.flatten,
      machine.modify program.process fun process => { process with unwritten := [], unwrittenSize := 0 })
  match ← program.write 1 bytes with
  | .ok () => return ()
  | .error errno =>
    .act fun machine => ((), machine.modify program.process fun process =>
      { process with unwritable := process.unwritable.or (some errno) })

/-- Print bytes. They are written when there are enough of them, or at the end. -/
def print (program : Program) (bytes : Bytes) : Deed Unit := do
  if bytes.isEmpty then return ()
  let size ← .act fun machine =>
    let machine := machine.modify program.process fun process =>
      { process with unwritten := bytes :: process.unwritten, unwrittenSize := process.unwrittenSize + bytes.length }
    (((machine.process? program.process).map (·.unwrittenSize)).getD 0, machine)
  if size ≥ bufferSize then program.flush

/-- The last name of the path that the program is called by. -/
def shortName (program : Program) : Bytes := ((⟨program.name⟩ : Path).fileName?).getD program.name

/-- Print a complaint with the program's name in front. -/
def complain (program : Program) (text : Bytes) : Deed Unit := do
  let _ ← program.write 2 (program.name ++ utf8 ": " ++ text ++ [0x0a])

/-- Open a file behind a descriptor. At one end of a named pipe this waits for
the other end. -/
def openBehind (program : Program) (place : Machine → Nat) (opening : Machine → Except Errno (Nat × Machine)) :
    Deed (Except Errno Nat) := do
  let result ← .act fun machine =>
    match opening machine with
    | .error errno => (Except.error errno, machine)
    | .ok (opened, machine) =>
      let descriptor := place machine
      (.ok (descriptor, machine.meeting? opened), machine.setDescriptor program.process descriptor (some opened))
  match result with
  | .error errno => return .error errno
  | .ok (descriptor, none) => return .ok descriptor
  | .ok (descriptor, some isMet) =>
    .wait isMet
    return .ok descriptor

/-- Open a file for reading behind a free descriptor. -/
def openFile (program : Program) (path : Path) : Deed (Except Errno Nat) :=
  program.openBehind (·.freeDescriptor program.process) (·.openForReading program.process path)

def close (program : Program) (descriptor : Nat) : Deed Unit :=
  .act fun machine => ((), machine.setDescriptor program.process descriptor none)

/-- The bytes of a file. -/
def readFile (program : Program) (path : Path) : Deed (Except Errno Bytes) := do
  match ← program.openFile path with
  | .error errno => return .error errno
  | .ok descriptor =>
    let bytes ← program.readAll descriptor
    program.close descriptor
    return bytes

/-- End the process. -/
def exit {α : Type} (program : Program) (code : Nat) : Deed α := do
  .act fun machine => ((), machine.finish program.process (.ofExit code))
  .stop

/-- End the process when what it has printed is written. That it could not be
written makes for a code of its own. -/
def conclude {α : Type} (program : Program) (code faultCode : Nat) : Deed α := do
  program.flush
  match ← .look fun machine => (machine.process? program.process).bind (·.unwritable) with
  | none => program.exit code
  | some errno =>
    program.complain (utf8 s!"write error: {errno.text}")
    program.exit faultCode

/-- Become another program. Comes back only with a fault. -/
def execute (program : Program) (launch : Launcher) (find : FileTree → Except Errno Image)
    (env : List (Bytes × Bytes)) : Deed Errno := do
  match find (← program.tree) with
  | .error errno => return errno
  | .ok image =>
    .act fun machine => ((), machine.modify program.process fun process => { process with caught := [], pending := [] })
    .become fun () => launch image { program with argv := image.argv, env }

/-- Start a process that does something, and tell its number. -/
def forkOff (program : Program) (child : Nat → Thread Machine) : Deed Nat := do
  program.flush
  .rest callTime
  let number ← .act (·.forkOf program.process)
  .fork number fun () => child number
  return number

/-- Wait for the end of a process. -/
def await (number : Nat) : Deed WaitStatus := do
  .wait fun machine => (machine.statusOf? number).isSome || (machine.process? number).isNone
  .act fun machine => ((machine.statusOf? number).getD (.ofExit 127), machine.reap number)

end Program
end ExitParity
