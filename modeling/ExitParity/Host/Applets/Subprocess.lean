import ExitParity.Host.Applets.Environment

/-! Commands that programs hand to a shell. -/

namespace ExitParity.Program

/-- The arguments of a shell that carries out a text. -/
def shellArguments (text : Bytes) : List Bytes := [utf8 "sh", utf8 "-c", text]

/-- Start a shell that carries out a text, with one of its descriptors at an end
of a new pipe. Told are its process and the descriptor of the other end. -/
def startShell (program : Program) (launch : Launcher) (text : Bytes) (piped : Nat) : Deed (Nat × Nat) := do
  let (theirs, ours) ← .act fun machine =>
    let ((reading, writing), machine) := machine.makePipe []
    let (their, our) := if piped == 0 then (reading, writing) else (writing, reading)
    let theirs := machine.freeDescriptor program.process
    let machine := machine.setDescriptor program.process theirs (some their)
    let ours := machine.freeDescriptor program.process
    ((theirs, ours), machine.setDescriptor program.process ours (some our))
  let number ← program.forkOff fun number =>
    let child := { program with process := number }
    Activity.thread do
      .act fun machine =>
        let machine := machine.setDescriptor number piped (machine.opened? number theirs)
        ((), (machine.setDescriptor number ours none).setDescriptor number theirs none)
      let _ ← child.execute launch (fun tree =>
        Image.ofFile tree program.env ⟨Image.shellPath⟩ (shellArguments text)) program.env
      child.exit 127
  program.close theirs
  return (number, ours)

/-- Have a shell carry out a text, and take what it prints. -/
def outputOfShell (program : Program) (launch : Launcher) (text : Bytes) : Deed (Bytes × WaitStatus) := do
  let (number, descriptor) ← program.startShell launch text 1
  let output ← program.readAll descriptor
  program.close descriptor
  let status ← await number
  return (output.toOption.getD [], status)

/-- Have a shell carry out a text, and wait for its end. -/
def runShell (program : Program) (launch : Launcher) (text : Bytes) : Deed WaitStatus := do
  let number ← program.forkOff fun number =>
    let child := { program with process := number }
    Activity.thread do
      let _ ← child.execute launch (fun tree =>
        Image.ofFile tree program.env ⟨Image.shellPath⟩ (shellArguments text)) program.env
      child.exit 127
  await number

end ExitParity.Program
