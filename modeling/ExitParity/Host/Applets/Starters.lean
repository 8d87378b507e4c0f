import ExitParity.Host.Applets.Environment
import ExitParity.Host.Applets.Interval

/-! The programs that wait, send signals, and start others under some condition. -/

namespace ExitParity.Program

/-! ### Waiting -/

/-- Wait without end. -/
def waitForever {α : Type} : Deed α := do
  .wait fun _ => false
  .stop

def sleep (program : Program) : Deed Nat :=
  program.withOptions ⟨"", [], false⟩ 1 fun options => do
  if options.operands.isEmpty then
    program.refuse (utf8 "missing operand")
    return 1
  let wrong := options.operands.filter fun arg => (Interval.ofText? arg).isNone
  if !wrong.isEmpty then
    for arg in wrong.dropLast do
      program.complain (utf8 "invalid time interval " ++ Quoting.curly arg)
    program.refuse (utf8 "invalid time interval " ++ Quoting.curly (wrong.getLast?.getD []))
    return 1
  let durations := options.operands.filterMap fun arg =>
    match Interval.ofText? arg with
    | some (.finite nanoseconds) => some nanoseconds
    | _ => none
  if durations.length < options.operands.length then waitForever
  .rest (durations.foldl (· + ·) 0)
  return 0

/-! ### Signals -/

/-- A whole number with or without a sign. -/
def integer? (text : Bytes) : Option Int :=
  let (negative, digits) := match text with
    | 0x2d :: rest => (true, rest)
    | 0x2b :: rest => (false, rest)
    | _ => (false, text)
  if digits.isEmpty || !digits.all Printing.isDecimal then none
  else some (if negative then -(Printing.digits 10 digits : Int) else Printing.digits 10 digits)

/-- The signal that a number or a name stands for. -/
def signalOf? (text : Bytes) : Option Nat :=
  if !text.isEmpty && text.all Printing.isDecimal then
    let number := Printing.digits 10 text
    if number ≤ Signal.last then some number else none
  else Signal.ofName? (Utf8.display ((Bytes.stripPrefix? (utf8 "SIG") text).getD text))

/-- How signals are sent. -/
def killUsage : Bytes := utf8 ("\nUsage:\n kill [options] <pid> [...]\n\nOptions:\n" ++
  " <pid> [...]            send signal to every <pid> listed\n" ++
  " -<signal>, -s, --signal <signal>\n                        specify the <signal> to be sent\n" ++
  " -q, --queue <value>    integer value to be sent with the signal\n" ++
  " -l, --list=[<signal>]  list all signal names, or convert one to a name\n" ++
  " -L, --table            list all signal names in a nice table\n\n" ++
  " -h, --help     display this help and exit\n -V, --version  output version information and exit\n\n" ++
  "For more details see kill(1).\n")

/-- Send signals to processes. -/
def sendSignals (program : Program) : Deed Nat :=
  program.answering do
    let (name?, targets) := match program.args with
      | [0x2d, 0x73] :: name :: rest => (some name, rest)
      | (0x2d :: name) :: rest => (some name, rest)
      | args => (none, args)
    match name?.elim (some Signal.terminate) signalOf? with
    | none =>
      program.complain (utf8 "invalid signal name or number: " ++ name?.getD [])
      return 1
    | some signal =>
      if targets.isEmpty then
        let _ ← program.write 2 killUsage
        return 1
      forEach (fun target => do
        match integer? target with
        | none =>
          program.complain (utf8 "failed to parse argument: '" ++ target ++ utf8 "'")
          return false
        | some number =>
          let sent ← .act fun machine =>
            let group := ((machine.process? program.process).map (·.group)).getD Machine.ownNumber
            let result := if number > 0 then machine.signal number.toNat signal
              else machine.signalGroup (if number == 0 then group else number.natAbs) signal
            match result with
            | .ok machine => (Except.ok (), machine)
            | .error errno => (.error errno, machine)
          match sent with
          | .ok () => return true
          | .error errno =>
            program.complain (utf8 "(" ++ target ++ utf8 s!"): {errno.text}")
            return false) targets

/-! ### Starting -/

/-- Become another program, or tell that it cannot be started. -/
def startInstead (program : Program) (launch : Launcher) (words : String) (command : List Bytes) : Deed Nat := do
  let errno ← program.executeNamed launch program.env command
  program.complainOf (utf8 words ++ Quoting.curly (command.head?.getD [])) errno
  return launchCode errno

/-- Let an alarm come to the program after some time. -/
def setAlarm (program : Program) (nanoseconds : Nat) : Deed Unit :=
  .fork program.process fun () => Activity.thread do
    .rest nanoseconds
    .act fun machine => ((), machine.modify program.process fun process =>
      { process with pending := process.pending ++ [Signal.alarm] })
    .wait fun _ => false

/-- Wait for a process to end or for an alarm to come, and tell whether it has
ended. -/
def awaitOrAlarm (program : Program) (number : Nat) : Deed Bool := do
  let alarmed (machine : Machine) : Bool :=
    (machine.process? program.process).any fun process => process.pending.contains Signal.alarm
  .wait fun machine => (machine.statusOf? number).isSome || alarmed machine
  .act fun machine =>
    ((machine.statusOf? number).isSome,
      machine.modify program.process fun process => { process with pending := process.pending.filter (· != Signal.alarm) })

/-- Send a signal to a process, and to the whole group of the program unless
it has none of its own. Whoever stands still goes on. -/
def signalAll (program : Program) (alone : Bool) (number signal : Nat) : Deed Unit :=
  .act fun machine =>
    let strikes := Machine.strike signal
    let goOn := if signal == Signal.kill then id else Machine.strike Signal.continue_
    let machine := machine.modify number (goOn ∘ strikes)
    let isMeant (process : Process) : Bool :=
      !alone && process.group == program.process && process.number != program.process && process.number != number
    ((), { machine with
      processes := machine.processes.map fun process => if isMeant process then goOn (strikes process) else process })

/-- End by the signal that ended another process. -/
def endLike {α : Type} (program : Program) (signal : Nat) : Deed α := do
  program.flush
  .act fun machine => ((), machine.finish program.process (.ofSignal signal))
  .stop

/-- Run a program that may take only so long. -/
def limitTime (program : Program) (launch : Launcher) : Deed Nat :=
  program.withOptions ⟨"fk:ps:v", [("foreground", .flag, "f"), ("kill-after", .valued, "k"),
    ("preserve-status", .flag, "p"), ("signal", .valued, "s"), ("verbose", .flag, "v")], false⟩ 125 fun options => do
  let refuse (text : Bytes) : Deed Nat := do
    program.refuse text
    return 125
  match options.value? "s" |>.elim (some Signal.terminate) signalOf?, (options.value? "k").map Interval.ofText? with
  | none, _ => refuse (Quoting.curly ((options.value? "s").getD []) ++ utf8 ": invalid signal")
  | _, some none => refuse (utf8 "invalid time interval " ++ Quoting.curly ((options.value? "k").getD []))
  | some signal, grace? =>
    match options.operands with
    | duration :: command :: rest =>
      match Interval.ofText? duration with
      | none => refuse (utf8 "invalid time interval " ++ Quoting.curly duration)
      | some interval =>
        let alone := options.has "f"
        if !alone then
          .act fun machine => ((), machine.modify program.process fun process => { process with group := program.process })
        let number ← program.forkOff fun number =>
          let child := { program with process := number }
          Activity.thread do
            let code ← child.startInstead launch "failed to run command " (command :: rest)
            child.exit code
        watch interval number
        let ended ← program.awaitOrAlarm number
        if ended then
          let code := (← await number).exitCode
          if code < 0 then program.endLike code.natAbs else return code.toNat
        tell options signal command
        program.signalAll alone number signal
        let killed ← match grace? with
          | some (some (.finite grace)) => do
            if grace > 0 then program.setAlarm grace
            if ← program.awaitOrAlarm number then pure (signal == Signal.kill)
            else do
              tell options Signal.kill command
              program.signalAll alone number Signal.kill
              pure true
          | _ => pure (signal == Signal.kill)
        let code := (← await number).exitCode
        let shown := if code < 0 then 128 + code.natAbs else code.toNat
        return if options.has "p" || killed then shown else 124
    | _ => refuse (utf8 "missing operand")
where
  watch (interval : Interval) (number : Nat) : Deed Unit :=
    match interval with
    | .finite nanoseconds => if nanoseconds > 0 then program.setAlarm nanoseconds else return ()
    | .endless => do
      let _ := number
      return ()
  tell (options : Options) (signal : Nat) (command : Bytes) : Deed Unit := do
    if options.has "v" then
      program.complain (utf8 s!"sending signal {Signal.name signal} to command " ++ Quoting.curly command)

def withoutHangup (program : Program) (launch : Launcher) : Deed Nat :=
  program.withOptions ⟨"", [], false⟩ 125 fun options => do
  if options.operands.isEmpty then
    program.refuse (utf8 "missing operand")
    return 125
  .act fun machine => ((), machine.modify program.process fun process =>
    { process with ignored := Signal.hangup :: process.ignored })
  program.startInstead launch "failed to run command " options.operands

/-- The arguments of `nice`, with an adjustment such as `-5` as an option. -/
def withAdjustment : List Bytes → List Bytes
  | (0x2d :: digits) :: rest =>
    if (integer? digits).isSome then utf8 "-n" :: digits :: rest else (0x2d :: digits) :: rest
  | args => args

def withPriority (program : Program) (launch : Launcher) : Deed Nat :=
  let program := { program with argv := program.name :: withAdjustment program.args }
  program.withOptions ⟨"n:", [("adjustment", .valued, "n")], false⟩ 125 fun options => do
  match options.value? "n" with
  | some text =>
    if (integer? text).isNone then
      program.complain (utf8 "invalid adjustment " ++ Quoting.curly text)
      return 125
    if options.operands.isEmpty then
      program.refuse (utf8 "a command must be given with an adjustment")
      return 125
    program.startInstead launch "" options.operands
  | none =>
    if options.operands.isEmpty then
      program.print (utf8 "0\n")
      return 0
    program.startInstead launch "" options.operands

def withSession (program : Program) (launch : Launcher) : Deed Nat :=
  program.withOptions ⟨"cfw", [("ctty", .flag, "c"), ("fork", .flag, "f"), ("wait", .flag, "w")], false⟩ 1 fun options => do
  if options.operands.isEmpty then
    program.complain (utf8 "no command specified")
    let _ ← program.write 2 (utf8 "Try '" ++ program.name ++ utf8 " --help' for more information.\n")
    return 1
  .act fun machine => ((), machine.modify program.process fun process => { process with group := program.process })
  let errno ← program.executeNamed launch program.env options.operands
  program.complainOf (utf8 "failed to execute " ++ (options.operands.head?.getD [])) errno
  return launchCode errno

def withBuffering (program : Program) (launch : Launcher) : Deed Nat :=
  program.withOptions ⟨"i:o:e:", [("input", .valued, "i"), ("output", .valued, "o"), ("error", .valued, "e")], false⟩ 125
    fun options => do
  if options.operands.isEmpty then
    program.refuse (utf8 "missing operand")
    return 125
  if options.given.isEmpty then
    program.refuse (utf8 "you must specify a buffering mode option")
    return 125
  program.startInstead launch "failed to run command " options.operands

end ExitParity.Program
