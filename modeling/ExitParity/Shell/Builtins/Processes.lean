import ExitParity.Host.Printing
import ExitParity.Shell.Builtins.Options

/-! The commands of the shell that are about processes, signals and limits. -/

namespace ExitParity.Shell.Builtin

/-- The number of a signal given by its number or its name. -/
def signalOf? (least : Nat) (text : Bytes) : Option Nat :=
  match number? text with
  | some number => if number ≤ Signal.last then some number else none
  | none => (Signal.ofName? (Utf8.display text)).filter (least ≤ ·)

/-- The job that a text such as `%1` names. -/
def jobOf? (shell : Shell) (text : Bytes) : Option BackgroundJob :=
  match text.drop 1 with
  | [] | [0x25] | [0x2b] => shell.jobs.getLast?
  | [0x2d] => shell.jobs.dropLast.getLast?
  | digits => (number? digits).bind fun number => shell.jobs.find? (·.number == number)

def jobOf (text : Bytes) : Run BackgroundJob := do
  match jobOf? (← get) text with
  | some job => return job
  | none => fail (utf8 "No such job: " ++ text)

def sendSignal (signal : Nat) (target : Bytes) : Run Bool := do
  let number ← match target with
    | 0x25 :: _ =>
      let _ ← jobOf target
      pure none
    | 0x2d :: digits =>
      let _ ← numberOf digits
      pure none
    | digits => pure (some (← numberOf digits))
  let sent ← perform fun program => do
    .rest callTime
    .act fun machine =>
      match number with
      | none => (Except.error Errno.noProcess, machine)
      | some number =>
        let target := if number == 0 then program.process else number
        match machine.signal target signal with
        | .ok machine => (.ok (), machine)
        | .error errno => (.error errno, machine)
  match sent with
  | .ok () => return true
  | .error errno =>
    complain (utf8 (errno.text ++ "\n"))
    return false

def sendAll (signal : Nat) : List Bytes → Run Bool
  | [] => return true
  | target :: rest => do
    let sent ← sendSignal signal target
    let more ← sendAll signal rest
    return sent && more

/-- A text without the letters that the names of signals begin with. -/
def withoutMark (text : Bytes) : Bytes :=
  if (text.take 3).map Printing.upper == utf8 "SIG" then text.drop 3 else text

/-- The signal that the extended language takes a text for. -/
def addedSignalOf? (text : Bytes) : Option Nat :=
  match number? text with
  | some number => if number ≤ Signal.last then some number else none
  | none => Signal.ofName? (Utf8.display (withoutMark text))

/-- The signals with their numbers, five on a line. -/
def signalTable : Bytes :=
  let numbers := ((List.range Signal.last).map (· + 1)).filter fun number => number != 32 && number != 33
  numbers.zipIdx.flatMap fun (number, index) =>
    let digits := toString number
    let name := if number == 16 then "STKFLT" else Signal.name number
    let gap := if number == Signal.last then "\t\n" else if index % 5 == 4 then "\n" else "\t"
    utf8 ((if number < 10 then " " else "") ++ digits ++ ") SIG" ++ name ++ gap)

/-- Send a signal to a process or a job as the extended language does. -/
def sendTo (signal : Nat) (target : Bytes) : Run Bool := do
  let shell ← get
  let send (number : Nat) : Run Bool := do
    let sent ← perform fun program => do
      .rest callTime
      .act fun machine =>
        match machine.signal (if number == 0 then program.process else number) signal with
        | .ok machine => (true, machine)
        | .error _ => (false, machine)
    return sent
  match target.head? == some 0x25, number? target with
  | true, _ =>
    match jobOf? shell target with
    | none =>
      complain (target ++ utf8 ": no such job")
      return false
    | some job =>
      let sent ← job.processes.mapM send
      return sent.any id
  | false, some number =>
    if !(← send number) then
      complain (utf8 s!"({number}) - {Errno.noProcess.text}")
      return false
    return true
  | false, none =>
    complain (target ++ utf8 ": arguments must be process or job IDs")
    return false

/-- Send signals, or tell about them, as the extended language does. -/
def sendOrList (args : List Bytes) : Run Nat := do
  let send (name : Bytes) (targets : List Bytes) : Run Nat := do
    match addedSignalOf? name with
    | none => failAs 1 (name ++ utf8 ": invalid signal specification") []
    | some signal =>
      let targets := if targets.head? == some (utf8 "--") then targets.drop 1 else targets
      if targets.isEmpty then failUsage
      let sent ← targets.mapM (sendTo signal)
      return if sent.any id then 0 else 1
  match args with
  | [] => failUsage
  | first :: rest =>
    match first with
    | [0x2d, letter] =>
      if letter == 0x6c || letter == 0x4c then
        if rest.isEmpty then say signalTable
        let mut status := 0
        for text in rest do
          match number? text, addedSignalOf? text with
          | some number, _ =>
            let signal := if number > 128 then number - 128 else number
            if signal ≤ Signal.last then say (utf8 (Signal.name signal ++ "\n"))
            else
              complain (text ++ utf8 ": invalid signal specification")
              status := 1
          | none, some signal => say (utf8 s!"{signal}\n")
          | none, none =>
            complain (text ++ utf8 ": invalid signal specification")
            status := 1
        return status
      else if letter == 0x73 || letter == 0x6e then
        match rest with
        | [] => failAs 1 (first ++ utf8 ": option requires an argument") []
        | name :: targets => send name targets
      else if letter == 0x2d then send (utf8 "TERM") rest
      else if letter == 0x3f then failUsage
      else send [letter] rest
    | 0x2d :: letter :: letters => send (if letter == 0x73 || letter == 0x6e then letters else letter :: letters) rest
    | _ => send (utf8 "TERM") args

def kill_ (args : List Bytes) : Run Nat := do
  if (← get).isExtended then return ← sendOrList args
  let usage : Run Nat := fail (utf8
    "Usage: kill [-s sigspec | -signum | -sigspec] [pid | job]... or\nkill -l [exitstatus]")
  let send (signal : Nat) (targets : List Bytes) : Run Nat := do
    if targets.isEmpty then usage
    else return if ← sendAll signal targets then 0 else 1
  match args with
  | [] => usage
  | first :: rest =>
    match first with
    | 0x2d :: text =>
      match signalOf? 1 text with
      | some signal => send signal rest
      | none =>
        let (given, targets) ← optionsOf ['l'] ['s'] args
        if given.any (·.1 == 'l') then
          if given.any (·.1 == 's') then usage
          else match targets with
            | [] =>
              say (utf8 "0\n" ++ (List.range Signal.last).flatMap fun index => utf8 (Signal.name (index + 1) ++ "\n"))
              return 0
            | text :: _ =>
              let number ← numberOf text
              let signal := if number > 128 then number - 128 else number
              if 0 < signal && signal ≤ Signal.last then
                say (utf8 (Signal.name signal ++ "\n"))
                return 0
              else fail (utf8 "invalid signal number or exit status: " ++ text)
        else match given.getLast? with
          | some (_, name) =>
            match signalOf? 1 name with
            | some signal => send signal targets
            | none => fail (utf8 "invalid signal number or name: " ++ name)
          | none => send Signal.terminate targets
    | _ => send Signal.terminate args

/-- The status that the shell shows for a process. -/
def statusOf (status : WaitStatus) : Nat :=
  let code := status.exitCode
  if code < 0 then 128 + code.natAbs else code.toNat

/-- Print by what signal a process was ended, unless that is usual. -/
def announce (inForeground : Bool) (status : WaitStatus) : Run Unit := do
  let code := status.exitCode
  let signal := code.natAbs
  let isUsual := signal == Signal.interrupt || signal == Signal.brokenPipe ||
    (signal == Signal.terminate && !inForeground && (← get).isExtended)
  if code < 0 && !isUsual then
    let _ ← perform fun program => program.write 2 (utf8 (Signal.description signal ++ "\n"))

/-- Whether a process of the shell's own has ended. -/
def hasEnded (machine : Machine) (number : Nat) : Bool :=
  (machine.statusOf? number).isSome || (machine.process? number).isNone

/-- Wait for the processes of a job. -/
def awaitAll (inForeground : Bool) : List Nat → Run Nat
  | [] => return 0
  | number :: rest => do
    let status ← perform fun _ => Program.await number
    if rest.isEmpty || !(← get).isExtended then announce inForeground status
    let later ← awaitAll inForeground rest
    modify fun shell => { shell with pipeStatus := statusOf status :: if rest.isEmpty then [] else shell.pipeStatus }
    let failsEarly := later == 0 && (← get).hasOption 'F'
    return if rest.isEmpty || failsEarly then statusOf status else later

/-- Wait for a job in the foreground. -/
def awaitJob (processes : List Nat) : Run Nat := awaitAll true processes

/-- Wait for the process whose output was read. -/
def awaitOutput (number : Nat) : Run Nat := do
  if !(← get).isExtended then return ← awaitAll true [number]
  return statusOf (← perform fun _ => Program.await number)

/-- The signal that ends a waiting early, if one has come. -/
def pendingSignal? (machine : Machine) (process : Nat) : Option Nat :=
  (machine.process? process).bind (·.pending.head?)

/-- Wait until processes have ended or a caught signal has come. -/
def waitFor (numbers : List Nat) : Run (Option Nat) :=
  perform fun program => do
    .wait fun machine =>
      numbers.all (hasEnded machine) || (pendingSignal? machine program.process).isSome
    .look fun machine =>
      if numbers.all (hasEnded machine) then none else pendingSignal? machine program.process

/-- Wait for a job that runs beside the shell. -/
def waitForJob (job : BackgroundJob) : Run Nat := do
  match ← waitFor job.processes with
  | some signal => return 128 + signal
  | none =>
    modify fun shell => { shell with jobs := shell.jobs.filter (·.number != job.number) }
    let status ← awaitAll false job.processes
    modify fun shell =>
      { shell with pastStatuses := (job.processes.getLast?.map (·, status)).toList ++ shell.pastStatuses }
    return status

/-- Wait for jobs as the extended language does. -/
def waitForNamed : List Bytes → Nat → Run Nat
  | [], status => return status
  | target :: rest, _ => do
    let shell ← get
    let job? := if target.head? == some 0x25 then jobOf? shell target
      else (number? target).bind fun number => shell.jobs.find? (·.processes.contains number)
    match job?, number? target with
    | some job, _ =>
      let status ← waitForJob job
      waitForNamed rest status
    | none, some number =>
      match shell.pastStatuses.find? (·.1 == number) with
      | some (_, status) => waitForNamed rest status
      | none =>
        complain (utf8 s!"pid {number} is not a child of this shell")
        waitForNamed rest 127
    | none, none =>
      if target.head? == some 0x25 then
        complain (target ++ utf8 ": no such job")
        waitForNamed rest 127
      else
        complain (0x60 :: target ++ utf8 "': not a pid or valid job spec")
        waitForNamed rest 1

/-- Wait for the job that ends first. -/
def waitForFirst : Run Nat := do
  let jobs := (← get).jobs
  if jobs.isEmpty then return 127
  let hasFinished (machine : Machine) (job : BackgroundJob) : Bool := job.processes.all (hasEnded machine)
  let found ← perform fun program => do
    .wait fun machine => jobs.any (hasFinished machine) || (pendingSignal? machine program.process).isSome
    .look fun machine => jobs.find? (hasFinished machine)
  match found with
  | some job => waitForJob job
  | none => return 127

def waitForEach : List Bytes → Nat → Run Nat
  | [], status => return status
  | target :: rest, _ => do
    match target with
    | 0x25 :: _ =>
      let job ← jobOf target
      let status ← waitForJob job
      waitForEach rest status
    | digits =>
      let number ← numberOf digits
      match (← get).jobs.find? (·.processes.getLast? == some number) with
      | some job =>
        let status ← waitForJob job
        waitForEach rest status
      | none => waitForEach rest 127

def wait_ (args : List Bytes) : Run Nat := do
  let isExtended := (← get).isExtended
  let (given, targets) ← if isExtended then optionsOf ['n', 'f'] ['p'] args else optionsOf [] [] args
  if given.any (·.1 == 'n') then return ← waitForFirst
  if targets.isEmpty then
    let jobs := (← get).jobs
    let numbers := jobs.flatMap (·.processes)
    match ← waitFor numbers with
    | some signal => return 128 + signal
    | none =>
      modify fun shell => { shell with jobs := [] }
      perform fun _ => .act fun machine => ((), numbers.foldl Machine.reap machine)
      return 0
  else if isExtended then waitForNamed targets 127
  else waitForEach targets 127

def jobs_ (args : List Bytes) : Run Nat := do
  let isExtended := (← get).isExtended
  let (given, _) ← optionsOf (if isExtended then ['l', 'n', 'p', 'r', 's'] else ['l', 'p']) [] args
  let jobs := (← get).jobs
  if given.any (·.1 == 'p') then
    say (jobs.flatMap fun job => utf8 ((job.processes.head?.map fun number => s!"{number}\n").getD ""))
    return 0
  for job in jobs do
    let ended ← perform fun _ => .look fun machine => job.processes.all (hasEnded machine)
    let sign := if (jobs.getLast?.map (·.number)) == some job.number then "+" else "-"
    let state := if ended then "Done" else "Running"
    let text := s!"[{job.number}] {sign} {state}"
    say (utf8 (text ++ String.ofList (List.replicate (33 - text.length) ' ') ++ "\n"))
  return 0

/-- Let the process deal with a signal as the traps say. -/
def applyTrap (signal : Nat) (action : Option Bytes) : Run Unit :=
  perform fun program => .act fun machine =>
    ((), machine.modify program.process fun process =>
      let ignored := process.ignored.filter (· != signal)
      let caught := process.caught.filter (· != signal)
      match action with
      | none => { process with ignored, caught }
      | some [] => { process with ignored := signal :: ignored, caught }
      | some _ => { process with ignored, caught := signal :: caught })

/-- The number by which the extended language keeps what is done on something. -/
def addedTrapOf? (text : Bytes) : Option Nat :=
  match String.ofList ((Utf8.display text).toList.map Char.toUpper) with
  | "ERR" => some errorTrap
  | "DEBUG" => some commandTrap
  | "RETURN" => some returnTrap
  | _ => addedSignalOf? text

def trapName (extended : Bool) (number : Nat) : String :=
  if number == errorTrap then "ERR"
  else if number == commandTrap then "DEBUG"
  else if number == returnTrap then "RETURN"
  else (if extended && number != 0 then "SIG" else "") ++ Signal.name number

def trapAll (action : Option Bytes) : List Bytes → Run Nat
  | [] => return 0
  | name :: rest => do
    let isExtended := (← get).isExtended
    match if isExtended then addedTrapOf? name else signalOf? 0 name with
    | none =>
      if isExtended then
        complain (name ++ utf8 ": invalid signal specification")
        let _ ← trapAll action rest
        return 1
      let _ ← perform fun program => program.write 2 (utf8 "trap: " ++ name ++ utf8 ": bad trap\n")
      return 1
    | some signal =>
      modify fun shell =>
        { shell with traps := shell.traps.filter (·.1 != signal) ++ action.toList.map (signal, ·) }
      if signal != 0 && signal ≤ Signal.last then applyTrap signal action
      trapAll action rest

def trap_ (args : List Bytes) : Run Nat := do
  let isExtended := (← get).isExtended
  let (given, args) ← if isExtended then optionsOf ['l', 'p'] [] args else optionsOf [] [] args
  if given.any (·.1 == 'l') then
    say signalTable
    return 0
  let traps := (← get).traps.mergeSort fun first second => first.1 ≤ second.1
  let shown (traps : List (Nat × Bytes)) : Bytes := traps.flatMap fun (signal, action) =>
    let quoted := if isExtended then 0x27 :: action.flatMap (fun byte => if byte == 0x27 then utf8 "'\\''" else [byte]) ++ [0x27]
      else quote action
    utf8 "trap -- " ++ quoted ++ utf8 s!" {trapName isExtended signal}\n"
  if given.any (·.1 == 'p') && !args.isEmpty then
    say (shown (traps.filter fun entry => args.any fun name => addedTrapOf? name == some entry.1))
    return 0
  match args with
  | [] =>
    say (shown traps)
    return 0
  | [name] => if isExtended && (addedTrapOf? name).isNone then failUsage else trapAll none [name]
  | action :: names =>
    if (number? action).isSome then trapAll none args
    else trapAll (if action == [0x2d] then none else some action) names

/-- The permissions that a mask leaves, in letters. -/
def maskLetters (mask : Nat) : Bytes :=
  let letters (shift : Nat) : String :=
    let left := 7 - (mask >>> shift) % 8
    (if left &&& 4 != 0 then "r" else "") ++ (if left &&& 2 != 0 then "w" else "") ++ (if left &&& 1 != 0 then "x" else "")
  utf8 s!"u={letters 6},g={letters 3},o={letters 0}\n"

/-- What a clause such as `g+w` makes of the permissions that are left. -/
def applyClause (clause : Bytes) (left : Nat) : Option Nat :=
  let who := clause.takeWhile fun byte => [0x75, 0x67, 0x6f, 0x61].elem byte
  let scope := if who.isEmpty || who.elem 0x61 then 0o777
    else (if who.elem 0x75 then 0o700 else 0) ||| (if who.elem 0x67 then 0o070 else 0) ||| (if who.elem 0x6f then 0o007 else 0)
  match clause.drop who.length with
  | operator :: letters =>
    if !letters.all fun letter => [0x72, 0x77, 0x78].elem letter then none
    else
      let bits := letters.foldl (fun bits letter =>
        bits ||| (if letter == 0x72 then 0o444 else if letter == 0x77 then 0o222 else 0o111)) 0 &&& scope
      if operator == 0x2b then some (left ||| bits)
      else if operator == 0x2d then some (left &&& (0o777 ^^^ bits))
      else if operator == 0x3d then some ((left &&& (0o777 ^^^ scope)) ||| bits)
      else none
  | [] => none

/-- What the extended language complains about in clauses that cannot be applied. -/
def clauseFault (text : Bytes) : Bytes :=
  let faults := (Bytes.split 0x2c text).filterMap fun clause =>
    match clause.dropWhile fun byte => [0x75, 0x67, 0x6f, 0x61].elem byte with
    | [] => some (0x60 :: 0 :: utf8 "': invalid symbolic mode operator")
    | operator :: letters =>
      if !([0x2b, 0x2d, 0x3d].elem operator) then some (0x60 :: operator :: utf8 "': invalid symbolic mode operator")
      else (letters.find? fun letter => !([0x72, 0x77, 0x78].elem letter)).map fun letter =>
        0x60 :: letter :: utf8 "': invalid symbolic mode character"
  faults.head?.getD []

def umask_ (args : List Bytes) : Run Nat := do
  let (given, args) ← optionsOf (if (← get).isExtended then ['S', 'p'] else ['S']) [] args
  let mask ← perform fun program => .look (·.maskOf program.process)
  let store (mask : Nat) : Run Nat := do
    perform fun program => .act fun machine =>
      ((), machine.modify program.process fun process => { process with mask })
    return 0
  match args with
  | [] =>
    let shows := if given.any (·.1 == 'p') then utf8 (if given.any (·.1 == 'S') then "umask -S " else "umask ") else []
    if !given.any (·.1 == 'S') then
      let digits := String.ofList (Nat.toDigits 8 mask)
      say (shows ++ utf8 (String.ofList (List.replicate (4 - digits.length) '0') ++ digits ++ "\n"))
    else say (shows ++ maskLetters mask)
    return 0
  | text :: _ =>
    if text.head?.any isDigit then
      if text.all fun byte => 0x30 ≤ byte && byte ≤ 0x37 then
        store (text.foldl (fun value byte => value * 8 + (byte.toNat - 0x30)) 0 &&& 0o777)
      else failAs 1 (text ++ utf8 ": octal number out of range") (utf8 "Illegal number: " ++ text)
    else match (Bytes.split 0x2c text).foldlM (fun left clause => applyClause clause left) (0o777 ^^^ mask) with
      | some left => store (0o777 ^^^ left)
      | none => failAs 1 (clauseFault text) (utf8 "Illegal mode: " ++ text)

/-- The resources by their letters, with what they are called and how much one of
their units is. -/
def resources : List (Char × Resource × String × Nat) := [
  ('t', .time, "time(seconds)", 1), ('f', .file, "file(blocks)", 512), ('d', .data, "data(kbytes)", 1024),
  ('s', .stack, "stack(kbytes)", 1024), ('c', .dump, "coredump(blocks)", 512), ('m', .memory, "memory(kbytes)", 1024),
  ('l', .lockedMemory, "locked memory(kbytes)", 1024), ('p', .processes, "process", 1), ('n', .files, "nofiles", 1),
  ('v', .addresses, "vmemory(kbytes)", 1024), ('w', .locks, "locks", 1), ('r', .priority, "rtprio", 1)]

/-- The resources of the extended language: their letters, what they are called, their
units by name and size, and the value of one that is not counted. -/
def addedResources : List (Char × Option Resource × String × String × Nat × Option Nat) := [
  ('R', none, "real-time non-blocking time", "microseconds, ", 1, none),
  ('c', some .dump, "core file size", "blocks, ", 1024, none), ('d', some .data, "data seg size", "kbytes, ", 1024, none),
  ('e', none, "scheduling priority", "", 1, some 0), ('f', some .file, "file size", "blocks, ", 1024, none),
  ('i', none, "pending signals", "", 1, none), ('l', some .lockedMemory, "max locked memory", "kbytes, ", 1024, none),
  ('m', some .memory, "max memory size", "kbytes, ", 1024, none), ('n', some .files, "open files", "", 1, none),
  ('p', none, "pipe size", "512 bytes, ", 1, some 8), ('q', none, "POSIX message queues", "bytes, ", 1, some 819200),
  ('r', some .priority, "real-time priority", "", 1, none), ('s', some .stack, "stack size", "kbytes, ", 1024, none),
  ('t', some .time, "cpu time", "seconds, ", 1, none), ('u', some .processes, "max user processes", "", 1, none),
  ('v', some .addresses, "virtual memory", "kbytes, ", 1024, none), ('x', some .locks, "file locks", "", 1, none)]

def limitText (value : Option Nat) (unit : Nat) : String :=
  match value with
  | some value => toString (value / unit)
  | none => "unlimited"

/-- Whether a limit does not go beyond another one. -/
def isWithinLimit (value : Option Nat) : Option Nat → Bool
  | none => true
  | some most => value.any (· ≤ most)

/-- What a limit becomes. -/
def changedLimit (ofHard ofSoft : Bool) (value : Option Nat) (former : Limit) : Limit :=
  { former with
    soft := if ofHard && !ofSoft then former.soft else value
    hard := if ofSoft && !ofHard then former.hard else value }

/-- Why a limit cannot become another one, if it cannot. -/
def limitFault? (former limit : Limit) : Option Errno :=
  if !isWithinLimit limit.soft limit.hard then some .invalid
  else if !isWithinLimit limit.hard former.hard then some .notPermitted
  else none

def setLimit (limit : Limit) : Run Unit :=
  perform fun program => .act fun machine => ((), machine.modify program.process fun process =>
    { process with limits := process.limits.map fun other => if other.resource == limit.resource then limit else other })

/-- Tell or set limits as the extended language does. -/
def limitAll (args : List Bytes) : Run Nat := do
  let (given, values) ← optionsOf (['H', 'S', 'a'] ++ addedResources.map (·.1)) [] args
  let ofHard := given.any (·.1 == 'H')
  let ofSoft := given.any (·.1 == 'S')
  let limits ← perform fun program => .look fun machine =>
    ((machine.process? program.process).map (·.limits)).getD Machine.usualLimits
  let told (resource? : Option Resource) (size : Nat) (usual : Option Nat) : String :=
    match resource?.bind fun resource => limits.find? (·.resource == resource) with
    | some limit => limitText (if ofHard && !ofSoft then limit.hard else limit.soft) size
    | none => limitText usual size
  let letters := (given.map (·.1)).filter fun letter => letter != 'H' && letter != 'S' && letter != 'a'
  let isWhole := given.any (·.1 == 'a')
  let chosen := if isWhole then addedResources
    else (if letters.isEmpty then ['f'] else letters).filterMap fun letter => addedResources.find? (·.1 == letter)
  match values with
  | [] =>
    for (letter, resource?, name, unit, size, usual) in chosen do
      let value := told resource? size usual
      if isWhole || letters.length > 1 then
        let mark := s!"({unit}-{letter})"
        let gap := String.ofList (List.replicate (20 - name.length + (20 - mark.length)) ' ')
        say (utf8 s!"{name}{gap}{mark} {value}\n")
      else say (utf8 (value ++ "\n"))
    return 0
  | text :: _ =>
    match chosen.head? with
    | some (_, some resource, name, _, size, _) =>
      let former := (limits.find? (·.resource == resource)).getD ⟨resource, none, none⟩
      let value ← if text == utf8 "unlimited" then pure none
        else if text == utf8 "hard" then pure former.hard
        else if text == utf8 "soft" then pure former.soft
        else if text.all Printing.isDecimal then pure (some (Printing.digits 10 text * size))
        else failAs 1 (text ++ utf8 ": invalid number") []
      let limit := changedLimit ofHard ofSoft value former
      match limitFault? former limit with
      | some errno => failAs 1 (utf8 s!"{name}: cannot modify limit: {errno.text}") []
      | none =>
        setLimit limit
        return 0
    | _ => return 0

/-- Tell the limits of the shell or set one. None can be raised beyond its hard one. -/
def ulimit_ (args : List Bytes) : Run Nat := do
  if (← get).isExtended then return ← limitAll args
  let (given, values) ← optionsOf ("HSatfdscmlpnvwr".toList) [] args
  let ofHard := given.any (·.1 == 'H')
  let ofSoft := given.any (·.1 == 'S')
  let number := (← get).program.process
  let limits ← perform fun _ => .look fun machine =>
    ((machine.process? number).map (·.limits)).getD Machine.usualLimits
  let toldOf (limit : Limit) : Option Nat := if ofHard && !ofSoft then limit.hard else limit.soft
  let told (resource : Resource) : Option Nat :=
    ((limits.find? (·.resource == resource)).map toldOf).getD none
  if given.any (·.1 == 'a') then
    for (_, resource, name, unit) in resources do
      let padding := String.ofList (List.replicate (20 - name.length) ' ')
      say (utf8 (name ++ padding ++ " " ++ limitText (told resource) unit ++ "\n"))
    return 0
  let letter := ((given.map (·.1)).filter fun letter => letter != 'H' && letter != 'S').getLast?.getD 'f'
  let (resource, unit) := ((resources.find? (·.1 == letter)).map (·.2)).elim (Resource.file, 512)
    fun (resource, _, unit) => (resource, unit)
  match values with
  | [] =>
    say (utf8 (limitText (told resource) unit ++ "\n"))
    return 0
  | [text] =>
    let value ← if text == utf8 "unlimited" then pure none
      else if text.all Printing.isDecimal then pure (some (Printing.digits 10 text * unit))
      else fail (utf8 "bad number")
    let former := (limits.find? (·.resource == resource)).getD ⟨resource, none, none⟩
    let limit := changedLimit ofHard ofSoft value former
    match limitFault? former limit with
    | some errno => fail (utf8 s!"error setting limit ({errno.text})")
    | none =>
      setLimit limit
      return 0
  | _ => fail (utf8 "too many arguments")

def times_ (args : List Bytes) : Run Nat := do
  let _ ← if (← get).isExtended then optionsOf [] [] args else pure ([], args)
  let time := if (← get).isExtended then "0m0.000s" else "0m0.000000s"
  say (utf8 s!"{time} {time}\n{time} {time}\n")
  return 0

end ExitParity.Shell.Builtin
