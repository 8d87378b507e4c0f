import ExitParity.Host.Condition
import ExitParity.Host.Expression
import ExitParity.Host.Formatted
import ExitParity.Shell.Builtins.Places
import ExitParity.Shell.Builtins.Processes
import ExitParity.Shell.Builtins.Input
import ExitParity.Shell.Braces
import ExitParity.Shell.Reader

namespace ExitParity.Shell

/-- How a command is run: whether somebody asks for its status, and whether
the shell has nothing to do behind it. -/
structure Mode where
  tested : Bool
  isLast : Bool

def withoutLineEnds (text : Bytes) : Bytes := (text.reverse.dropWhile (· == 0x0a)).reverse

/-- The first of the descriptors that channels to scripts are kept behind. -/
def firstChannel : Nat := 60

def freeChannel (machine : Machine) (process : Nat) : Nat :=
  let used := ((machine.process? process).map (·.descriptors.map (·.1))).getD []
  ((List.range 4).map fun index => firstChannel + 3 - index).find? (!used.contains ·) |>.getD firstChannel

/-- Close the channels that a command was given. -/
def closeChannels : Run Unit :=
  perform fun program => .act fun machine =>
    ((), machine.modify program.process fun process =>
      { process with descriptors := process.descriptors.filter (·.1 < firstChannel) })

/-- The texts of a match and of its groups. -/
def matchedTexts (letters : Array Nat) (found : Expression.Match) : List Bytes :=
  let text (first last : Nat) : Bytes := Letters.toBytes true (letters.toList.drop first |>.take (last - first))
  let count := (found.groups.map (·.1)).foldl max 0
  text found.first found.last :: (List.range count).map fun index =>
    match found.groups.find? (·.1 == index + 1) with
    | some (_, first, last) => text first last
    | none => []

def attempt {α : Type} (run : Run α) : Run (Except Stop α) := ExceptT.lift run.run

/-- A run as the thread of its own process. -/
def threadOf (run : Run Unit) (shell : Shell) : Thread Machine :=
  (run.run.run shell : Deed (Except Stop Unit × Shell)) fun _ => .ended

/-- Whether something is to be done on a signal or at the end. -/
def hasTraps (shell : Shell) : Bool := shell.traps.any (!·.2.isEmpty)

/-- The variable that counts the copies of the shell from the first one on. -/
def depthVariable : Bytes := utf8 "BASH_SUBSHELL"

/-- The shell as a copy of it begins: traps are forgotten, but not that
signals are ignored. -/
def copied (shell : Shell) (number : Nat) : Shell :=
  let depth := ((shell.valueOf? depthVariable).bind number?).getD 0
  { shell with
    program := { shell.program with process := number }
    traps := shell.traps.filter (·.2.isEmpty)
    jobs := []
    bindings :=
      if shell.isExtended then
        put depthVariable { Variable.absent with value := some (utf8 (toString (depth + 1))) } shell.bindings
      else shell.bindings }

/-- Start a copy of the shell that does something. The machine is prepared for
the copy at once. -/
def forkShell (prepare : Nat → Nat → Machine → Machine) (body : Run Unit) : Run Nat := do
  let shell ← get
  perform fun program => do
    .rest callTime
    let number ← .act fun machine =>
      let (number, machine) := machine.forkOf program.process
      let machine := machine.modify number fun process => { process with caught := [] }
      (number, prepare program.process number machine)
    .fork number fun () => threadOf body (shell.copied number)
    return number

/-- What a command that is not waited for has as its input, and the signals
that it does not notice. -/
def detach (isFirst : Bool) (number : Nat) (machine : Machine) : Machine :=
  let machine := machine.modify number fun process =>
    { process with ignored := [Signal.interrupt, Signal.quit] ++ process.ignored }
  if isFirst then
    let (opened, machine) := machine.addFile ⟨.device .null, true, true⟩
    machine.setDescriptor number 0 (some opened)
  else machine

/-- Note a job that is not waited for. -/
def addJob (processes : List Nat) : Run Unit :=
  modify fun shell =>
    let used := shell.jobs.map (·.number)
    let number := ((List.range (used.length + 1)).map (· + 1)).find? (!used.contains ·) |>.getD 1
    { shell with jobs := shell.jobs ++ [⟨number, processes⟩], lastBackground := processes.getLast? }

/-- The variable with the last word of the last command. -/
def lastWord : Bytes := [0x5f]

/-- Become the program in a file. Comes back only with a fault. -/
def replaceBy (path : Bytes) (argv : List Bytes) : Run Errno := do
  let shell ← get
  perform fun program => do
    let env := shell.exports
    let env := if shell.isExtended then env.filter (·.1 != lastWord) ++ [(lastWord, path)] else env
    match Image.ofFileOrText (← program.tree) env ⟨path⟩ argv with
    | .error errno => return errno
    | .ok image =>
      .act fun machine =>
        ((), machine.modify program.process fun process =>
          { process with
            caught := []
            pending := []
            descriptors := process.descriptors.filter fun (number, _) => number < firstInternal || firstChannel ≤ number })
      .become fun () => shell.launch image { program with argv := image.argv, env }

/-- Try to become one of the programs at some paths. -/
def replaceByAny (argv : List Bytes) : List Bytes → Errno → Run Errno
  | [], errno => return errno
  | path :: rest, former => do
    let errno ← replaceBy path argv
    replaceByAny argv rest (if errno == .noEntry || errno == .notDirectory then former else errno)

/-- Become another program, or complain and end. -/
def executeInstead (argv paths : List Bytes) : Run Unit := do
  let errno ← replaceByAny argv paths .noEntry
  let name := argv.head?.getD []
  let tree ← perform fun program => program.tree
  let shell ← get
  let isFolder := shell.isExtended && paths.any fun path => tree.isDirectory ⟨path⟩
  let fault := if isFolder then utf8 Errno.isDirectory.text else programFault shell.dialect name errno
  if shell.isExtended && shell.command.isSome then
    if name.elem Path.slash then modify fun shell => { shell with command := none }
    complain (name ++ utf8 ": " ++ (if name.elem Path.slash then fault else utf8 (faultText "not found" errno)))
  else complain (name ++ utf8 ": " ++ fault)
  setStatus (if [Errno.noEntry, .notDirectory, .tooManyLinks, .nameTooLong].contains errno then 127 else 126)
  throw .exit

/-- The files that a script of a name is looked for in. -/
def scriptPath (name : Bytes) : Run Bytes := do
  if name.elem Path.slash then return name
  let tree ← perform fun program => program.tree
  let isFile (path : Bytes) : Bool := match tree.node ⟨path⟩ with
    | .ok (.file ..) => true
    | _ => false
  match (candidates (← get).searchPath name).find? isFile with
  | some path => return path
  | none =>
    if !(← get).isExtended then fail (name ++ utf8 ": not found")
    if (tree.node ⟨name⟩).toOption.isSome then return name
    modify fun shell => { shell with command := none }
    fail (name ++ utf8 s!": {Errno.noEntry.text}")

/-- The text of a script, without zero bytes. -/
def scriptText (path : Bytes) : Run Bytes := do
  match ← perform fun program => program.readFile ⟨path⟩ with
  | .ok text => return text.filter (· != 0)
  | .error errno => fail (openingFault (← get).dialect path false errno)

namespace Builtin

def loopLevels (args : List Bytes) : Run Nat := do
  if (← get).isExtended && (← get).loops == 0 then
    complain (utf8 "only meaningful in a \x60for', \x60while', or \x60until' loop")
    return 0
  let loops := (← get).loops
  match args, (← get).isExtended with
  | [], _ => return min 1 loops
  | text :: _, false =>
    let number ← numberOf text
    if number == 0 then fail (utf8 "Illegal number: " ++ text)
    return min number loops
  | text :: rest, true =>
    match Condition.integer? text with
    | none =>
      complain (text ++ utf8 ": numeric argument required")
      setStatus 128
      throw .exit
    | some number =>
      if !rest.isEmpty then dropLine (utf8 "too many arguments") []
      if number < 1 then
        complain (text ++ utf8 ": loop count out of range")
        setStatus 1
        throw (.breakLoop loops)
      return min number.toNat loops

def break_ (args : List Bytes) : Run Nat := do
  let levels ← loopLevels args
  setStatus 0
  if levels > 0 then throw (.breakLoop levels) else return 0

def continue_ (args : List Bytes) : Run Nat := do
  let levels ← loopLevels args
  setStatus 0
  if levels > 0 then throw (.continueLoop levels) else return 0

/-- The status that an argument asks for. -/
def statusArgument (text : Bytes) : Run Nat := do
  if !(← get).isExtended then return ← numberOf text
  match Condition.integer? text with
  | some value => return (value % 256).toNat
  | none =>
    complain (text ++ utf8 ": numeric argument required")
    return 2

def return_ (args : List Bytes) : Run Nat := do
  let shell ← get
  if shell.isExtended && args.length > 1 then dropLine (utf8 "too many arguments") []
  let status ← match args with
    | [] => pure (shell.statusBefore.getD shell.status)
    | text :: _ => statusArgument text
  if shell.isExtended && shell.calls.isEmpty then
    failAs 2 (utf8 "can only \x60return' from a function or sourced script") []
  setStatus status
  throw .returned

def exit_ (args : List Bytes) : Run Nat := do
  match args with
  | [] => setStatus ((← get).statusBefore.getD (← get).status)
  | text :: rest =>
    let status ← statusArgument text
    if !rest.isEmpty && (← get).isExtended && status != 2 then dropLine (utf8 "too many arguments") []
    setStatus (status % 256)
  throw .exit

def echo_ (args : List Bytes) : Run Nat := do
  say ((if (← get).isExtended then Printing.systemEchoed false false else Printing.echoed) args)
  return 0

def printf_ (args : List Bytes) : Run Nat := do
  let isExtended := (← get).isExtended
  let (given, args) ← optionsOf [] (if isExtended then ['v'] else []) args
  match args with
  | [] => if isExtended then failUsage else fail (utf8 "usage: printf format [arg ...]")
  | format :: args =>
    let printed := Printing.formatted (if isExtended then Printing.ofExtendedShell else Printing.ofShell) format
      (args.length + 1) args
    for complaint in printed.complaints do
      complain complaint
    match printed.fault with
    | some fault => fail fault
    | none =>
      match given.getLast? with
      | some (_, name) => assign name printed.text
      | none => say printed.text
      return if printed.complaints.isEmpty then 0 else 1

def test_ (bracketed : Bool) (args : List Bytes) : Run Nat := do
  if bracketed && args.getLast? != some [0x5d] then failAs 2 (utf8 "missing \x60]'") (utf8 "missing ]")
  let words := if bracketed then args.dropLast else args
  let isCore := !(← get).isExtended
  match words with
  | [[0x2d, 0x76], name] => if !isCore then return if ((← get).valueOf? name).isSome then 0 else 1
  | _ => pure ()
  match Condition.holds ⟨← perform fun program => program.tree, isCore⟩ (words.length + 1) words with
  | .ok value => return if value then 0 else 1
  | .error complaint => failAs 2 complaint.addedMessage complaint.shellMessage

/-- Tell what a name would run. -/
def command_ (args : List Bytes) : Run Nat := do
  let (given, args) ← optionsOf ['p', 'v', 'V'] [] args
  let path := if given.any (·.1 == 'p') then some defaultSearchPath else none
  let isExtended := (← get).isExtended
  let names := if isExtended then args else args.take 1
  if !given.any fun option => option.1 == 'v' || option.1 == 'V' then return 0
  let mut status := if names.isEmpty then 0 else if isExtended then 1 else 127
  for name in names do
    if ← describe path (given.any (·.1 == 'V')) name then status := 0
  return status

end Builtin

/-- A command with its first words expanded: its name as far as it is known,
the words not yet expanded, and how the name is to be looked up. -/
structure Opening where
  fields : List Bytes
  words : List Word
  path : Option Bytes
  functions : Bool
  /-- Whether the shell's own command is a special one, if it is one. -/
  special : Option Bool
  assigning : Bool
  /-- The command of the shell's own that it is. -/
  builtin? : Option Builtin

/-- Expand words until there is a field. -/
def expandSome (outputs : Outputs) : List Word → Run (List Bytes × List Word)
  | [] => return ([], [])
  | word :: rest => do
    let fields ← fieldsOf outputs word
    if fields.isEmpty then expandSome outputs rest else return (fields, rest)

/-- Pass over the options of `command`. Nothing is left when it stands for
itself. -/
def passOptions (outputs : Outputs) : Nat → List Bytes → List Word → Option Bytes →
    Run (Option (List Bytes × List Word × Option Bytes))
  | 0, _, _, _ => return none
  | fuel + 1, fields, words, path => do
    let (fields, words) ← if fields.isEmpty then expandSome outputs words else pure (fields, words)
    match fields with
    | [] => return none
    | (0x2d :: letter :: letters) :: rest =>
      if letter == 0x2d && letters.isEmpty then
        let (fields, words) ← if rest.isEmpty then expandSome outputs words else pure (rest, words)
        return if fields.isEmpty then none else some (fields, words, path)
      else if (letter :: letters).all (· == 0x70) then
        passOptions outputs fuel rest words (some defaultSearchPath)
      else return none
    | fields => return some (fields, words, path)

/-- Find out what kind of command the first field begins. -/
def openCommand (outputs : Outputs) : Nat → Opening → Run Opening
  | 0, opening => return opening
  | fuel + 1, opening => do
    let name := opening.fields.head?.getD []
    match ← meaning opening.path opening.functions name with
    | .builtin builtin =>
      let opening := { opening with
        special := opening.special.or (some builtin.isSpecial)
        assigning := builtin.isAssigning
        builtin? := some builtin }
      if builtin != .command then return opening
      match ← passOptions outputs (opening.words.length + opening.fields.length + 1) (opening.fields.drop 1) opening.words
          opening.path with
      | none =>
        return opening
      | some (fields, words, path) => openCommand outputs fuel { opening with fields, words, path, functions := false }
    | _ => return opening

/-- The fields of the words behind the first ones. -/
def expandRest (outputs : Outputs) (assigning : Bool) : List Word → Run (List Bytes)
  | [] => return []
  | word :: rest => do
    let isAssignment := match word with
      | .literal bytes false :: _ =>
        let name := bytes.takeWhile (· != 0x3d)
        name.length < bytes.length && isName name
      | _ => false
    let fields ← if assigning && isAssignment then pure [← assignmentText word] else fieldsOf outputs word
    return fields ++ (← expandRest outputs assigning rest)
where
  assignmentText : Word → Run Bytes
    | .literal bytes quoted :: rest => do
      let name := bytes.takeWhile (· != 0x3d)
      let value := bytes.drop (name.length + 1)
      let text ← valueOf outputs (if value.isEmpty then rest else .literal value quoted :: rest)
      return name ++ 0x3d :: text
    | word => valueOf outputs word

/-- Show a command before it is carried out. -/
def trace (kept : List Kept) (assigned : List (Bytes × Bytes)) (argv : List Bytes) : Run Unit := do
  let shell ← get
  if shell.hasOption 'x' then
    let shown (value : Bytes) : Bytes := if shell.isExtended then quoteWhenNeeded value else value
    let settings := assigned.map fun (name, value) => name ++ 0x3d :: (if value.isEmpty then [] else shown value)
    let words := argv.map shown
    let lines := if shell.isExtended then settings.map (fun setting => [setting]) ++ [words] else [settings ++ words]
    let target := ((kept.find? (·.descriptor == 2)).bind (·.copy)).getD 2
    for line in lines do
      if !line.isEmpty || !shell.isExtended then
        let text := (shell.valueOf? (utf8 "PS4")).getD [] ++ Bytes.joinWith [0x20] line ++ [0x0a]
        let _ ← perform fun program => program.write target text

/-- Give elements of a list values, each behind the one before it unless it says
its own index. -/
def assignElements (outputs : Outputs) (list : Bytes) : Nat → List Word → Run Unit
  | _, [] => return ()
  | next, word :: rest => do
    match Word.cutAt 0x5d false word with
    | some (.literal (0x5b :: index) false :: more, .literal (0x3d :: value) false :: after) => do
      let name ← elementOf outputs wordDepth list (if index.isEmpty then more else .literal index false :: more)
      assign name (← valueOf outputs (if value.isEmpty then after else .literal value false :: after))
      let place := ((Bytes.stripPrefix? (list ++ [0x5b]) name).bind fun index => number? index.dropLast).getD 0
      assignElements outputs list (place + 1) rest
    | _ => do
      let fields ← fieldsOf outputs word
      for (value, offset) in fields.zipIdx do
        assign (elementName list (utf8 (toString (next + offset)))) value
      assignElements outputs list (next + fields.length) rest

/-- Set the variables of a command, for its own time or for good. -/
def assignAll (outputs : Outputs) (temporary exported : Bool) : List Assignment → Run (List (Bytes × Bytes))
  | [] => return []
  | .one plain index? adds word :: rest => do
    let name ← match index? with
      | some index => elementOf outputs wordDepth plain index
      | none => pure plain
    let value ← valueOf outputs word
    let former := ((← get).find? name).getD .absent
    let start := former.value.getD []
    let value ←
      if former.kind == .number then calculate (if adds then start ++ 0x2b :: value else value)
      else pure (if adds then start ++ value else value)
    if temporary then keepForCall name
    if temporary && former.readOnly && (← get).isExtended then
      let _ ← attempt (assign name value)
    else assign name value
    if temporary || exported then
      let former := ((← get).find? name).getD .absent
      define name { former with exported := true }
    return (name, value) :: (← assignAll outputs temporary exported rest)
  | .all list adds words :: rest => do
    let words := words.flatMap Braces.words
    let next := ((((← get).elements list).getLast?.bind (number? ·.1)).map (· + 1)).getD 0
    if adds then assignElements outputs list next words
    else
      -- the values may come from the list itself
      let former ← get
      let values ← words.mapM fun word => do
        match word with
        | .literal (0x5b :: _) false :: _ => pure (none : Option (List Bytes))
        | word => do
          let fields ← fieldsOf outputs word
          pure (some fields)
      unsetList list
      if values.all Option.isSome && !former.keyed.contains list then
        assignList list false (values.flatMap fun fields => fields.getD [])
      else assignElements outputs list 0 words
    assignAll outputs temporary exported rest

/-- Let a loop be left or gone on with as a command inside it asks. The
outcome tells whether the loop goes on. -/
def leaveOrGoOn : Except Stop Unit → Run Bool
  | .ok () => return true
  | .error (.breakLoop levels) => if levels ≤ 1 then return false else throw (.breakLoop (levels - 1))
  | .error (.continueLoop levels) => if levels ≤ 1 then return true else throw (.continueLoop (levels - 1))
  | .error stop => throw stop

def enterLoop : Run Unit := modify fun shell => { shell with loops := shell.loops + 1 }

def leaveLoop : Run Unit := modify fun shell => { shell with loops := shell.loops - 1 }

/-- Complain about a text that is no script of the extended language, and show
the line. -/
def refuseText (begun reached : Source) (complaint : String) : Run Nat := do
  let shell ← get
  let heading := shell.complainer ++ utf8 ": " ++ utf8 begun.place ++ utf8 s!"line {shell.line}: "
  let isPlaced := complaint.startsWith " near"
  let line := ((Bytes.split 0x0a begun.text)[reached.line - begun.line]?).getD []
  let text := if complaint.startsWith ":" || isPlaced then utf8 s!"syntax error{complaint}\n" else utf8 (complaint ++ "\n")
  let shown : Bytes := if isPlaced then heading ++ 0x60 :: line ++ utf8 "'\n" else []
  let _ ← perform fun program => program.write 2 (heading ++ text ++ shown)
  if !begun.goesOn then return 2
  setStatus 2
  throw .exit

/-- Tell about the documents that were not ended before the text was. -/
def warnOfDocuments (source : Source) : Run Unit := do
  let shell ← get
  if shell.isExtended then
    for (line, mark) in source.unfinished do
      let text := shell.complainer ++ utf8 s!": line {source.line - 1}: warning: here-document at line {line} delimited by " ++
        utf8 "end-of-file (wanted \x60" ++ mark ++ utf8 "')\n"
      let _ ← perform fun program => program.write 2 text

mutual

/-- Carry out a command. -/
def evaluate : Nat → Mode → Command → Run Unit
  | 0, _, _ => return ()
  | fuel + 1, mode, command => do
    if !(← get).hasOption 'n' then
      match command with
      | .nothing => pure ()
      | command =>
        runTraps fuel
        let isChecked ← evaluateNode fuel mode command
        runTraps fuel
        let shell ← get
        if isChecked && !mode.tested && shell.status != 0 then
          if shell.isExtended && shell.functionDepth == 0 then runTrapsOf fuel [errorTrap]
          if shell.hasOption 'e' then throw .exit
    if mode.isLast then throw .exit

/-- Carry out a command, and tell whether its failure can end the shell. -/
def evaluateNode : Nat → Mode → Command → Run Bool
  | 0, _, _ => return false
  | fuel + 1, mode, command => do
    let inside : Mode := ⟨mode.tested, false⟩
    match command with
    | .nothing => return false
    | .simple line assignments words redirects =>
      simple fuel mode line assignments words redirects
      return true
    | .pipeline commands background =>
      let processes ← startPipeline fuel background commands true none
      if background then
        addJob processes
        setStatus 0
      else setStatus (← Builtin.awaitJob processes)
      return true
    | .background line body redirects =>
      atLine line
      let number ← forkShell (fun _ number machine => detach true number machine) do
        let changes ← destinations (outputOf fuel) redirects
        let (sound, _) ← redirectAll (outputOf fuel) false changes []
        if !sound then
          setStatus (← get).redirectionStatus
          conclude fuel (throw .failed)
        else conclude fuel (evaluate fuel ⟨false, true⟩ body)
      addJob [number]
      setStatus 0
      return true
    | .subshell line body redirects =>
      atLine line
      let changes ← destinations (outputOf fuel) redirects
      let content : Run Unit := do
        let (sound, _) ← redirectAll (outputOf fuel) false changes []
        if !sound then
          setStatus (← get).redirectionStatus
          throw .failed
        evaluate fuel ⟨mode.tested, true⟩ body
      if mode.isLast && !(← get).hasTraps then content
      else
        let number ← forkShell (fun _ _ machine => machine) (conclude fuel content)
        setStatus (← Builtin.awaitJob [number])
      return true
    | .redirected line body redirects =>
      atLine line
      let changes ← destinations (outputOf fuel) redirects
      let (sound, kept) ← redirectAll (outputOf fuel) true changes []
      let result ←
        if sound then attempt (evaluate fuel inside body)
        else
          setStatus (← get).redirectionStatus
          pure (.ok ())
      giveBack kept
      match result with
      | .ok () => return false
      | .error stop => throw stop
    | .negated body =>
      evaluate fuel ⟨true, false⟩ body
      setStatus (if (← get).status == 0 then 1 else 0)
      return false
    | .sequence first second =>
      evaluate fuel inside first
      evaluate fuel mode second
      return false
    | .both first second =>
      evaluate fuel ⟨true, false⟩ first
      if (← get).status == 0 then evaluate fuel mode second
      return false
    | .either first second =>
      evaluate fuel ⟨true, false⟩ first
      if (← get).status != 0 then evaluate fuel mode second
      return false
    | .choose condition accepted otherwise =>
      evaluate fuel ⟨true, false⟩ condition
      let branch := if (← get).status == 0 then accepted else otherwise
      match branch with
      | .nothing => setStatus 0
      | branch => evaluate fuel mode branch
      return false
    | .loop whileTrue condition body =>
      enterLoop
      let result ← attempt (turn fuel inside whileTrue condition body 0)
      leaveLoop
      match result with
      | .ok status => setStatus status
      | .error stop => throw stop
      return false
    | .each line name words body =>
      atLine line
      let words := if (← get).isExtended then words.flatMap Braces.words else words
      let values ← expandRest (outputOf fuel) false words
      enterLoop
      setStatus 0
      let result ← attempt (turnEach fuel inside name values body)
      leaveLoop
      match result with
      | .ok () => return false
      | .error stop => throw stop
    | .select line word arms =>
      atLine line
      spendCommand
      let subject ← textOf (outputOf fuel) word
      setStatus 0
      chooseArms fuel mode subject arms false
      return false
    | .count line first condition next body =>
      atLine line
      let _ ← countWith fuel first
      enterLoop
      setStatus 0
      let result ← attempt (turnCounting fuel inside line condition next body)
      leaveLoop
      match result with
      | .ok () => return false
      | .error stop => throw stop
    | .timed body =>
      let clock : Run Nat := perform fun _ => .look fun machine => machine.clock
      let began ← clock
      evaluate fuel inside body
      let passed := ((← clock) - began) / 10 ^ 6
      let digits (count : Nat) : String := String.ofList (List.replicate (3 - (toString count).length) '0') ++ toString count
      let text := s!"\nreal\t{passed / 60000}m{passed / 1000 % 60}.{digits (passed % 1000)}s\nuser\t0m0.000s\nsys\t0m0.000s\n"
      let _ ← perform fun program => program.write 2 (utf8 text)
      return false
    | .define line name body =>
      modify fun shell =>
        let source := if shell.calls.isEmpty && !shell.isOfFile then utf8 "environment" else shell.complainer
        { shell with functions := shell.functions.filter (·.1 != name) ++ [(name, ⟨name, source, line, body⟩)] }
      setStatus 0
      return false
    | .compute line expression =>
      atLine line
      spendCommand
      setStatusOf (← countWith fuel expression)
      return true
    | .check line test =>
      atLine line
      spendCommand
      setStatusOf (← holds fuel test)
      return true
where
  atLine (line : Nat) : Run Unit := modify fun shell => { shell with line }

/-- Start the commands of a pipeline, each one reading what the one before it
prints. -/
def startPipeline : Nat → Bool → List Command → Bool → Option Nat → Run (List Nat)
  | 0, _, _, _, _ => return []
  | _, _, [], _, _ => return []
  | fuel + 1, background, command :: rest, isFirst, input => do
    let output ← match rest with
      | [] => pure none
      | _ => do
        let ends ← perform fun _ => .act (·.makePipe [])
        pure (some ends)
    let slot ← perform fun program => .look fun machine => freeInternal machine program.process
    let number ← forkShell (fun parent number machine =>
      let machine := if background then detach isFirst number machine else machine
      let machine := match input with
        | some held =>
          let machine := machine.setDescriptor number 0 (machine.opened? number held)
          (machine.setDescriptor number held none).setDescriptor parent held none
        | none => machine
      match output with
      | some (reading, writing) =>
        (machine.setDescriptor number 1 (some writing)).setDescriptor parent slot (some reading)
      | none => machine) (conclude fuel (evaluate fuel ⟨false, true⟩ command))
    let others ← startPipeline fuel background rest false (output.map fun _ => slot)
    return number :: others

/-- Turn a loop until its condition fails or says so, and tell the status of
the last turn. -/
def turn : Nat → Mode → Bool → Command → Command → Nat → Run Nat
  | 0, _, _, _, _, status => return status
  | fuel + 1, mode, whileTrue, condition, body, status => do
    match ← attempt (evaluate fuel ⟨true, false⟩ condition) with
    | .ok () =>
      if ((← get).status == 0) != whileTrue then return status
      let result ← attempt (evaluate fuel mode body)
      let status := (← get).status
      if ← leaveOrGoOn result then turn fuel mode whileTrue condition body status else return status
    | result =>
      if ← leaveOrGoOn result then turn fuel mode whileTrue condition body status else return status

/-- Whether the value of an expression is other than zero. -/
def countWith : Nat → List Part → Run Bool
  | 0, _ => return false
  | fuel + 1, expression => do
    let text ← textOf (outputOf fuel) expression
    let outer := (← get).command
    modify fun shell => { shell with command := some (utf8 "((") }
    let value ← attempt (calculate text)
    modify fun shell => { shell with command := outer }
    match value with
    | .ok value => return value != [0x30]
    | .error _ => return false

/-- Turn a loop while its condition is other than zero. -/
def turnCounting : Nat → Mode → Nat → List Part → List Part → Command → Run Unit
  | 0, _, _, _, _, _ => return ()
  | fuel + 1, mode, line, condition, next, body => do
    atLine line
    spendCommand
    if condition.isEmpty || (← countWith fuel condition) then
      let result ← attempt (evaluate fuel mode body)
      if ← leaveOrGoOn result then
        let _ ← countWith fuel next
        turnCounting fuel mode line condition next body
where
  atLine (line : Nat) : Run Unit := modify fun shell => { shell with line }

def turnEach : Nat → Mode → Bytes → List Bytes → Command → Run Unit
  | 0, _, _, _, _ => return ()
  | _, _, _, [], _ => return ()
  | fuel + 1, mode, name, value :: rest, body => do
    if (← get).isExtended && ((← get).find? name).any (·.readOnly) then
      let _ ← attempt (assign name value)
      return ()
    assign name value
    let result ← attempt (evaluate fuel mode body)
    if ← leaveOrGoOn result then turnEach fuel mode name rest body

/-- Carry out the commands behind the first pattern that matches, and those that
are to follow them. -/
def chooseArms : Nat → Mode → Bytes → List (List Word × Command × Follow) → Bool → Run Unit
  | 0, _, _, _, _ => return ()
  | _, mode, _, [], _ => do if mode.isLast then throw .exit
  | fuel + 1, mode, subject, (patterns, body, follow) :: rest, isChosen => do
    let isHere ← if isChosen then pure true else matchesAny fuel subject patterns
    if !isHere then chooseArms fuel mode subject rest false
    else
      let isEnd := follow == .nothing
      match body with
      | .nothing => pure ()
      | body => evaluate fuel ⟨mode.tested, mode.isLast && isEnd⟩ body
      if !isEnd then chooseArms fuel mode subject rest (follow == .commands)

def matchesAny : Nat → Bytes → List Word → Run Bool
  | 0, _, _ => return false
  | _, _, [] => return false
  | fuel + 1, subject, pattern :: rest => do
    let items := (← get).patternOf (← markedOf (outputOf fuel) pattern)
    if Pattern.accepts items subject then return true else matchesAny fuel subject rest

/-- Whether a condition on words holds. -/
def holds : Nat → Test → Run Bool
  | 0, _ => return false
  | fuel + 1, test => do
    let outputs := outputOf fuel
    let tree ← perform fun program => program.tree
    match test with
    | .not test => return !(← holds fuel test)
    | .both first second => if ← holds fuel first then holds fuel second else return false
    | .either first second => if ← holds fuel first then return true else holds fuel second
    | .unary operator word =>
      let text ← textOf outputs word
      if operator == utf8 "-v" then return ((← get).valueOf? text).isSome
      if operator == utf8 "-o" then
        let shell ← get
        return (addedOptionNames.find? (utf8 ·.1 == text)).any fun (_, letter, on) => letter.elim on shell.hasOption
      return Condition.unary tree (Utf8.display operator) text
    | .binary operator first second =>
      let text ← textOf outputs first
      match Utf8.display operator with
      | "=" | "==" => return Pattern.accepts ((← get).patternOf (← markedOf outputs second)) text
      | "!=" => return !Pattern.accepts ((← get).patternOf (← markedOf outputs second)) text
      | "=~" =>
        let manner : Manner := ⟨true, true, false, false, false⟩
        match Expression.ofLetters manner (Letters.ofBytes true (← textOf outputs second)) with
        | .ok (expression, _) =>
          let letters := (Letters.ofBytes true text).toArray
          match expression.search? manner letters 0 with
          | none =>
            unsetList (utf8 "BASH_REMATCH")
            return false
          | some found =>
            assignList (utf8 "BASH_REMATCH") false (matchedTexts letters found)
            return true
        | .error _ =>
          setStatus 2
          return false
      | name =>
        let isNumeric := ["-eq", "-ne", "-lt", "-le", "-gt", "-ge"].contains name
        let first ← if isNumeric then calculate text else pure text
        let second ← textOf outputs second
        let second ← if isNumeric then calculate second else pure second
        return (Condition.binary tree name first second).toOption.getD false

/-- What the words of a command have to do with other commands. -/
def outputOf : Nat → Outputs
  | 0 => ⟨fun _ => return [], fun _ _ => return []⟩
  | fuel + 1 => ⟨printedBy fuel, channelTo fuel⟩

/-- Start a script, and tell the path by which what it prints can be read or
what it reads can be written. -/
def channelTo : Nat → Command → Bool → Run Bytes
  | 0, _, _ => return []
  | fuel + 1, script, isRead => do
    let slot ← perform fun program => .look fun machine => freeChannel machine program.process
    let number ← forkShell (fun parent number machine =>
      let ((reading, writing), machine) := machine.makePipe []
      let (own, other) := if isRead then (writing, reading) else (reading, writing)
      (machine.setDescriptor number (if isRead then 1 else 0) (some own)).setDescriptor parent slot (some other))
      (conclude fuel (evaluate fuel ⟨false, true⟩ script))
    modify fun shell => { shell with lastBackground := some number }
    return utf8 s!"/dev/fd/{slot}"

/-- What a script prints, without the line ends behind it. -/
def printedBy : Nat → Command → Run Bytes
  | 0, _ => return []
  | fuel + 1, script => do
    match script with
    | .nothing => return []
    | .simple _ [] [] [.file 0 .read word] => do
      if !(← get).isExtended then return []
      let path ← textOf (outputOf fuel) word
      match ← perform fun program => program.readFile ⟨path⟩ with
      | .ok text => return withoutLineEnds (text.filter (· != 0))
      | .error errno =>
        complain (path ++ utf8 s!": {errno.text}")
        modify fun shell => { shell with outputStatus := 1 }
        return []
    | script =>
      let slot ← perform fun program => .look fun machine => freeInternal machine program.process
      let number ← forkShell (fun parent number machine =>
        let ((reading, writing), machine) := machine.makePipe []
        (machine.setDescriptor number 1 (some writing)).setDescriptor parent slot (some reading))
        (conclude fuel (evaluate fuel ⟨false, true⟩ script))
      let bytes ← perform fun program => do
        let bytes ← program.readAll slot
        program.close slot
        return bytes
      let status ← Builtin.awaitOutput number
      modify fun shell => { shell with outputStatus := status, status := if shell.isExtended then status else shell.status }
      return withoutLineEnds ((bytes.toOption.getD []).filter (· != 0))

/-- Carry out a command of words. -/
def simple : Nat → Mode → Nat → List Assignment → List Word → List Redirect → Run Unit
  | 0, _, _, _, _, _ => return ()
  | fuel + 1, mode, line, assignments, words, redirects => do
    modify fun shell => { shell with line, outputStatus := 0 }
    spendCommand
    let before ← get
    if before.isExtended && before.functionDepth == 0 then runTrapsOf fuel [commandTrap]
    let outputs := outputOf fuel
    let words := if (← get).isExtended then words.flatMap Braces.words else words
    let (fields, words) ← expandSome outputs words
    let opening : Opening := ⟨fields, words, none, true, none, false, none⟩
    let opening ← if fields.isEmpty then pure opening else openCommand outputs (words.length + 2) opening
    let rest ← expandRest outputs opening.assigning opening.words
    let argv := opening.fields ++ rest
    let isSpecial := opening.special == some true
    let isKept := isSpecial && (assignments.isEmpty || !(← get).isExtended || opening.assigning)
    let changes ← destinations outputs redirects
    let (sound, kept) ← redirectAll outputs true changes []
    if !sound then
      setStatus (← get).redirectionStatus
      if isSpecial && !(← get).isExtended then throw .failed
      giveBack kept
    else
      let temporary := !argv.isEmpty && !isKept
      let executes := opening.builtin? == some .execute
      if temporary then openCall
      if opening.builtin? == some .locals then
        let lists := assignments.filterMap listName?
        for list in lists do keepListForCall list
        if argv.any fun word => word.head? == some 0x2d && word.elem 0x41 then
          modify fun shell => { shell with keyed := shell.keyed ++ lists }
      let result ← attempt do
        let assigned ← assignAll outputs temporary (executes && argv.length > 1) assignments
        trace kept assigned argv
        if argv.isEmpty then setStatus (← get).outputStatus
        else invoke fuel mode opening isSpecial argv
      if temporary then closeCall
      if executes && result.toBool then forget kept else giveBack kept
      if (words ++ redirects.flatMap wordOf).any isChannel then closeChannels
      modify fun shell => { shell with
        pipeStatus := [shell.status]
        bindings := match argv.getLast?.filter fun _ => shell.isExtended with
          | some word => put lastWord { Variable.absent with value := some word } shell.bindings
          | none => shell.bindings }
      match result with
      | .ok () => return ()
      | .error stop => throw stop
where
  listName? : Assignment → Option Bytes
    | .all list .. => some list
    | .one .. => none
  isChannel (word : Word) : Bool := word.any fun
    | .channel .. => true
    | _ => false
  wordOf : Redirect → List Word
    | .file _ _ word => [word]
    | _ => []

/-- Run what the name of a command stands for. -/
def invoke : Nat → Mode → Opening → Bool → List Bytes → Run Unit
  | 0, _, _, _, _ => return ()
  | fuel + 1, mode, opening, isSpecial, argv => do
    let name := argv.head?.getD []
    match ← meaning opening.path opening.functions name with
    | .missing errno =>
      complain (name ++ utf8 ": " ++ programFault (← get).dialect name errno)
      setStatus 127
    | .program path =>
      let execute : Run Unit := executeInstead argv [path]
      if mode.isLast && !(← get).hasTraps then execute
      else
        let number ← forkShell (fun _ _ machine => machine) (conclude fuel execute)
        setStatus (← Builtin.awaitJob [number])
    | .function function => call fuel mode function (argv.drop 1)
    | .builtin builtin =>
      let outer := (← get).command
      modify fun shell => { shell with command := some name, spoiled := none }
      let result ← attempt (runBuiltin fuel mode builtin (argv.drop 1))
      match result with
      | .ok status =>
        match (← get).spoiled with
        | some errno =>
          complain (if (← get).isExtended then utf8 s!"write error: {errno.text}" else name ++ utf8 ": I/O error")
          setStatus (status ||| 1)
        | none => setStatus status
        modify fun shell => { shell with command := outer }
      | .error stop =>
        modify fun shell => { shell with command := outer }
        match stop with
        | .failed => if isSpecial && !(← get).isExtended then throw stop
        | stop => throw stop

/-- Call a function. -/
def call : Nat → Mode → Function → List Bytes → Run Unit
  | 0, _, _, _ => return ()
  | fuel + 1, mode, function, args => do
    let outer ← get
    set { outer with
      args
      loops := 0
      functionDepth := outer.functionDepth + 1
      calls := ⟨function.name, function.source⟩ :: outer.calls
      optionIndex := 1
      optionOffset := 0 }
    openCall
    let result ← attempt (evaluate fuel ⟨mode.tested, false⟩ function.body)
    closeCall
    modify fun shell => { shell with
      args := outer.args
      loops := outer.loops
      functionDepth := outer.functionDepth
      calls := outer.calls
      optionIndex := outer.optionIndex
      optionOffset := outer.optionOffset }
    match result with
    | .ok () | .error .returned => return ()
    | .error stop => throw stop

/-- Work out expressions, and tell whether the last one is zero. -/
def letAll : List Bytes → Run Nat
  | [] => fail (utf8 "expression expected")
  | [text] => do
    match ← attempt (calculate text) with
    | .ok value => return if value == [0x30] then 1 else 0
    | .error _ => return 1
  | text :: rest => do
    match ← attempt (calculate text) with
    | .ok _ => letAll rest
    | .error _ => return 1

/-- Carry out a command of the shell's own. -/
def runBuiltin : Nat → Mode → Builtin → List Bytes → Run Nat
  | 0, _, _, _ => return 0
  | fuel + 1, mode, builtin, args => do
    match builtin with
    | .nothing | .succeeds => return 0
    | .fails => return 1
    | .source =>
      match args with
      | [] =>
        if !(← get).isExtended then return 0
        complain (utf8 "filename argument required")
        failUsage
      | file :: given =>
        let outer ← get
        if outer.isExtended then set { outer with command := none }
        let path ← scriptPath file
        let text ← scriptText path
        modify fun shell =>
          if shell.isExtended then
            { shell with
              calls := ⟨utf8 "source", path⟩ :: outer.calls
              args := if given.isEmpty then shell.args else given }
          else { shell with command := some path }
        let source := { Source.ofScript outer.dialect text with isShown := true }
        let result ← attempt (runText fuel ⟨false, false⟩ source 0)
        modify fun shell =>
          { shell with calls := outer.calls, args := if outer.isExtended && !given.isEmpty then outer.args else shell.args }
        match result with
        | .ok status => return status
        | .error .returned => return (← get).status
        | .error stop => throw stop
    | .evaluate =>
      let (_, args) ← if (← get).isExtended then optionsOf [] [] args else pure ([], args)
      if (← get).isExtended then modify fun shell => { shell with command := none }
      let shell ← get
      let source := Source.ofScript shell.dialect (Bytes.joinWith [0x20] args)
      let line := if shell.isExtended then shell.line else 1
      runText fuel ⟨mode.tested, false⟩ { source with line, place := "eval: " } 0
    | .execute =>
      let isExtended := (← get).isExtended
      let (given, argv) ← if isExtended then optionsOf ['c', 'l'] ['a'] args else optionsOf [] [] args
      match argv with
      | [] => return 0
      | program :: rest =>
        let searchPath := (← get).searchPath
        if isExtended then
          let level := ((← get).valueOf? (utf8 "SHLVL")).bind number?
          assign (utf8 "SHLVL") (utf8 (toString (level.getD 1 - 1)))
        let name := (given.reverse.find? (·.1 == 'a')).map (·.2)
        executeInstead (name.getD program :: rest) (if program.elem Path.slash then [program] else candidates searchPath program)
        return 0
    | .bracket => Builtin.test_ true args
    | .test => Builtin.test_ false args
    | .echo => Builtin.echo_ args
    | .printf => Builtin.printf_ args
    | .breakLoop => Builtin.break_ args
    | .continueLoop => Builtin.continue_ args
    | .returns => Builtin.return_ args
    | .exit => Builtin.exit_ args
    | .exports => Builtin.export_ args
    | .readOnly => Builtin.readonly_ args
    | .locals => Builtin.local_ args
    | .unset => Builtin.unset_ args
    | .set => Builtin.set_ args
    | .shift => Builtin.shift_ args
    | .read => Builtin.read_ args
    | .options => Builtin.getopts_ args
    | .aliases => Builtin.alias_ args
    | .unalias => Builtin.unalias_ args
    | .changeDirectory => Builtin.cd_ args
    | .workingDirectory => Builtin.pwd_ args
    | .describes => Builtin.type_ args
    | .hash => Builtin.hash_ args
    | .command => Builtin.command_ args
    | .kill => Builtin.kill_ args
    | .wait => Builtin.wait_ args
    | .lets => letAll args
    | .pushPlace => Builtin.pushd_ args
    | .popPlace => Builtin.popd_ args
    | .places => Builtin.dirs_ args
    | .choices => Builtin.shopt_ args
    | .readLines => Builtin.readLines_ args
    | .ignored => return 0
    | .own =>
      match args with
      | [] => return 0
      | name :: rest =>
        match Builtin.ofName? (← get).dialect name with
        | some builtin => runBuiltin fuel mode builtin rest
        | none => fail (name ++ utf8 ": not a shell builtin")
    | .jobs => Builtin.jobs_ args
    | .trap => Builtin.trap_ args
    | .mask => Builtin.umask_ args
    | .limits => Builtin.ulimit_ args
    | .times => Builtin.times_ args
    | .background | .foreground => failAs 1 (utf8 "no job control") (utf8 "No current job")

/-- Carry out a text line by line, and tell the status of the last command. -/
def runText : Nat → Mode → Source → Nat → Run Nat
  | 0, _, _, status => return status
  | fuel + 1, mode, source, status => do
    let shell ← get
    let begun := source
    let (result, source) := Reading.line.run
      { source with
        dialect := shell.dialect
        aliases := if shell.isExtended then [] else shell.aliases
        documents := []
        unfinished := []
        nextDocument := shell.nextDocument }
    modify fun shell =>
      { shell with documents := shell.documents ++ source.documents, nextDocument := source.nextDocument }
    warnOfDocuments source
    if begun.isShown && shell.hasOption 'v' then
      let _ ← perform fun program => program.write 2 (begun.text.take (begun.text.length - source.text.length))
    match result with
    | .error complaint =>
      modify fun shell => { shell with line := source.line }
      if shell.isExtended then refuseText begun source complaint else fail (utf8 s!"Syntax error: {complaint}")
    | .ok none => return status
    | .ok (some command) =>
      match ← attempt (evaluate fuel ⟨mode.tested, mode.isLast && source.isAtEnd⟩ command) with
      | .ok () => pure ()
      | .error .lineDropped =>
        if !source.goesOn || shell.hasOption 'e' then throw .lineDropped
      | .error stop => throw stop
      match command with
      | .nothing => runText fuel mode source status
      | _ => runText fuel mode source (← get).status

/-- Do what is to be done on the signals that have come. -/
def runTraps : Nat → Run Unit
  | 0 => return ()
  | fuel + 1 => do
    if !(← get).traps.isEmpty then
      let signals ← perform fun program => .act fun machine =>
        (((machine.process? program.process).map (·.pending)).getD [],
          machine.modify program.process fun process => { process with pending := [] })
      runTrapsOf fuel (signals.mergeSort (· ≤ ·)).eraseDups

def runTrapsOf : Nat → List Nat → Run Unit
  | 0, _ => return ()
  | _, [] => return ()
  | fuel + 1, signal :: rest => do
    let shell ← get
    match shell.traps.find? (·.1 == signal) with
    | none => runTrapsOf fuel rest
    | some (_, action) =>
      let status := shell.statusBefore.getD shell.status
      -- what is done on a failure is not done for its own failures
      let isOwn := signal > Signal.last
      set { shell with
        statusBefore := some status
        traps := if isOwn then shell.traps.filter (·.1 != signal) else shell.traps }
      let _ ← runText fuel ⟨false, false⟩ (.ofScript shell.dialect action) 0
      modify fun after => { after with
        status
        statusBefore := shell.statusBefore
        line := if shell.isExtended then shell.line else after.line
        traps := if isOwn && !after.traps.any (·.1 == signal) then after.traps ++ [(signal, action)] else after.traps }
      runTrapsOf fuel rest

/-- Do something as a shell, then what is to be done at the end, and end. -/
def conclude : Nat → Run Unit → Run Unit
  | 0, _ => return ()
  | fuel + 1, body => do
    let _ ← attempt body
    let shell ← get
    match shell.traps.find? (·.1 == 0) with
    | none => pure ()
    | some (_, action) =>
      set { shell with
        traps := shell.traps.filter (·.1 != 0)
        statusBefore := some shell.status
        command := none }
      match ← attempt (runText fuel ⟨false, false⟩ (.ofScript shell.dialect action) 0) with
      | .ok _ => setStatus shell.status
      | .error .exit | .error .failed => pure ()
      | .error _ => setStatus shell.status
    let status := (← get).status
    perform fun program => program.exit (status % 256)

end

end ExitParity.Shell
