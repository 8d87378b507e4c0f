import ExitParity.Host.Applets.Options
import ExitParity.Shell.Evaluate

namespace ExitParity.Shell

/-- How deep commands can be nested, the turns of loops counted. -/
def nesting : Nat := 1000000000

/-- What a shell is asked to do: carry out a text, the text of a file, what it
reads, or a text and then what it reads. -/
inductive Request where
  | text (script : Bytes) (thenInput : Bool)
  | file (path : Bytes)
  | input
  /-- Tell about itself. -/
  | version

/-- Read the options of the program. The outcome tells whether a text is to be
the first argument, with the arguments left. -/
def readOptions : Nat → List Bytes → Bool → Run (Bool × List Bytes)
  | 0, args, isText => return (isText, args)
  | fuel + 1, args, isText => do
    match args with
    | (sign :: letters) :: rest =>
      if sign == 0x2d && (letters.isEmpty || letters == [0x2d]) then return (isText, rest)
      else if sign == 0x2d || sign == 0x2b then
        let named := letters.filter fun letter => letter != 0x63 && letter != 0x6c
        let rest ← switchLetters (sign == 0x2d) rest named
        readOptions fuel rest (isText || (sign == 0x2d && letters.elem 0x63))
      else return (isText, args)
    | args => return (isText, args)

/-- Choose what to do, and set the name and the parameters of the shell. -/
def readRequest (args : List Bytes) : Run Request := do
  if (← get).isExtended && args.head? == some (utf8 "--version") then return .version
  let isKnown (arg : Bytes) : Bool :=
    (["--posix", "--norc", "--noprofile", "--login", "--noediting"].map utf8).contains arg
  let args := if (← get).isExtended then args.dropWhile isKnown else args
  let (isText, args) ← readOptions (args.length + 1) args false
  let shell ← get
  match isText, args with
  | true, [] =>
    if shell.isExtended then
      let _ ← perform fun program => program.write 2 (shell.zeroth ++ utf8 ": -c: option requires an argument\n")
      setStatus 2
      throw .exit
    fail (utf8 "-c requires an argument")
  | true, script :: rest =>
    if shell.isExtended then switch 'c' true
    let shell ← get
    set { shell with zeroth := rest.head?.getD shell.zeroth, args := rest.drop 1 }
    return .text script (shell.hasOption 's')
  | false, [] =>
    switch 's' true
    return .input
  | false, path :: rest =>
    if shell.hasOption 's' then
      set { shell with args := path :: rest }
      return .input
    else
      set { shell with args := rest }
      return .file path

/-- Carry out the text of a file or of the input. -/
def runScript (text : Bytes) : Run Unit := do
  modify fun shell => { shell with line := 1 }
  let _ ← runText nesting ⟨false, false⟩ { Source.ofScript (← get).dialect text with goesOn := true, isShown := true } 0

def runInput : Run Unit := do
  let text ← perform fun program => program.readAll 0
  runScript ((text.toOption.getD []).filter (· != 0))

/-- End when a file cannot be read as a script. -/
def checkScript (path : Bytes) : Run Unit := do
  let tree ← perform fun program => program.tree
  let refuse (named : Bytes) (errno : Errno) (status : Nat) : Run Unit := do
    let _ ← perform fun program => program.write 2 (named ++ utf8 ": " ++ path ++ utf8 s!": {errno.text}\n")
    setStatus status
    throw .exit
  match tree.node ⟨path⟩ with
  | .error errno => refuse (← get).zeroth errno (if errno == .noEntry then 127 else 126)
  | .ok (.directory ..) => refuse path .isDirectory 126
  | .ok _ => return ()

def carryOut : Request → Run Unit
  | .version => perform fun program => do
    let _ ← program.write 1 program.versionText
  | .text script thenInput => do
    let dialect := (← get).dialect
    let source := { Source.ofScript dialect script with goesOn := true, place := "-c: ", isShown := dialect == .extended }
    let _ ← runText nesting ⟨false, !thenInput⟩ source 0
    if thenInput then runInput
  | .file path => do
    if (← get).isExtended then checkScript path
    let text ← scriptText path
    modify fun shell => { shell with zeroth := path }
    runScript text
  | .input => runInput

/-- The variables that a shell of the core language has from the beginning. -/
def ownVariables : List (String × Option String) := [
  ("IFS", some " \t\n"), ("MAIL", none), ("MAILPATH", none), ("PATH", some (Utf8.display defaultSearchPath)),
  ("PS1", some "# "), ("PS2", some "> "), ("PS4", some "+ "), ("OPTIND", some "1"), ("TERM", none), ("HISTSIZE", none)]

/-- The variables that a shell of the extended language has from the beginning. -/
def addedVariables : List (String × Option String) := [
  ("BASH", some "/bin/bash"),
  ("BASHOPTS", some ("checkwinsize:cmdhist:complete_fullquote:extquote:force_fignore:globasciiranges:globskipdots:" ++
    "hostcomplete:interactive_comments:patsub_replacement:progcomp:promptvars:sourcepath")),
  ("BASH_SUBSHELL", some "0"), ("BASH_VERSINFO", some "5"), ("BASH_VERSINFO[1]", some "2"), ("BASH_VERSINFO[2]", some "21"),
  ("BASH_VERSINFO[3]", some "1"), ("BASH_VERSINFO[4]", some "release"), ("BASH_VERSINFO[5]", some "x86_64-pc-linux-gnu"),
  ("BASH_VERSION", some "5.2.21(1)-release"), ("EUID", some "0"), ("GROUPS", some "0"), ("HOSTNAME", some "localhost"),
  ("HOSTTYPE", some "x86_64"),
  ("IFS", some " \t\n"), ("MACHTYPE", some "x86_64-pc-linux-gnu"), ("OPTERR", some "1"), ("OPTIND", some "1"),
  ("OSTYPE", some "linux-gnu"), ("PATH", some (Utf8.display defaultSearchPath)), ("PS4", some "+ "),
  ("SHELL", some "/bin/bash"), ("SHELLOPTS", some "braceexpand:hashall:interactive-comments"), ("TERM", some "dumb"),
  ("UID", some "0")]

/-- The variables that a shell begins with: its own, and those that it was given. -/
def initialVariables (dialect : Dialect) (given : List (Bytes × Bytes)) : List (Bytes × Variable) :=
  let names := if dialect == .extended then addedVariables else ownVariables
  let own : List (Bytes × Variable) := names.map fun (name, value) => (utf8 name, { Variable.absent with value := value.map utf8 })
  let all := given.foldl (fun bindings (name, value) =>
    if isName name then put name { Variable.absent with value := some value, exported := true } bindings else bindings) own
  let reset (name : Bytes) (value : String) (bindings : List (Bytes × Variable)) : List (Bytes × Variable) :=
    let isExported := given.any (·.1 == name)
    put name { Variable.absent with value := some (utf8 value), exported := isExported } bindings
  reset optionVariable "1" (reset (utf8 "IFS") " \t\n" all)

/-- Set the variables that tell where the shell is and who started it. -/
def begin_ : Run Unit := do
  let tree ← perform fun program => program.tree
  let parent ← perform fun program => .look fun machine => ((machine.process? program.process).map (·.parent)).getD 0
  let given := ((← get).valueOf? Builtin.currentVariable).filter fun path =>
    path.head? == some Path.slash && match tree.number ⟨path⟩ with
      | .ok number => number == tree.cwd
      | .error _ => false
  Builtin.setExported Builtin.currentVariable (given.getD tree.workingPath)
  assign (utf8 "PPID") (utf8 (toString parent))
  let shell ← get
  if shell.isExtended then
    let level := (((shell.valueOf? (utf8 "SHLVL")).bind number?).getD 0) + 1
    Builtin.setExported (utf8 "SHLVL") (utf8 (toString level))
    define Builtin.formerVariable { Variable.absent with exported := true }
    define lastWord { Variable.absent with value := some shell.program.name }
    for (name, kind) in [("BASHOPTS", Kind.text), ("BASH_VERSINFO", .text), ("EUID", .number), ("PPID", .number),
        ("SHELLOPTS", .text), ("UID", .number)] do
      let former := ((← get).find? (utf8 name)).getD .absent
      define (utf8 name) { former with readOnly := true, kind }
    -- it goes on when it is asked to quit
    perform fun program => .act fun machine => ((), machine.modify program.process fun process =>
      { process with caught := Signal.quit :: process.caught })

/-- Run a shell as a program. -/
def run (dialect : Dialect) (launch : Launcher) (program : Program) : Thread Machine :=
  let shell : Shell := {
    dialect := dialect
    program := program
    launch := launch
    rootProcess := program.process
    zeroth := program.name
    args := []
    status := 0
    outputStatus := 0
    calls := []
    keyed := []
    places := []
    pipeStatus := [0]
    chance := 20077
    bindings := initialVariables dialect program.env
    functions := []
    aliases := []
    options := []
    line := 0
    command := none
    spoiled := none
    loops := 0
    functionDepth := 0
    locals := []
    traps := []
    jobs := []
    lastBackground := none
    pastStatuses := []
    documents := []
    nextDocument := 1
    optionIndex := 1
    optionOffset := 0
    statusBefore := none
    commandCount := 0 }
  let work : Run Unit := do
    begin_
    carryOut (← readRequest program.args)
  threadOf (conclude nesting work) shell

end ExitParity.Shell
