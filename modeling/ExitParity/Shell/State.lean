import ExitParity.Host.Printing
import ExitParity.Host.Program
import ExitParity.Shell.Source

namespace ExitParity

namespace Shell

/-- What becomes of the values that a variable is given. -/
inductive Kind where
  | text
  /-- They are worked out as expressions. -/
  | number
  | lower
  | upper
  deriving DecidableEq

structure Variable where
  value : Option Bytes
  exported : Bool
  readOnly : Bool
  kind : Kind

namespace Variable

/-- A variable about which nothing is known. -/
def absent : Variable := ⟨none, false, false, .text⟩

end Variable

/-- A command that is run when its name is called, with the script and the line of
its definition. -/
structure Function where
  name : Bytes
  source : Bytes
  line : Nat
  body : Command

/-- A function or a script that is being carried out as a part of another, and
where it is from. -/
structure Call where
  name : Bytes
  source : Bytes

/-- A job that was not waited for: its processes, the last one counts. -/
structure BackgroundJob where
  number : Nat
  processes : List Nat

end Shell

/-- A running shell. -/
structure Shell where
  dialect : Shell.Dialect
  program : Program
  launch : Launcher
  /-- The process that the shell began as. -/
  rootProcess : Nat
  zeroth : Bytes
  args : List Bytes
  status : Nat
  /-- The status of the last output that was put into a word. -/
  outputStatus : Nat
  bindings : List (Bytes × Shell.Variable)
  functions : List (Bytes × Shell.Function)
  aliases : List (Bytes × Bytes)
  /-- The letters of the options that are on. -/
  options : Bytes
  line : Nat
  /-- The command of the shell that is being carried out. -/
  command : Option Bytes
  /-- Why something could not be printed. -/
  spoiled : Option Errno
  loops : Nat
  functionDepth : Nat
  /-- The functions and scripts that are being carried out as parts of others, the
  last first. -/
  calls : List Shell.Call
  /-- The lists whose elements go by keys that are no numbers. -/
  keyed : List Bytes
  /-- The directories to come back to, the last first. -/
  places : List Bytes
  /-- The statuses of the commands of the last pipeline. -/
  pipeStatus : List Nat
  /-- What the next random number comes from. -/
  chance : Nat
  /-- What variables were before they became local, call by call, in the order in
  which they are restored. -/
  locals : List (List (Bytes × Option Shell.Variable))
  /-- What is done on a signal; zero stands for the end of the shell. -/
  traps : List (Nat × Bytes)
  jobs : List Shell.BackgroundJob
  lastBackground : Option Nat
  /-- The statuses of the jobs that were waited for, by their last processes. -/
  pastStatuses : List (Nat × Nat)
  documents : List (Nat × Shell.Word)
  nextDocument : Nat
  /-- Where the reading of options is: the argument, and the letter in it. -/
  optionIndex : Nat
  optionOffset : Nat
  /-- The status from before the trap that is being carried out. -/
  statusBefore : Option Nat
  /-- How many commands it has carried out. -/
  commandCount : Nat

namespace Shell

/-- What keeps the next command from being run. -/
inductive Stop where
  | failed
  | exit
  /-- What is left of the line is not carried out. -/
  | lineDropped
  | breakLoop (levels : Nat)
  | continueLoop (levels : Nat)
  | returned

abbrev Run := ExceptT Stop (StateT Shell Deed)

/-- Do something as the shell's process. -/
def perform {α : Type} (deed : Program → Deed α) : Run α := do
  let value ← (deed (← get).program : Deed α)
  return value

/-- Let the time of one command pass. -/
def spendCommand : Run Unit := do
  modify fun shell => { shell with commandCount := shell.commandCount + 1 }
  let count := (← get).commandCount
  perform fun _ => .rest (stepTime count)

def setStatus (status : Nat) : Run Unit := modify fun shell => { shell with status }

def setStatusOf (success : Bool) : Run Unit := setStatus (if success then 0 else 1)

/-- Print bytes; that they could not be printed is noted. -/
def say (bytes : Bytes) : Run Unit := do
  match ← perform fun program => program.write 1 bytes with
  | .ok () => return ()
  | .error errno => modify fun shell => { shell with spoiled := some errno }

def hasOption (shell : Shell) (letter : Char) : Bool := shell.options.elem letter.toUInt8

def isExtended (shell : Shell) : Bool := shell.dialect == .extended

/-- The script that a complaint of the extended language names. -/
def complainer (shell : Shell) : Bytes :=
  match shell.calls with
  | call :: _ => call.source
  | [] => shell.zeroth

/-- Whether the shell carries out the text of a file. -/
def isOfFile (shell : Shell) : Bool := !shell.hasOption 'c' && !shell.hasOption 's'

/-- The beginning of every complaint. -/
def heading (shell : Shell) : Bytes :=
  let place := match shell.dialect with
    | .core => shell.zeroth ++ utf8 s!": {shell.line}: "
    | .extended => shell.complainer ++ utf8 s!": line {shell.line}: "
  place ++ match shell.command with
    | some command => command ++ utf8 ": "
    | none => []

def complain (text : Bytes) : Run Unit := do
  let shell ← get
  let _ ← perform fun program => program.write 2 (shell.heading ++ text ++ [0x0a])

/-- Complain, and give the command up. -/
def fail {α : Type} (text : Bytes) : Run α := do
  complain text
  setStatus (if (← get).isExtended then 1 else 2)
  throw .failed

/-- Complain in the words of the dialect, and give the command up. In the extended
language the status is the given one. -/
def failAs {α : Type} (status : Nat) (extended core : Bytes) : Run α := do
  if !(← get).isExtended then fail core
  complain extended
  setStatus status
  throw .failed

/-- Complain about what a word cannot be expanded to, and end. -/
def failFor {α : Type} (extended core : Bytes) : Run α := do
  if !(← get).isExtended then fail core
  complain extended
  setStatus (if (← get).hasOption 'c' && !(← get).hasOption 'e' then 127 else 1)
  throw .exit

/-- Complain about what a word cannot be expanded to. In the extended language the
text goes on with its next line. -/
def dropLine {α : Type} (extended core : Bytes) : Run α := do
  if !(← get).isExtended then fail core
  complain extended
  setStatus 1
  throw .lineDropped

def find? (shell : Shell) (name : Bytes) : Option Variable := (shell.bindings.find? (·.1 == name)).map (·.2)

def valueOf? (shell : Shell) (name : Bytes) : Option Bytes := (shell.find? name).bind (·.value)

/-- Put a variable in the place of the one with its name, or at the end. -/
def put (name : Bytes) (variable_ : Variable) : List (Bytes × Variable) → List (Bytes × Variable)
  | [] => [(name, variable_)]
  | entry :: rest => if entry.1 == name then (name, variable_) :: rest else entry :: put name variable_ rest

def define (name : Bytes) (variable_ : Variable) : Run Unit :=
  modify fun shell => { shell with bindings := put name variable_ shell.bindings }

/-- The number of a text of decimal digits. -/
def number? (text : Bytes) : Option Nat :=
  if !text.isEmpty && text.all isDigit then
    let value := text.foldl (fun value byte => value * 10 + (byte.toNat - 0x30)) 0
    if value < 2 ^ 31 then some value else none
  else none

def optionVariable : Bytes := utf8 "OPTIND"

/-- Give a variable a value. A variable that is read only keeps its own. -/
def assign (name value : Bytes) : Run Unit := do
  let shell ← get
  let former := (shell.find? name).getD .absent
  if former.readOnly then
    if !shell.isExtended then fail (name ++ utf8 ": is read only")
    let isNamed := shell.command.any fun command => (["declare", "local", "typeset"].map utf8).contains command
    set { shell with command := if isNamed then shell.command else none }
    complain (name ++ utf8 ": readonly variable")
    modify fun after => { after with command := shell.command, status := 1 }
    throw (if shell.command.isSome then .failed else .lineDropped)
  let value := match former.kind with
    | .lower => value.map Printing.lower
    | .upper => value.map Printing.upper
    | _ => value
  define name { former with value := some value, exported := former.exported || shell.hasOption 'a' }
  if name == optionVariable then
    modify fun shell => { shell with optionIndex := max 1 ((number? value).getD 1), optionOffset := 0 }

def unset (name : Bytes) : Run Unit := do
  let shell ← get
  match shell.find? name with
  | none => return ()
  | some former =>
    if former.readOnly then
      failAs 1 (name ++ utf8 ": cannot unset: readonly variable") (name ++ utf8 ": is read only")
    modify fun shell => { shell with bindings := shell.bindings.filter (·.1 != name) }

/-- Remember what a variable is, to be restored at the end of the call. -/
def keepForCall (name : Bytes) : Run Unit :=
  modify fun shell =>
    match shell.locals with
    | [] => shell
    | frame :: frames =>
      if frame.any (·.1 == name) then shell
      else { shell with locals := ((name, shell.find? name) :: frame) :: frames }

/-- Remember what the elements of a list are. -/
def keepListForCall (list : Bytes) : Run Unit :=
  modify fun shell =>
    match shell.locals with
    | [] => shell
    | frame :: frames =>
      let elements := shell.bindings.filter fun entry => entry.1 == list || (list ++ [0x5b]).isPrefixOf entry.1
      let kept := (list ++ [0x5b], none) :: (list, none) :: elements.map fun (name, variable_) => (name, some variable_)
      if frame.any (·.1 == list) then shell else { shell with locals := (kept ++ frame) :: frames }

/-- Begin a call, whose variables are restored when it ends. -/
def openCall : Run Unit := modify fun shell => { shell with locals := [] :: shell.locals }

def restore (shell : Shell) (kept : Bytes × Option Variable) : Shell :=
  match kept with
  | (name, some variable_) => { shell with bindings := put name variable_ shell.bindings }
  | (name, none) =>
    -- a name with an open bracket stands for all elements of a list
    let isGone (other : Bytes) : Bool := other == name || (name.getLast? == some 0x5b && name.isPrefixOf other)
    { shell with bindings := shell.bindings.filter (!isGone ·.1) }

def closeCall : Run Unit :=
  modify fun shell =>
    match shell.locals with
    | [] => shell
    | frame :: frames => { frame.foldl restore shell with locals := frames }

/-- The place among 39 that the variables are listed by. -/
def bucket (name : Bytes) : Nat := ((name.head?.getD 0).toNat * 16 + (name.map (·.toNat)).foldl (· + ·) 0) % 39

/-- The place among 1024 that the extended language lists names by. -/
def addedBucket (name : Bytes) : Nat :=
  (name.foldl (fun (hash : UInt32) byte => hash * 16777619 ^^^ byte.toUInt32) 2166136261).toNat % 1024

/-- The variables that programs are given, in the order in which they are listed. -/
def exports (shell : Shell) : List (Bytes × Bytes) :=
  let listed := shell.bindings.filterMap fun (name, variable_) =>
    if variable_.exported && isName name then variable_.value.map (name, ·) else none
  if shell.isExtended then listed.mergeSort fun first second => addedBucket first.1 ≤ addedBucket second.1
  else listed.mergeSort fun first second => bucket first.1 ≤ bucket second.1

/-- A text in quotes that the shell would read back. -/
def quote (text : Bytes) : Bytes :=
  let rec segments : Nat → Bytes → Bytes
    | 0, _ => []
    | fuel + 1, text =>
      let plain := text.takeWhile (· != 0x27)
      let rest := text.drop plain.length
      let quotes := rest.takeWhile (· == 0x27)
      let after := rest.drop quotes.length
      0x27 :: plain ++ [0x27] ++
        if quotes.isEmpty then [] else 0x22 :: quotes ++ [0x22] ++ if after.isEmpty then [] else segments fuel after
  segments (text.length + 1) text

/-- A text in quotes where a shell would take it for something else. -/
def quoteWhenNeeded (text : Bytes) : Bytes :=
  let isStrange (byte : UInt8) : Bool := (utf8 " \t\n!\"$&'()*;<>?[\\]^\x60\x7b|\x7d").elem byte
  if text.isEmpty then utf8 "''"
  else if text.any isStrange || text.head? == some 0x23 || text.head? == some 0x7e then
    0x27 :: text.flatMap (fun byte => if byte == 0x27 then utf8 "'\\''" else [byte]) ++ [0x27]
  else text

/-- The number by which what is done on a failure is kept among what is done on
signals. -/
def errorTrap : Nat := 1001

/-- The same for what is done before each command. -/
def commandTrap : Nat := 1000

/-- The same for what is done behind a script that is part of another. -/
def returnTrap : Nat := 1002

/-- The bytes that split what an unquoted expansion yields. -/
def separators (shell : Shell) : Bytes := (shell.valueOf? (utf8 "IFS")).getD [0x20, 0x09, 0x0a]

/-- What joins the parameters of the shell into one text. -/
def joint (shell : Shell) : Bytes :=
  match shell.valueOf? (utf8 "IFS") with
  | some separators => separators.take 1
  | none => [0x20]

/-- The letters that the extended language shows in front of the way in which the
shell was begun. -/
def addedLetters : List Char := ['a', 'b', 'e', 'f', 'h', 'i', 'm', 'n', 'p', 't', 'u', 'v', 'x', 'B', 'C', 'c', 's']

/-- The options that are shown by their letters, in order. -/
def optionLetters : List Char := ['e', 'f', 'I', 'i', 'm', 'n', 's', 'x', 'v', 'V', 'E', 'C', 'a', 'b', 'u', 'p']

def shownOptions (shell : Shell) : Bytes :=
  let shown := if shell.isExtended then addedLetters.filter fun letter => letter == 'h' || letter == 'B' || shell.hasOption letter
    else optionLetters.filter shell.hasOption
  shown.map Char.toUInt8

/-- The value of a parameter that is not a list. -/
def scalar? (shell : Shell) (name : Bytes) : Option Bytes :=
  match name with
  | [0x23] => some (utf8 (toString shell.args.length))
  | [0x3f] => some (utf8 (toString shell.status))
  | [0x24] => some (utf8 (toString shell.rootProcess))
  | [0x2d] => some shell.shownOptions
  | [0x21] => shell.lastBackground.map fun number => utf8 (toString number)
  | _ =>
    match number? name with
    | some 0 => some shell.zeroth
    | some index => shell.args[index - 1]?
    | none => if name.head?.any isDigit then none else shell.valueOf? name

/-- A list name stands for all parameters of the shell or all elements of a list. -/
def isList (name : Bytes) : Bool :=
  name == [0x2a] || name == [0x40] || (utf8 "[*]").isSuffixOf name || (utf8 "[@]").isSuffixOf name

/-- Whether what a list name stands for stays apart in quotes. -/
def isSpread (name : Bytes) : Bool := name == [0x40] || (utf8 "[@]").isSuffixOf name

/-- The elements of a list with their indices. -/
def elements (shell : Shell) (list : Bytes) : List (Bytes × Bytes) :=
  let found := shell.bindings.filterMap fun (name, variable_) =>
    match Bytes.stripPrefix? (list ++ [0x5b]) name, variable_.value with
    | some index, some value => if index.getLast? == some 0x5d then some (index.dropLast, value) else none
    | _, _ => none
  if shell.keyed.contains list then
    found.reverse.mergeSort fun first second => addedBucket first.1 ≤ addedBucket second.1
  else (((shell.valueOf? list).map fun value => ([0x30], value)).toList ++ found).mergeSort fun first second =>
    (number? first.1).getD 0 ≤ (number? second.1).getD 0

/-- What a list name stands for. -/
def listOf (shell : Shell) (name : Bytes) : List Bytes :=
  if name.length ≤ 1 then shell.args else (shell.elements (name.take (name.length - 3))).map (·.2)

/-- Forget a list. -/
def unsetList (list : Bytes) : Run Unit :=
  modify fun shell =>
    { shell with bindings := shell.bindings.filter fun (name, _) =>
        name != list && !(list ++ [0x5b]).isPrefixOf name }

/-- Give a list new elements, behind those it has or in their place. -/
def assignList (list : Bytes) (adds : Bool) (values : List Bytes) : Run Unit := do
  if !adds then unsetList list
  let first := ((((← get).elements list).getLast?.bind (number? ·.1)).map (· + 1)).getD 0
  for (value, offset) in values.zipIdx do
    assign (elementName list (utf8 (toString (first + offset)))) value

end Shell
end ExitParity
