import ExitParity.Host.Applets.Inputs

/-! The program that changes the environment for another one. -/

namespace ExitParity

/-- How far the splitting of a text into words has come: the words complete,
the last one first, and the one begun. -/
structure Splitting where
  words : List Bytes
  word : Option Bytes

namespace Splitting

def start : Splitting := ⟨[], none⟩

def push (splitting : Splitting) (bytes : Bytes) : Splitting :=
  { splitting with word := some (splitting.word.getD [] ++ bytes) }

def finish (splitting : Splitting) : Splitting := ⟨splitting.word.toList ++ splitting.words, none⟩

/-- The quotes that a byte stands in. -/
inductive Quotes where
  | outside
  | single
  | double
  deriving DecidableEq

/-- The byte that a letter behind a backslash stands for. -/
def escaped? (letter : UInt8) : Option UInt8 :=
  [(0x66, 0x0c), (0x6e, 0x0a), (0x72, 0x0d), (0x74, 0x09), (0x76, 0x0b), (0x23, 0x23), (0x24, 0x24), (0x5c, 0x5c),
    (0x27, 0x27), (0x22, 0x22)].lookup letter

/-- Split a text into words. -/
def split (valueOf : Bytes → Option Bytes) : Nat → Quotes → Bytes → Splitting → Except Bytes (List Bytes)
  | 0, _, _, splitting => .ok splitting.finish.words.reverse
  | _ + 1, quotes, [], splitting =>
    if quotes == .outside then .ok splitting.finish.words.reverse
    else .error (utf8 "no terminating quote in -S string")
  | fuel + 1, quotes, byte :: rest, splitting =>
    let single := quotes == .single
    let isBlank := byte == 0x20 || (0x09 ≤ byte && byte ≤ 0x0d)
    if byte == 0x27 && quotes != .double then
      split valueOf fuel (if single then .outside else .single) rest (splitting.push [])
    else if byte == 0x22 && !single then
      split valueOf fuel (if quotes == .double then .outside else .double) rest (splitting.push [])
    else if isBlank && quotes == .outside then split valueOf fuel quotes rest splitting.finish
    else if byte == 0x23 && quotes == .outside && splitting.word.isNone then .ok splitting.words.reverse
    else if byte == 0x5c then
      match rest with
      | [] => .error (utf8 "invalid backslash at end of string in -S")
      | letter :: more =>
        if single && letter != 0x5c && letter != 0x27 then split valueOf fuel quotes rest (splitting.push [byte])
        else if letter == 0x5f then
          if quotes == .double then split valueOf fuel quotes more (splitting.push [0x20])
          else split valueOf fuel quotes more splitting.finish
        else if letter == 0x63 then
          if quotes == .double then .error (utf8 "'\\c' must not appear in double-quoted -S string")
          else .ok splitting.finish.words.reverse
        else match escaped? letter with
          | some value => split valueOf fuel quotes more (splitting.push [value])
          | none => .error (utf8 "invalid sequence '\\" ++ letter :: utf8 "' in -S")
    else if byte == 0x24 && !single then
      match rest with
      | 0x7b :: more =>
        let name := more.takeWhile (· != 0x7d)
        if (more.drop name.length).isEmpty || name.isEmpty then
          .error (utf8 "only $\x7bVARNAME\x7d expansion is supported, error at: " ++ byte :: rest)
        else split valueOf fuel quotes (more.drop (name.length + 1)) (match valueOf name with
          | some value => splitting.push value
          | none => splitting)
      | _ => .error (utf8 "only $\x7bVARNAME\x7d expansion is supported, error at: " ++ byte :: rest)
    else split valueOf fuel quotes rest (splitting.push [byte])

end Splitting

/-- Change variables in the order of a list, a new one at its end. -/
def putVariable (name value : Bytes) (env : List (Bytes × Bytes)) : List (Bytes × Bytes) :=
  if env.any (·.1 == name) then env.map fun entry => if entry.1 == name then (name, value) else entry
  else env ++ [(name, value)]

namespace Program

/-- The signals of a list between commas; an empty list means all of them. -/
def signalsOf (text : Bytes) : List Nat :=
  if text.isEmpty then (List.range Signal.last).map (· + 1)
  else (Bytes.split 0x2c text).filterMap fun name =>
    if name.all Printing.isDecimal then some (Printing.digits 10 name)
    else Signal.ofName? (Utf8.display ((Bytes.stripPrefix? (utf8 "SIG") name).getD name))

/-- Become the program that a name stands for on the program's own search path.
Comes back with the fault. -/
def executeNamed (program : Program) (launch : Launcher) (env : List (Bytes × Bytes)) (argv : List Bytes) : Deed Errno := do
  let name := argv.head?.getD []
  let path := (env.find? (·.1 == utf8 "PATH")).map (·.2)
  program.execute launch (fun tree => Image.find tree env path true ⟨name⟩ argv) env

/-- The exit code for a program that cannot be started. -/
def launchCode (errno : Errno) : Nat := if errno == .noEntry then 127 else 126

/-- Make another directory the working directory. -/
def enterDirectory (program : Program) (path : Bytes) : Deed (Except Errno Unit) :=
  .act fun machine =>
    match (machine.treeOf program.process).node ⟨path⟩, (machine.treeOf program.process).number ⟨path⟩ with
    | .ok (.directory mode ..), .ok number =>
      if FileTree.mayEnter mode then
        (.ok (), machine.modify program.process fun process => { process with cwd := number })
      else (.error .denied, machine)
    | .ok _, _ => (.error .notDirectory, machine)
    | .error errno, _ => (.error errno, machine)

/-- Where blanks show that options were put together in one word. -/
def splitHint (program : Program) : Deed Unit := program.complain (utf8 "use -[v]S to pass options in shebang lines")

/-- The options of `env`. -/
def environmentGrammar : OptionGrammar where
  letters := "C:iS:u:v0 \t\n"
  long := [("ignore-environment", .flag, "i"), ("null", .flag, "0"), ("unset", .valued, "u"), ("chdir", .valued, "C"),
    ("default-signal", .perhapsValued, "default"), ("ignore-signal", .perhapsValued, "ignore"),
    ("block-signal", .perhapsValued, "block"), ("list-signal-handling", .flag, "list"), ("debug", .flag, "v"),
    ("split-string", .valued, "S")]
  permuted := false

/-- The options of `env` with those that stand in a text to be split. -/
def environmentOptions (program : Program) : Nat → List Bytes → Except Bytes Options
  | 0, args => .ok (environmentGrammar.read args)
  | fuel + 1, args => do
    let options := environmentGrammar.read args
    match options.given.findIdx? (·.1 == "S") with
    | none => return options
    | some index =>
      -- what stands behind the text is read together with its words
      let text := (options.given[index]?.map (·.2)).getD []
      let words ← Splitting.split program.valueOf? (text.length + 1) .outside text .start
      let behind := rest args (options.given.take index).length
      let more ← program.environmentOptions fuel (words ++ behind)
      return { more with given := options.given.take index ++ more.given }
where
  /-- The arguments behind the one that holds the option of a number. -/
  rest (args : List Bytes) (count : Nat) : List Bytes :=
    (((List.range (args.length + 1)).map fun taken => (taken, environmentGrammar.read (args.take taken))).find?
      fun (_, options) => options.fault.isNone && options.given.length > count).elim [] fun (taken, _) => args.drop taken

/-- Apply options and assignments to an environment. -/
def changeEnvironment (program : Program) : List (String × Bytes) → List (Bytes × Bytes) →
    Deed (Except Bytes (List (Bytes × Bytes)))
  | [], env => return .ok env
  | (key, value) :: rest, env => do
    if key == "i" then program.changeEnvironment rest []
    else if key == "u" then
      if value.isEmpty || value.elem 0x3d then
        return .error (utf8 "cannot unset " ++ Quoting.curly value ++ utf8 ": Invalid argument")
      program.changeEnvironment rest (env.filter (·.1 != value))
    else if key == "default" || key == "ignore" then
      let signals := signalsOf value
      .act fun machine => ((), machine.modify program.process fun process =>
        { process with
          ignored := (if key == "ignore" then signals else []) ++ process.ignored.filter fun signal =>
            !signals.contains signal })
      program.changeEnvironment rest env
    else program.changeEnvironment rest env

/-- The assignments in front of a command. -/
def assignments : List Bytes → List (Bytes × Bytes) × List Bytes
  | [] => ([], [])
  | arg :: rest =>
    let name := arg.takeWhile (· != 0x3d)
    if name.length < arg.length then
      let (more, command) := assignments rest
      ((name, arg.drop (name.length + 1)) :: more, command)
    else ([], arg :: rest)

def withEnvironment (program : Program) (launch : Launcher) : Deed Nat := do
  match program.environmentOptions 8 program.args with
  | .error complaint =>
    program.complain complaint
    return 125
  | .ok options =>
    if options.has "version" then
      program.print program.versionText
      return 0
    if options.has "help" then
      program.print program.usageText
      return 0
    if let some (letter, _) := options.given.find? fun (key, _) => [" ", "\t", "\n"].contains key then
      program.complain (utf8 s!"invalid option -- '{letter}'")
      program.splitHint
      let _ ← program.write 2 (utf8 "Try '" ++ program.name ++ utf8 " --help' for more information.\n")
      return 125
    match options.fault with
    | some fault =>
      program.refuse fault.message
      return 125
    | none =>
      let operands := if options.operands.head? == some [0x2d] then options.operands.drop 1 else options.operands
      let given := if options.operands.head? == some [0x2d] then ("i", []) :: options.given else options.given
      match ← program.changeEnvironment given program.env with
      | .error complaint =>
        program.complain complaint
        return 125
      | .ok env =>
        let (values, command) := assignments operands
        match values.find? (·.1.isEmpty) with
        | some _ =>
          program.complain (utf8 "cannot set " ++ Quoting.curly [] ++ utf8 ": Invalid argument")
          return 125
        | none =>
          let env := values.foldl (fun env (name, value) => putVariable name value env) env
          if command.isEmpty then
            if options.has "C" then
              program.refuse (utf8 "must specify command with --chdir (-C)")
              return 125
            program.print (env.flatMap fun (name, value) =>
              name ++ 0x3d :: value ++ if options.has "0" then [0] else [0x0a])
            return 0
          if options.has "0" then
            program.refuse (utf8 "cannot specify --null (-0) with command")
            return 125
          match options.value? "C" with
          | none => start env command
          | some directory =>
            match ← program.enterDirectory directory with
            | .ok () => start env command
            | .error errno =>
              program.complainOf (utf8 "cannot change directory to " ++ Quoting.always directory) errno
              return 125
where
  start (env : List (Bytes × Bytes)) (command : List Bytes) : Deed Nat := do
    let errno ← program.executeNamed launch env command
    let name := command.head?.getD []
    program.complainOf (Quoting.curly name) errno
    if errno == .noEntry && name.any fun byte => byte == 0x20 || (0x09 ≤ byte && byte ≤ 0x0d) then program.splitHint
    return launchCode errno

end Program
end ExitParity
