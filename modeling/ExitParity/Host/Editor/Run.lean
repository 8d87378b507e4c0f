import ExitParity.Host.Applets.Paths
import ExitParity.Host.Applets.Subprocess
import ExitParity.Host.Editor.Script

/-! Carrying out a script on the lines of some inputs. -/

namespace ExitParity.Editor

/-- How a script is carried out. -/
structure Settings where
  program : Program
  launch : Launcher
  script : Script
  quiet : Bool
  /-- Whether every input has lines, and a last line, of its own. -/
  separate : Bool
  /-- Whether the inputs themselves are changed, and how they are kept. -/
  inPlace : Option Bytes
  separator : UInt8
  width : Nat
  unbuffered : Bool

/-- Where the range of a command is. -/
inductive Progress where
  | outside
  | upTo (number : Nat)
  | upToPlace
  deriving DecidableEq

/-- What is printed when a line is done with. -/
inductive Later where
  | text (bytes : Bytes)
  | file (path : Bytes)

/-- A file that is written to, and whether its last line has no end yet. -/
structure Output where
  path : Bytes
  descriptor : Nat
  lacksEnd : Bool

/-- A line that was read, whether it had an end, and the name of its input. -/
structure Line where
  text : Bytes
  hasEnd : Bool
  name : Bytes

structure State where
  line : Bytes
  hasEnd : Bool
  held : Bytes
  number : Nat
  changed : Bool
  later : List Later
  ranges : Array Progress
  former : Option (Manner × Expression)
  files : List Bytes
  feed : Option Feed
  name : Bytes
  ahead : Option Line
  readers : List (Bytes × Option Feed)
  outputs : List Output
  lacksEnd : Bool
  /-- What the changed input holds, the last piece first. -/
  edited : List Bytes
  status : Nat
  steps : Nat

abbrev Editing := StateT State Deed

/-- How the carrying out of a script on one line ends. -/
inductive Ending where
  | done
  | dropped
  | again
  | quit (code : Nat)
  | quitSilently (code : Nat)

namespace Settings

def perform {α : Type} (settings : Settings) (deed : Program → Deed α) : Editing α :=
  StateT.lift (deed settings.program)

/-- Complain and end. -/
def abort {α : Type} (settings : Settings) (code : Nat) (text : Bytes) : Editing α :=
  settings.perform fun program => do
    program.complain text
    program.conclude code code

/-! ### Output -/

def put (settings : Settings) (bytes : Bytes) : Editing Unit := do
  if settings.inPlace.isSome then modify fun state => { state with edited := bytes :: state.edited }
  else
    settings.perform (·.print bytes)
    if settings.unbuffered then settings.perform (·.flush)

/-- Give the last line that was printed the end that it lacks. -/
def putEnd (settings : Settings) : Editing Unit := do
  if (← get).lacksEnd then
    settings.put [settings.separator]
    modify fun state => { state with lacksEnd := false }

def putText (settings : Settings) (text : Bytes) : Editing Unit := do
  settings.putEnd
  settings.put text

def putLine (settings : Settings) (text : Bytes) (hasEnd : Bool) : Editing Unit := do
  settings.putText (text ++ if hasEnd then [settings.separator] else [])
  if !hasEnd then modify fun state => { state with lacksEnd := true }

/-- Write a line to one of the files that are written to. -/
def putTo (settings : Settings) (path text : Bytes) (hasEnd : Bool) : Editing Unit := do
  match (← get).outputs.find? (·.path == path) with
  | none => settings.putLine text hasEnd
  | some output =>
    let bytes := (if output.lacksEnd then [settings.separator] else []) ++ text ++
      if hasEnd then [settings.separator] else []
    let _ ← settings.perform (·.write output.descriptor bytes)
    modify fun state => { state with outputs := state.outputs.map fun output =>
      if output.path == path then { output with lacksEnd := !hasEnd } else output }

/-- Print what was put off. -/
def putLater (settings : Settings) : Editing Unit := do
  let later := (← get).later
  modify fun state => { state with later := [] }
  for item in later do
    settings.putEnd
    match item with
    | .text bytes => settings.put bytes
    | .file path =>
      let content ← settings.perform (·.readFile ⟨path⟩)
      settings.put (content.toOption.getD [])

/-! ### Input -/

/-- The name under which an input that is changed is kept. -/
def keptName (mark path : Bytes) : Bytes :=
  let name := (⟨path⟩ : Path).fileName?.getD path
  let folder := path.take (path.length - name.length)
  let kept := if mark.elem 0x2a then mark.flatMap fun byte => if byte == 0x2a then name else [byte] else name ++ mark
  if kept.elem Path.slash then kept else folder ++ kept

/-- Put what was printed in the place of an input. -/
def replaceInput (settings : Settings) (mark path : Bytes) : Editing Unit := do
  let content := (← get).edited.reverse.flatten
  modify fun state => { state with edited := [], lacksEnd := false }
  let result ← settings.perform fun program => program.change fun tree => do
    let mode := match tree.node ⟨path⟩ with
      | .ok (.file mode _) => mode
      | _ => FileTree.newFileMode
    let fresh : Path := ⟨path ++ utf8 ".sedtmp"⟩
    let tree ← tree.write fresh (.data content)
    let tree ← tree.setMode fresh mode
    let tree ← if mark.isEmpty then pure tree else tree.rename ⟨path⟩ ⟨keptName mark path⟩
    tree.rename fresh ⟨path⟩
  match result with
  | .ok () => return ()
  | .error errno => settings.abort 4 (utf8 "cannot rename " ++ path ++ utf8 s!": {errno.text}")

/-- Be done with the input that is read. -/
def closeInput (settings : Settings) : Editing Unit := do
  let state ← get
  match state.feed with
  | none => return ()
  | some feed =>
    if feed.descriptor != 0 then settings.perform (·.close feed.descriptor)
    set { state with feed := none }
    match settings.inPlace with
    | some mark => settings.replaceInput mark state.name
    | none => return ()

/-- The ranges before the first line. -/
def freshRanges (settings : Settings) : Array Progress :=
  settings.script.commands.map fun command => match command.selector.first with
    | some (.line 0) => .upToPlace
    | _ => .outside

/-- Open the next input that can be read. -/
def openNext (settings : Settings) : List Bytes → Editing Bool
  | [] => do
    modify fun state => { state with files := [] }
    return false
  | path :: files => do
    modify fun state => { state with files }
    let isRegular ← settings.perform fun program => do
      match (← program.tree).node ⟨path⟩ with
      | .ok (.file ..) | .error _ => return true
      | .ok _ => return false
    if settings.inPlace.isSome && !isRegular then
      settings.abort 4 (utf8 "couldn't edit " ++ path ++ utf8 ": not a regular file")
    let opened ← settings.perform fun program =>
      if settings.inPlace.isSome then program.openFile ⟨path⟩ else program.openInput path
    match opened with
    | .error errno =>
      settings.perform (·.complain (utf8 "can't read " ++ path ++ utf8 s!": {errno.text}"))
      modify fun state => { state with status := 2 }
      settings.openNext files
    | .ok descriptor =>
      modify fun state => { state with feed := some (Feed.of descriptor), name := path }
      if settings.separate then
        modify fun state => { state with number := 0, ranges := settings.freshRanges }
      return true

/-- Read a line of the input that is read. -/
def fromInput (settings : Settings) (strict : Bool) : Editing (Option Line) := do
  let state ← get
  match state.feed with
  | none => return none
  | some feed =>
    match ← settings.perform (·.nextLine settings.separator Program.endless feed) with
    | .error errno =>
      if strict then settings.abort 4 (utf8 "read error on " ++ state.name ++ utf8 s!": {errno.text}")
      else
        set { state with feed := some { feed with ended := true, waiting := [] } }
        return none
    | .ok (line, feed) =>
      set { state with feed := some feed }
      return line.map fun (text, hasEnd) => ⟨text, hasEnd, state.name⟩

/-- Read the next line of all inputs. -/
def nextLine (settings : Settings) : Nat → Editing (Option Line)
  | 0 => return none
  | fuel + 1 => do
    let state ← get
    match state.ahead with
    | some line =>
      set { state with ahead := none }
      return some line
    | none =>
      if state.feed.isNone then
        if ← settings.openNext state.files then settings.nextLine fuel else return none
      else match ← settings.fromInput true with
        | some line => return some line
        | none =>
          settings.closeInput
          settings.nextLine fuel

/-- Whether no line comes behind the present one. -/
def isLast (settings : Settings) : Nat → Editing Bool
  | 0 => return true
  | fuel + 1 => do
    let state ← get
    if state.ahead.isSome then return false
    match ← (if state.feed.isSome then settings.fromInput false else pure none) with
    | some line =>
      modify fun state => { state with ahead := some line }
      return false
    | none =>
      if settings.separate then return (← get).feed.isSome || state.files.isEmpty
      settings.closeInput
      if ← settings.openNext state.files then settings.isLast fuel else return true

/-- Go on to the next line, behind the present one or in its place. -/
def advance (settings : Settings) (joins : Bool) : Editing Bool := do
  settings.putLater
  match ← settings.nextLine Program.endless with
  | none => return false
  | some line =>
    modify fun state => { state with
      line := if joins then state.line ++ settings.separator :: line.text else line.text
      hasEnd := line.hasEnd
      name := line.name
      number := state.number + 1
      changed := joins && state.changed }
    return true

/-! ### Choosing lines -/

/-- What is looked for, with how. -/
def wanted (settings : Settings) (search : Search) : Editing (Manner × Expression) := do
  match search.expression with
  | some expression =>
    modify fun state => { state with former := some (search.manner, expression) }
    return (search.manner, expression)
  | none =>
    match (← get).former with
    | some former => return former
    | none => settings.abort 1 (ScriptFault.mistake (.fragment 1 0) .nothingSearched).message

def isAt (settings : Settings) : Place → Editing Bool
  | .line number => return (← get).number == number
  | .every first step => do
    let number := (← get).number
    return first ≤ number && (number - first) % step == 0
  | .last => settings.isLast Program.endless
  | .matching search => do
    let (manner, expression) ← settings.wanted search
    let text := (Letters.ofBytes true (← get).line).toArray
    return (expression.search? manner text 0).isSome

def setRange (index : Nat) (progress : Progress) : Editing Unit :=
  modify fun state => { state with ranges := state.ranges.setIfInBounds index progress }

/-- Whether a line begins a range, and with it what there is left of it. -/
def beginRange (settings : Settings) (index : Nat) (first : Place) (stop : RangeStop) : Editing Bool := do
  if !(← settings.isAt first) then
    setRange index .outside
    return false
  let number := (← get).number
  let upTo (last : Nat) : Progress := if last ≤ number then .outside else .upTo last
  setRange index (match stop with
    | .at (.line last) => upTo last
    | .at _ => .upToPlace
    | .after count => upTo (number + count)
    | .multiple step => if step == 0 then .outside else upTo ((number / step + 1) * step))
  return true

/-- Whether the present line is in a range. -/
def inRange (settings : Settings) (index : Nat) (first : Place) (stop : RangeStop) : Editing Bool := do
  let state ← get
  match state.ranges[index]?, stop with
  | some (.upTo last), _ =>
    if state.number > last then settings.beginRange index first stop
    else
      if state.number == last then setRange index .outside
      return true
  | some .upToPlace, .at place =>
    if ← settings.isAt place then setRange index .outside
    return true
  | _, _ => settings.beginRange index first stop

/-- Whether a command is for the present line. -/
def selects (settings : Settings) (index : Nat) (selector : Selector) : Editing Bool := do
  let selected ← match selector.first, selector.stop with
    | none, _ => pure true
    | some first, none => settings.isAt first
    | some first, some stop => settings.inRange index first stop
  return selected != selector.negated

/-! ### Changing lines -/

/-- How the next letters that are put in place of a match are changed: all of
them, and the first one. -/
structure Style where
  all : Capitals
  first : Capitals

def changed : Capitals → Nat → Nat
  | .kept, letter => letter
  | .upper, letter => Letters.upper letter
  | .lower, letter => Letters.lower letter

/-- Put letters behind others in a style. -/
def styled (style : Style) : Letters → Letters × Style
  | [] => ([], style)
  | letter :: letters =>
    let first := if style.first == .kept then style.all else style.first
    (changed first letter :: letters.map (changed style.all), { style with first := .kept })

/-- What is put in place of a match. -/
def replacement (found : Expression.Match) (text : Array Nat) : List Piece → Style → Letters
  | [], _ => []
  | piece :: pieces, style =>
    match piece with
    | .text bytes =>
      let (letters, style) := styled style (Letters.ofBytes true bytes)
      letters ++ replacement found text pieces style
    | .group number =>
      let (letters, style) := styled style (found.group text number)
      letters ++ replacement found text pieces style
    | .style all => replacement found text pieces ⟨all, .kept⟩
    | .styleNext first => replacement found text pieces { style with first }

/-- A text with something in place of some of its matches. -/
def replaced (text : Array Nat) (pieces : List Piece) : Nat → List Expression.Match → Letters
  | start, [] => (text.extract start text.size).toList
  | start, found :: more =>
    (text.extract start found.first).toList ++ replacement found text pieces ⟨.kept, .kept⟩ ++
      replaced text pieces found.last more

def substitute (settings : Settings) (substitution : Substitution) : Editing Unit := do
  let (manner, expression) ← settings.wanted substitution.search
  let text := (Letters.ofBytes true (← get).line).toArray
  let fuel := if substitution.all then text.size + 2 else 2 * substitution.number
  let found := (expression.allMatches manner text fuel 0 none).drop (substitution.number - 1)
  let found := if substitution.all then found else found.take 1
  if found.isEmpty then return ()
  modify fun state => { state with
    line := Letters.toBytes true (replaced text substitution.pieces 0 found)
    changed := true }
  if substitution.runs then
    let command := (← get).line
    settings.perform (·.flush)
    let (output, _) ← settings.perform (·.outputOfShell settings.launch command)
    let line := if output.getLast? == some settings.separator then output.dropLast else output
    modify fun state => { state with line }
  let state ← get
  if substitution.prints then settings.putLine state.line state.hasEnd
  match substitution.output with
  | some path => settings.putTo path state.line state.hasEnd
  | none => return ()

def transliterated (pairs : List (Nat × Nat)) (line : Bytes) : Bytes :=
  Letters.toBytes true ((Letters.ofBytes true line).map fun letter => (pairs.lookup letter).getD letter)

/-- A byte as it is shown where nothing may stay hidden. -/
def shown (byte : UInt8) : Bytes :=
  if byte == 0x5c then [0x5c, 0x5c]
  else if 0x20 ≤ byte && byte < 0x7f then [byte]
  else match [(0x07, 0x61), (0x08, 0x62), (0x0c, 0x66), (0x0a, 0x6e), (0x0d, 0x72), (0x09, 0x74), (0x0b, 0x76)].lookup byte with
    | some letter => [0x5c, letter]
    | none => Quoting.octal byte

/-- A line with all its bytes shown, in rows of a width. -/
def shownLine (width : Nat) (line : Bytes) : Bytes :=
  let (text, _) := line.foldl (fun ((text, column) : List Bytes × Nat) byte =>
    let letters := shown byte
    if width > 0 && column + letters.length > width - 1 then (letters :: [0x5c, 0x0a] :: text, letters.length)
    else (letters :: text, column + letters.length)) ([], 0)
  text.reverse.flatten ++ utf8 "$\n"

/-- The lines that a file gives one after the other. -/
def lineOf (settings : Settings) (path : Bytes) : Editing (Option Bytes) := do
  let feed ← match (← get).readers.find? (·.1 == path) with
    | some (_, feed) => pure feed
    | none =>
      let opened ← settings.perform (·.openFile ⟨path⟩)
      pure (opened.toOption.map Feed.of)
  match feed with
  | none => return none
  | some feed =>
    match ← settings.perform (·.nextLine settings.separator Program.endless feed) with
    | .error _ => return none
    | .ok (line, feed) =>
      modify fun state => { state with readers := (path, some feed) :: state.readers.filter (·.1 != path) }
      return line.map fun (text, hasEnd) => text ++ if hasEnd then [settings.separator] else []

/-- The beginning of a text up to the first newline. -/
def firstLine (line : Bytes) : Bytes := line.takeWhile (· != 0x0a)

/-- Let time pass for one step. -/
def spend (settings : Settings) : Editing Unit := do
  let count := (← get).steps
  modify fun state => { state with steps := count + 1 }
  settings.perform fun _ => .rest (stepTime count)

/-- Carry out the commands from one on. -/
def run (settings : Settings) : Nat → Nat → Editing Ending
  | 0, _ => return .done
  | fuel + 1, index => do
    match settings.script.commands[index]? with
    | none => return .done
    | some command =>
      let selected ← settings.selects index command.selector
      let onward := settings.run fuel (index + 1)
      let jump (label : Bytes) : Editing Ending := do
        settings.spend
        match (settings.script.labels.find? (·.1 == label)) with
        | some (_, target) => settings.run fuel target
        | none => return .done
      let state ← get
      match command.order, selected with
      | .open_ close, false => settings.run fuel close
      | _, false => onward
      | .open_ _, true | .pass, true => onward
      | .append text, true =>
        modify fun state => { state with later := state.later ++ [.text text] }
        onward
      | .insert text, true =>
        settings.putText text
        onward
      | .change text, true =>
        let atEnd := command.selector.stop.isNone || state.ranges[index]? == some .outside
        if atEnd then settings.putText text
        return .dropped
      | .jump condition label, true =>
        match condition with
        | .always => jump label
        | .afterChange =>
          if !state.changed then onward
          else
            set { state with changed := false }
            jump label
        | .withoutChange =>
          if !state.changed then jump label
          else
            set { state with changed := false }
            onward
      | .delete, true => return .dropped
      | .deleteFirst, true =>
        if !state.line.elem 0x0a then return .dropped
        set { state with line := state.line.drop ((firstLine state.line).length + 1) }
        return .again
      | .run text, true =>
        settings.perform (·.flush)
        if text.isEmpty then
          let (output, _) ← settings.perform (·.outputOfShell settings.launch state.line)
          set { state with line := if output.getLast? == some settings.separator then output.dropLast else output }
        else
          settings.putEnd
          let (output, _) ← settings.perform (·.outputOfShell settings.launch text)
          settings.put output
        onward
      | .printName, true =>
        settings.putText (state.name ++ [0x0a])
        onward
      | .printNumber, true =>
        settings.putText (Program.numeral state.number ++ [0x0a])
        onward
      | .get, true =>
        set { state with line := state.held }
        onward
      | .getMore, true =>
        set { state with line := state.line ++ settings.separator :: state.held }
        onward
      | .hold, true =>
        set { state with held := state.line }
        onward
      | .holdMore, true =>
        set { state with held := state.held ++ settings.separator :: state.line }
        onward
      | .exchange, true =>
        set { state with line := state.held, held := state.line }
        onward
      | .show_ width, true =>
        settings.putText (shownLine (width.getD settings.width) state.line)
        onward
      | .next, true =>
        if ← settings.isLast Program.endless then return .done
        if !settings.quiet then settings.putLine state.line state.hasEnd
        if ← settings.advance false then onward else return .dropped
      | .nextMore, true =>
        if ← settings.isLast Program.endless then return .done
        if ← settings.advance true then onward else return .done
      | .print, true =>
        settings.putLine state.line state.hasEnd
        onward
      | .printFirst, true =>
        settings.putLine (firstLine state.line) (state.hasEnd || state.line.elem 0x0a)
        onward
      | .quit code, true => return .quit code
      | .quitSilently code, true => return .quitSilently code
      | .readFile path, true =>
        modify fun state => { state with later := state.later ++ [.file path] }
        onward
      | .readLine path, true =>
        match ← settings.lineOf path with
        | some text => modify fun state => { state with later := state.later ++ [.text text] }
        | none => pure ()
        onward
      | .write path, true =>
        settings.putTo path state.line state.hasEnd
        onward
      | .writeFirst path, true =>
        settings.putTo path (firstLine state.line) (state.hasEnd || state.line.elem 0x0a)
        onward
      | .substitute substitution, true =>
        settings.substitute substitution
        onward
      | .transliterate pairs, true =>
        set { state with line := transliterated pairs state.line }
        onward
      | .empty, true =>
        set { state with line := [] }
        onward

/-- Be done with the line. -/
def finishLine (settings : Settings) (prints : Bool) : Editing Unit := do
  let state ← get
  if prints && !settings.quiet then settings.putLine state.line state.hasEnd
  settings.putLater

/-- End before the end of the input. What was read too early is given back. -/
def leave (settings : Settings) (code : Nat) : Editing Nat := do
  let state ← get
  match state.feed with
  | some feed =>
    let ahead := match state.ahead with
      | some line => line.text ++ if line.hasEnd then [settings.separator] else []
      | none => []
    settings.perform (·.giveBack { feed with waiting := ahead ++ feed.waiting })
  | none => pure ()
  settings.closeInput
  return code

/-- Carry out the script on every line. -/
def eachLine (settings : Settings) : Nat → Bool → Editing Nat
  | 0, _ => return 0
  | fuel + 1, keeps => do
    settings.spend
    if !keeps then
      if !(← settings.advance false) then return (← get).status
    match ← settings.run Program.endless 0 with
    | .done =>
      settings.finishLine true
      settings.eachLine fuel false
    | .dropped =>
      settings.finishLine false
      settings.eachLine fuel false
    | .again =>
      settings.finishLine false
      settings.eachLine fuel true
    | .quit code =>
      settings.finishLine true
      settings.leave code
    | .quitSilently code => settings.leave code

/-- Open the files that are written to. -/
def openOutputs (settings : Settings) : List Bytes → Editing Unit
  | [] => return ()
  | path :: paths => do
    let given : Option Nat := if path == utf8 "/dev/stderr" then some 2 else none
    let isOwn := path == utf8 "/dev/stdout"
    if isOwn && settings.inPlace.isNone then settings.openOutputs paths
    else
      let opened : Except Errno Nat ← match given, isOwn with
        | some descriptor, _ => pure (.ok descriptor)
        | none, true => pure (.ok 1)
        | none, false => settings.perform fun program => do
            program.openTarget path ⟨true, false, true, ← program.allowed 0o666⟩ false
      match opened with
      | .error errno => settings.abort 4 (utf8 "couldn't open file " ++ path ++ utf8 s!": {errno.text}")
      | .ok descriptor =>
        modify fun state => { state with outputs := state.outputs ++ [⟨path, descriptor, false⟩] }
        settings.openOutputs paths

/-- Carry out a script on some inputs, and tell the exit code. -/
def edit (settings : Settings) (files : List Bytes) : Deed Nat := do
  let state : State := {
    line := []
    hasEnd := true
    held := []
    number := 0
    changed := false
    later := []
    ranges := settings.freshRanges
    former := none
    files := files
    feed := none
    name := Program.ownInput
    ahead := none
    readers := []
    outputs := []
    lacksEnd := false
    edited := []
    status := 0
    steps := 0 }
  let work : Editing Nat := do
    settings.openOutputs settings.script.outputs
    settings.eachLine Program.endless false
  return (← work.run state).1

end Settings
end ExitParity.Editor
