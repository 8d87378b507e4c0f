import ExitParity.Host.Applets.Listing
import ExitParity.Host.Applets.Printers
import ExitParity.Host.Applets.Starters
import ExitParity.Host.Expression

/-! The program that looks for files in a tree. -/

namespace ExitParity

/-- How a number is compared with a given one. -/
inductive Measure where
  | exactly (number : Nat)
  | more (number : Nat)
  | less (number : Nat)

namespace Measure

def holds (value : Nat) : Measure → Bool
  | .exactly number => value == number
  | .more number => value > number
  | .less number => value < number

def ofText? (text : Bytes) : Option Measure :=
  let (build, digits) : (Nat → Measure) × Bytes := match text with
    | 0x2b :: digits => (.more, digits)
    | 0x2d :: digits => (.less, digits)
    | digits => (.exactly, digits)
  if digits.isEmpty || !digits.all Printing.isDecimal then none else some (build (Printing.digits 10 digits))

end Measure

/-- What a program to be started is handed for the files found. -/
structure FindCommand where
  words : List Bytes
  inFolder : Bool
  /-- The number under which the files are gathered, if they are. -/
  batch : Option Nat

/-- One thing that is asked or done about a file. -/
inductive FindTest where
  | always (value : Bool)
  | name (pattern : Bytes) (ignoresCase : Bool)
  | path (pattern : Bytes) (ignoresCase : Bool)
  | target (pattern : Bytes)
  | expression (expression : Expression) (manner : Manner)
  | kind (letters : Bytes)
  | size (measure : Measure) (unit : Nat)
  | empty
  | newer (time : Nat)
  | age (measure : Measure) (unit : Nat)
  | mode (any every : Bool) (mode : Nat)
  | links (measure : Measure)
  | same (node : Nat)
  | permits (bit : Nat)
  | print (ending : UInt8)
  | printFacts (format : Bytes)
  | execute (command : FindCommand)
  | delete
  | prune
  | quit

/-- An expression of `find`. -/
inductive FindExpression where
  | test (test : FindTest)
  | not (body : FindExpression)
  | both (first second : FindExpression)
  | either (first second : FindExpression)
  | list (first second : FindExpression)

/-- A file that was found: its path, the start and the depth it was met at. -/
structure Found where
  path : Bytes
  start : Bytes
  depth : Nat
  facts : FileFacts

/-- What the search has come to. -/
structure FindState where
  pruned : Bool
  stopped : Bool
  sound : Bool
  batches : List (Nat × List Bytes)

/-- The options of a search, which hold for all of it. -/
structure FindScope where
  follows : Bool
  followsStarts : Bool
  least : Nat
  most : Option Nat
  belowFirst : Bool

/-- An expression that is being read. -/
structure FindDraft where
  words : List Bytes
  scope : FindScope
  batches : Nat
  /-- Whether something is done with the files found. -/
  acts : Bool

namespace FindExpression

/-- Replace braces in a word by a path. -/
def fill (path : Bytes) : Nat → Bytes → Bytes
  | fuel + 1, 0x7b :: 0x7d :: rest => path ++ fill path fuel rest
  | fuel + 1, byte :: rest => byte :: fill path fuel rest
  | _, _ => []

abbrev Reading := StateT FindDraft (Except Bytes)

def quoted (text : Bytes) : Bytes := 0x60 :: text ++ [0x27]

def argument (option : Bytes) : Reading Bytes := do
  match (← get).words with
  | [] => throw (utf8 "missing argument to " ++ quoted option)
  | word :: rest =>
    modify fun draft => { draft with words := rest }
    return word

/-- The words up to a semicolon, or up to braces with a plus. -/
def command (option : Bytes) (inFolder : Bool) : Reading FindTest := do
  let words := (← get).words
  let rec go : List Bytes → List Bytes → Option (List Bytes × Bool × List Bytes)
    | _, [] => none
    | before, word :: rest =>
      if word == utf8 ";" then some (before.reverse, false, rest)
      else if word == utf8 "+" && before.head? == some (utf8 "\x7b\x7d") then some ((before.drop 1).reverse, true, rest)
      else go (word :: before) rest
  match go [] words with
  | none | some ([], _, _) => throw (utf8 "missing argument to " ++ quoted option)
  | some (command, gathers, rest) =>
    let number := (← get).batches
    modify fun draft => { draft with words := rest, acts := true, batches := if gathers then number + 1 else number }
    return .execute ⟨command, inFolder, if gathers then some number else none⟩

def number (option : Bytes) : Reading Nat := do
  let text ← argument option
  if text.isEmpty || !text.all Printing.isDecimal then
    throw (utf8 "Expected a positive decimal integer argument to " ++ option ++ utf8 ", but got " ++ Quoting.curly text)
  return Printing.digits 10 text

def measure (option : Bytes) : Reading Measure := do
  let text ← argument option
  match Measure.ofText? text with
  | some measure => return measure
  | none => throw (utf8 "invalid argument " ++ quoted text ++ utf8 " to " ++ quoted option)

/-- The size that is measured in some unit. -/
def size : Reading FindTest := do
  let text ← argument (utf8 "-size")
  let (digits, unit) : Bytes × Option Nat := match text.reverse with
    | letter :: rest =>
      if Printing.isDecimal letter then (text, some 512)
      else (rest.reverse, [(0x63, 1), (0x77, 2), (0x62, 512), (0x6b, 1024), (0x4d, 1048576), (0x47, 1073741824)].lookup letter)
    | [] => (text, none)
  match Measure.ofText? digits, unit with
  | some measure, some unit => return .size measure unit
  | _, _ => throw (utf8 "invalid -size type " ++ quoted text)

def mode : Reading FindTest := do
  let text ← argument (utf8 "-perm")
  let (any, every, body) := match text with
    | 0x2f :: body => (true, false, body)
    | 0x2d :: body => (false, true, body)
    | body => (false, false, body)
  match ModeChange.ofText? body with
  | some change => return .mode any every (change.apply 0 false 0)
  | none => throw (utf8 "invalid mode " ++ Quoting.curly text)

def setScope (change : FindScope → FindScope) : Reading FindTest := do
  modify fun draft => { draft with scope := change draft.scope }
  return .always true

def acting (test : FindTest) : Reading FindTest := do
  modify fun draft => { draft with acts := true }
  return test

/-- Read one test. -/
def question (tree : FileTree) (word : Bytes) : Reading FindTest := do
  let node (option : Bytes) : Reading Nat := do
    let path ← argument option
    match tree.number ⟨path⟩ with
    | .ok number => return number
    | .error errno => throw (Quoting.curly path ++ utf8 s!": {errno.text}")
  let expression (ignoresCase : Bool) : Reading FindTest := do
    let text ← argument word
    let manner : Manner := ⟨false, false, ignoresCase, false, false⟩
    match Expression.ofLetters manner (Letters.ofBytes true text) with
    | .ok (expression, _) => return .expression expression manner
    | .error fault => throw (utf8 s!"failed to compile regular expression: {fault.message}")
  match Utf8.display word with
  | "-true" | "-noleaf" | "-ignore_readdir_race" | "-xdev" | "-mount" | "-warn" | "-nowarn" | "-daystart" => return .always true
  | "-false" | "-nouser" | "-nogroup" => return .always false
  | "-name" => return .name (← argument word) false
  | "-iname" => return .name (← argument word) true
  | "-path" | "-wholename" => return .path (← argument word) false
  | "-ipath" | "-iwholename" => return .path (← argument word) true
  | "-lname" => return .target (← argument word)
  | "-regex" => expression false
  | "-iregex" => expression true
  | "-regextype" =>
    let _ ← argument word
    return .always true
  | "-type" | "-xtype" =>
    let text ← argument word
    match text.find? fun letter => !(utf8 "bcdpflsD,").elem letter with
    | some _ => throw (utf8 "Unknown argument to -type: " ++ text)
    | none => return .kind text
  | "-size" => size
  | "-empty" => return .empty
  | "-newer" | "-anewer" | "-cnewer" | "-newermm" => return .newer (tree.timeOf (← node word))
  | "-samefile" => return .same (← node word)
  | "-mtime" | "-ctime" | "-atime" => return .age (← measure word) 86400
  | "-mmin" | "-cmin" | "-amin" => return .age (← measure word) 60
  | "-perm" => mode
  | "-links" => return .links (← measure word)
  | "-user" | "-group" | "-uid" | "-gid" =>
    let text ← argument word
    return .always (text == utf8 "root" || text == utf8 "0")
  | "-readable" => return .permits 0o400
  | "-writable" => return .permits 0o200
  | "-executable" => return .permits 0o100
  | "-maxdepth" =>
    let most ← number word
    setScope fun scope => { scope with most := some most }
  | "-mindepth" =>
    let least ← number word
    setScope fun scope => { scope with least }
  | "-depth" | "-d" => setScope fun scope => { scope with belowFirst := true }
  | "-follow" => setScope fun scope => { scope with follows := true, followsStarts := true }
  | "-print" => acting (.print 0x0a)
  | "-print0" => acting (.print 0)
  | "-printf" => acting (.printFacts (← argument word))
  | "-ls" => acting (.printFacts (utf8 "%9i %6k %M %3n %-8u %-8g %8s %Tb %Td %TH:%TM %p\\n"))
  | "-exec" | "-ok" => command word false
  | "-execdir" | "-okdir" => command word true
  | "-delete" =>
    let _ ← setScope fun scope => { scope with belowFirst := true }
    acting .delete
  | "-prune" => return .prune
  | "-quit" => return .quit
  | _ =>
    if word.head? == some 0x2d then throw (utf8 "unknown predicate " ++ quoted word)
    else throw (utf8 "paths must precede expression: " ++ quoted word)

def next : Reading (Option String) := return ((← get).words.head?).map Utf8.display

def pass : Reading Unit := modify fun draft => { draft with words := draft.words.drop 1 }

mutual

def list_ (tree : FileTree) : Nat → Reading FindExpression
  | 0 => throw (utf8 "invalid expression")
  | fuel + 1 => do
    let first ← either_ tree fuel
    match ← next with
    | some "," =>
      pass
      return .list first (← list_ tree fuel)
    | _ => return first

def either_ (tree : FileTree) : Nat → Reading FindExpression
  | 0 => throw (utf8 "invalid expression")
  | fuel + 1 => do
    let first ← both_ tree fuel
    match ← next with
    | some "-o" | some "-or" =>
      let word := (← next).getD ""
      pass
      if (← get).words.isEmpty then throw (utf8 s!"expected an expression after '{word}'")
      return .either first (← either_ tree fuel)
    | _ => return first

def both_ (tree : FileTree) : Nat → Reading FindExpression
  | 0 => throw (utf8 "invalid expression")
  | fuel + 1 => do
    let first ← not_ tree fuel
    match ← next with
    | none | some ")" | some "-o" | some "-or" | some "," => return first
    | some "-a" | some "-and" =>
      let word := (← next).getD ""
      pass
      if (← get).words.isEmpty then throw (utf8 s!"expected an expression after '{word}'")
      return .both first (← both_ tree fuel)
    | _ => return .both first (← both_ tree fuel)

def not_ (tree : FileTree) : Nat → Reading FindExpression
  | 0 => throw (utf8 "invalid expression")
  | fuel + 1 => do
    match ← next with
    | some "!" | some "-not" =>
      let word := (← next).getD ""
      pass
      if (← get).words.isEmpty then throw (utf8 s!"expected an expression after '{word}'")
      return .not (← not_ tree fuel)
    | some "(" =>
      pass
      let body ← list_ tree fuel
      match ← next with
      | some ")" =>
        pass
        return body
      | _ => throw (utf8 "invalid expression; I was expecting to find a ')' somewhere but did not see one.")
    | some ")" => throw (utf8 "invalid expression; expected to find a ')' but didn't see one. Perhaps you need an extra predicate after '('")
    | some word =>
      if ["-a", "-and", "-o", "-or", ","].contains word then
        throw (utf8 s!"invalid expression; you have used a binary operator '{word}' with nothing before it.")
      pass
      return .test (← question tree (utf8 word))
    | none => throw (utf8 "invalid expression")

end

/-- Read the words of an expression. Where nothing is done with the files
found, they are printed. -/
def read (tree : FileTree) (scope : FindScope) (words : List Bytes) : Except Bytes (FindExpression × FindScope) := do
  if words.isEmpty then return (.test (.print 0x0a), scope)
  let (expression, draft) ← (list_ tree (4 * words.length + 8)).run ⟨words, scope, 0, false⟩
  match draft.words with
  | [] => return (if draft.acts then expression else .both expression (.test (.print 0x0a)), draft.scope)
  | word :: _ =>
    if word == utf8 ")" then throw (utf8 "you have too many ')'")
    else throw (utf8 "paths must precede expression: " ++ quoted word)

end FindExpression

namespace Program

/-- Run a command and wait for its end. -/
def runCommand (program : Program) (launch : Launcher) (folder : Option Bytes) (argv : List Bytes)
    (tell : Errno → Deed Unit) : Deed WaitStatus := do
  let number ← program.forkOff fun number =>
    let child := { program with process := number }
    Activity.thread do
      if let some folder := folder then
        let _ ← child.enterDirectory folder
      let errno ← child.executeNamed launch program.env argv
      tell errno
      child.exit (launchCode errno)
  await number

/-- What a letter of a format of `find` stands for. -/
def foundFact (found : Found) (letter : UInt8) : Option Bytes :=
  let facts := found.facts
  match Char.ofNat letter.toNat with
  | 'p' => some found.path
  | 'f' => some (baseName found.path [])
  | 'h' =>
    let folder := directoryName found.path
    some (if found.path.elem Path.slash then folder else Path.dot)
  | 'H' => some found.start
  | 'P' => some (let rest := found.path.drop found.start.length
      if rest.head? == some Path.slash then rest.drop 1 else rest)
  | 's' => some (numeral facts.size)
  | 'd' => some (numeral found.depth)
  | 'm' => some (Printing.toDigits 8 facts.mode)
  | 'M' => some facts.letters
  | 'y' | 'Y' => some [if facts.kindLetter == 0x2d then 0x66 else facts.kindLetter]
  | 'l' => some (facts.target.getD [])
  | 'n' => some (numeral facts.links)
  | 'u' | 'g' => some (utf8 "root")
  | 'U' | 'G' => some (utf8 "0")
  | 'i' => some (numeral (facts.number + 1000))
  | 'k' => some (numeral (facts.blocks / 2))
  | 'b' => some (numeral facts.blocks)
  | 'D' => some (utf8 "64")
  | 'F' => some (utf8 "ext4")
  | 't' | 'a' | 'c' => some ((Moment.ofNanoseconds facts.time).show_ (utf8 "%a %b %e %H:%M:%S.%N0 %Y"))
  | _ => none

/-- Write the facts about a found file as a format says. -/
def foundText (found : Found) : Nat → Bytes → Bytes
  | fuel + 1, 0x25 :: rest =>
    let flags := rest.takeWhile fun byte => (utf8 "#-+ 0").elem byte
    let width := (rest.drop flags.length).takeWhile Printing.isDecimal
    match rest.drop (flags.length + width.length) with
    | [] => 0x25 :: rest
    | 0x25 :: rest => 0x25 :: foundText found fuel rest
    | letter :: rest =>
      let moment := Moment.ofNanoseconds found.facts.time
      if (utf8 "ATCB").elem letter then
        match rest with
        | 0x40 :: rest =>
          moment.show_ (utf8 "%s.%N0") ++ foundText found fuel rest
        | layout :: rest => moment.show_ [0x25, layout] ++ foundText found fuel rest
        | [] => [0x25, letter]
      else
        (match foundFact found letter with
          | some text => padFact flags (Printing.digits 10 width) text
          | none => [0x25, letter]) ++ foundText found fuel rest
  | fuel + 1, 0x5c :: rest =>
    if rest.head? == some 0x63 then []
    else
      let (value, rest) := Printing.escape rest
      value :: foundText found fuel rest
  | fuel + 1, byte :: rest => byte :: foundText found fuel rest
  | _, _ => []

def foldCase (ignoresCase : Bool) (text : Bytes) : Bytes := if ignoresCase then text.map Printing.lower else text

def matchesPattern (ignoresCase : Bool) (pattern text : Bytes) : Bool :=
  Pattern.accepts (Pattern.ofText (foldCase ignoresCase pattern)) (foldCase ignoresCase text)

/-- Ask a question about a found file, or do something with it. -/
def askFound (program : Program) (launch : Launcher) (found : Found) (state : FindState) : FindTest → Deed (Bool × FindState)
  | .always value => return (value, state)
  | .name pattern ignoresCase => return (matchesPattern ignoresCase pattern (baseName found.path []), state)
  | .path pattern ignoresCase => return (matchesPattern ignoresCase pattern found.path, state)
  | .target pattern => return (found.facts.target.any (matchesPattern false pattern), state)
  | .expression expression manner =>
    return (expression.matchesWhole manner (Letters.ofBytes true found.path).toArray, state)
  | .kind letters =>
    return (letters.elem (if found.facts.kindLetter == 0x2d then 0x66 else found.facts.kindLetter), state)
  | .size measure unit => return (measure.holds ((found.facts.size + unit - 1) / unit), state)
  | .empty =>
    return (match found.facts.node with
      | .file _ (.data bytes) => bytes.isEmpty
      | .directory _ _ _ entries => entries.isEmpty
      | _ => false, state)
  | .newer time => return (found.facts.time > time, state)
  | .age measure unit => do
    let tree ← program.tree
    let age := (tree.now - found.facts.time) / (unit * 10 ^ 9)
    -- minutes are rounded up, days down
    return (measure.holds (if unit == 60 then age + 1 else age), state)
  | .mode any every mode =>
    let has := found.facts.mode &&& mode
    return (if any then mode == 0 || has != 0 else if every then has == mode else found.facts.mode == mode, state)
  | .links measure => return (measure.holds found.facts.links, state)
  | .same node => return (found.facts.number == node, state)
  | .permits bit => do
    let facts := (FileFacts.ofPath (← program.tree) true found.path).toOption.getD found.facts
    return (facts.mode &&& bit != 0, state)
  | .print ending => do
    program.print (found.path ++ [ending])
    return (true, state)
  | .printFacts format => do
    program.print (foundText found (format.length + 1) format)
    return (true, state)
  | .execute command => do
    let folder := if command.inFolder then some (directoryName found.path) else none
    let path := if command.inFolder then utf8 "./" ++ baseName found.path [] else found.path
    match command.batch with
    | some number =>
      let former := (state.batches.lookup number).getD []
      return (true, { state with
        batches := (number, former ++ [path]) :: state.batches.filter (·.1 != number) })
    | none =>
      let argv := command.words.map fun word => FindExpression.fill path (word.length + 1) word
      let status ← program.runCommand launch folder argv (program.complainOf (Quoting.curly (argv.head?.getD [])))
      return (status.exitCode == 0, state)
  | .delete => do
    if found.path == Path.dot then return (true, state)
    match ← program.change fun tree =>
      if found.facts.isDirectory then tree.removeDirectory ⟨found.path⟩ else tree.unlink ⟨found.path⟩ with
    | .ok () => return (true, state)
    | .error errno =>
      program.complainOf (utf8 "cannot delete " ++ Quoting.curly found.path) errno
      return (false, { state with sound := false })
  | .prune => return (true, { state with pruned := true })
  | .quit => return (true, { state with stopped := true })

/-- Evaluate an expression for a found file. -/
def judge (program : Program) (launch : Launcher) (found : Found) : FindExpression → FindState → Deed (Bool × FindState)
  | .test test, state => program.askFound launch found state test
  | .not body, state => do
    let (value, state) ← program.judge launch found body state
    return (!value, state)
  | .both first second, state => do
    let (value, state) ← program.judge launch found first state
    if value && !state.stopped then program.judge launch found second state else return (false, state)
  | .either first second, state => do
    let (value, state) ← program.judge launch found first state
    if value || state.stopped then return (true, state) else program.judge launch found second state
  | .list first second, state => do
    let (_, state) ← program.judge launch found first state
    if state.stopped then return (true, state) else program.judge launch found second state

/-- Search a path and what is below it. -/
def searchFrom (program : Program) (launch : Launcher) (scope : FindScope) (expression : FindExpression) (start : Bytes) :
    Nat → Nat → Bytes → FindState → Deed FindState
  | 0, _, _, state => return state
  | fuel + 1, depth, path, state => do
    let tree ← program.tree
    let follows := if depth == 0 then scope.followsStarts else scope.follows
    let facts? := match FileFacts.ofPath tree follows path with
      | .error .noEntry | .error .tooManyLinks => FileFacts.ofPath tree false path
      | result => result
    match facts? with
    | .error errno =>
      program.complainOf (Quoting.curly path) errno
      return { state with sound := false }
    | .ok facts =>
      let found : Found := ⟨path, start, depth, facts⟩
      let visit (state : FindState) : Deed FindState := do
        if depth < scope.least then return state
        let (_, state) ← program.judge launch found expression { state with pruned := false }
        return state
      let mut state := { state with pruned := false }
      if !scope.belowFirst then state ← visit state
      if facts.isDirectory && !state.pruned && !state.stopped && !scope.most.any (· ≤ depth) then
        match (← program.tree).list ⟨path⟩ with
        | .error .noEntry => pure ()
        | .error errno =>
          program.complainOf (Quoting.curly path) errno
          state := { state with sound := false }
        | .ok entries =>
          for (name, _) in entries do
            if !state.stopped then
              state ← program.searchFrom launch scope expression start fuel (depth + 1) (inside path name) state
      if scope.belowFirst && !state.stopped then state ← visit state
      return state

/-- The commands whose files are gathered. -/
def gathering : FindExpression → List FindCommand
  | .test (.execute command) => if command.batch.isSome then [command] else []
  | .test _ => []
  | .not body => gathering body
  | .both first second | .either first second | .list first second => gathering first ++ gathering second

def findFiles (program : Program) (launch : Launcher) : Deed Nat := do
  if program.args == [utf8 "--version"] || program.args == [utf8 "-version"] then
    program.print program.versionText
    return 0
  let linkOptions := program.args.takeWhile fun arg => [utf8 "-L", utf8 "-H", utf8 "-P"].elem arg
  let args := program.args.drop linkOptions.length
  let isStart (arg : Bytes) : Bool :=
    !(arg.head? == some 0x2d && arg.length > 1) && arg != utf8 "!" && arg != utf8 "(" && arg != utf8 ")" && arg != utf8 ","
  let starts := args.takeWhile isStart
  let last := linkOptions.getLast?.getD []
  let scope : FindScope := ⟨last == utf8 "-L", last == utf8 "-L" || last == utf8 "-H", 0, none, false⟩
  match FindExpression.read (← program.tree) scope (args.drop starts.length) with
  | .error complaint =>
    program.complain complaint
    return 1
  | .ok (expression, scope) =>
    let mut state : FindState := ⟨false, false, true, []⟩
    for start in if starts.isEmpty then [Path.dot] else starts do
      if !state.stopped then
        state ← program.searchFrom launch scope expression start depthLimit 0 start state
    let mut sound := state.sound
    for command in gathering expression do
      if let some paths := command.batch.bind (fun number => state.batches.lookup number) then
        let argv := command.words ++ paths
        let status ← program.runCommand launch none argv (program.complainOf (Quoting.curly (argv.head?.getD [])))
        if status.exitCode != 0 then sound := false
    return if sound then 0 else 1

end Program
end ExitParity
