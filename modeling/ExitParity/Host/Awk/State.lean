import ExitParity.Host.Applets.Paths
import ExitParity.Host.Applets.Subprocess
import ExitParity.Host.Awk.Lexer
import ExitParity.Host.Awk.Pattern
import ExitParity.Host.Awk.Table

/-! What a program of patterns and actions works on: its variables, the record
with its fields, and what it reads from and writes to. -/

namespace ExitParity.Awk

/-- Why statements are left before their end. -/
inductive Leave where
  | break_
  | continue_
  | next
  | nextFile
  | exit
  | return_ (value : Value)
  /-- A fault, complained about already. -/
  | failed

/-- Where an output leads. -/
inductive Channel where
  | own
  | errors
  | file (descriptor : Nat)
  | command (number descriptor : Nat)

/-- An output with what was not written yet, the last first. -/
structure Output where
  name : Bytes
  isCommand : Bool
  channel : Channel
  waiting : List Bytes
  size : Nat

/-- An input that lines are asked from by its name. -/
structure Source where
  name : Bytes
  isCommand : Bool
  feed : Feed
  number : Option Nat

/-- What a name of a function stands for. -/
inductive Slot where
  | value (value : Value)
  | array (index : Nat)

/-- A record, its fields as far as it was split, and whether its text has to be
put together from them again. -/
structure Record where
  text : Value
  fields : Array Value
  isSplit : Bool
  isStale : Bool

structure State where
  bindings : Std.HashMap Bytes Value
  tables : Array Table
  frame : Array Slot
  record : Record
  /-- The rules whose range of records has begun. -/
  ranges : List Nat
  /-- The input that records come from, the argument it may be followed by, and
  whether there was one. -/
  feed : Option Feed
  nextArgument : Nat
  hadInput : Bool
  outputs : List Output
  sources : List Source
  steps : Nat
  code : Nat
  seed : Nat

/-- How a program is carried out. -/
structure Settings where
  process : ExitParity.Program
  launch : Launcher
  program : Program

abbrev Running := ExceptT Leave (StateT State Deed)

/-- How a text is cut into fields. -/
inductive Separator where
  | blanks
  | everywhere
  | mark (byte : UInt8)
  | pattern (expression : Expression)

namespace Separator

def isBlank (byte : UInt8) : Bool := Printing.isSpace byte

def words : Bytes → Bytes → List Bytes
  | word, [] => if word.isEmpty then [] else [word.reverse]
  | word, byte :: rest =>
    if isBlank byte then if word.isEmpty then words [] rest else word.reverse :: words [] rest
    else words (byte :: word) rest

/-- The parts of a text between some matches. -/
def between (text : Array Nat) : Nat → List Expression.Match → List Bytes
  | start, [] => [Letters.toBytes false (text.extract start text.size).toList]
  | start, found :: more =>
    Letters.toBytes false (text.extract start found.first).toList :: between text found.last more

def parts (separator : Separator) (text : Bytes) : List Bytes :=
  if text.isEmpty then []
  else match separator with
    | .blanks => words [] text
    | .everywhere => text.map ([·])
    | .mark byte => Bytes.split byte text
    | .pattern expression =>
      let letters := (Letters.ofBytes false text).toArray
      between letters 0 ((expression.allMatches manner letters (letters.size + 2) 0 none).filter fun found =>
        found.first < found.last)

end Separator

namespace Settings

def perform {α : Type} (settings : Settings) (deed : ExitParity.Program → Deed α) : Running α := do
  let value ← (deed settings.process : Deed α)
  return value

def complain (settings : Settings) (text : Bytes) : Running Unit :=
  settings.perform fun process => do
    let _ ← process.write 2 (process.shortName ++ utf8 ": " ++ text ++ [0x0a])

def abort {α : Type} (settings : Settings) (text : Bytes) : Running α := do
  settings.complain text
  throw .failed

/-- The time passes that a step takes. -/
def spend (settings : Settings) : Running Unit := do
  let count := (← get).steps
  modify fun state => { state with steps := count + 1 }
  settings.perform fun _ => .rest (stepTime count)

/-! ### Variables -/

def valueOf (name : String) : Running Value := return (← get).bindings.getD (utf8 name) .unset

def put (name : String) (value : Value) : Running Unit :=
  modify fun state => { state with bindings := state.bindings.insert (utf8 name) value }

def textOf (value : Value) : Running Bytes := do
  match value with
  | .number _ => return value.toText ((← valueOf "CONVFMT").toText [])
  | value => return value.toText []

/-- The text of a value as it is printed. -/
def printedText (value : Value) : Running Bytes := do
  match value with
  | .number _ => return value.toText ((← valueOf "OFMT").toText [])
  | value => return value.toText []

def quotedText (name : String) : Running Bytes := do textOf (← valueOf name)

/-- End with a fault that was met while running. -/
def runFault {α : Type} (settings : Settings) (text : Bytes) : Running α := do
  let file ← quotedText "FILENAME"
  let inFile ← quotedText "FNR"
  let inAll ← quotedText "NR"
  settings.abort (utf8 "run time error: " ++ text ++ utf8 "\n\tFILENAME=\"" ++ file ++ utf8 "\" FNR=" ++ inFile ++
    utf8 " NR=" ++ inAll)

/-- The expression that a text stands for. -/
def expressionOf (settings : Settings) (source : Bytes) : Running Expression := do
  match Pattern.ofText source with
  | .ok expression => return expression
  | .error reason => settings.runFault (utf8 s!"regular expression compile failed ({reason})\n" ++ source)

def separatorOf (settings : Settings) (source : Bytes) : Running Separator := do
  match source with
  | [] => return .everywhere
  | [0x20] => return .blanks
  | [byte] => return .mark byte
  | source => return .pattern (← settings.expressionOf source)

/-! ### The record -/

/-- Split the record, if that was not done yet. -/
def split (settings : Settings) : Running Unit := do
  let record := (← get).record
  if record.isSplit then return ()
  let separator ← settings.separatorOf (← quotedText "FS")
  let fields := (separator.parts (← textOf record.text)).map Value.input
  modify fun state => { state with record := { record with fields := fields.toArray, isSplit := true } }

def setRecord (text : Value) : Running Unit :=
  modify fun state => { state with record := ⟨text, #[], false, false⟩ }

/-- The text of the whole record. -/
def wholeRecord : Running Value := do
  let record := (← get).record
  if !record.isStale then return record.text
  let separator ← quotedText "OFS"
  let fields ← record.fields.toList.mapM textOf
  let text : Value := .input (Bytes.joinWith separator fields)
  modify fun state => { state with record := { record with text, isStale := false } }
  return text

def field (settings : Settings) (number : Nat) : Running Value := do
  if number == 0 then wholeRecord
  else
    settings.split
    return (← get).record.fields[number - 1]?.getD (.input [])

/-- Have so many fields. -/
def resize (settings : Settings) (count : Nat) : Running Unit := do
  settings.split
  modify fun state =>
    let fields := state.record.fields
    let fields := fields.extract 0 count ++ Array.replicate (count - fields.size) (.input [])
    { state with record := { state.record with fields, isStale := true } }

/-- The greatest number that a field has. -/
def fieldLimit : Nat := 100000000

def setField (settings : Settings) (number : Nat) (value : Value) : Running Unit := do
  if number == 0 then setRecord value
  else
    settings.split
    if (← get).record.fields.size < number then settings.resize (min number fieldLimit)
    modify fun state => { state with record := { state.record with
      fields := state.record.fields.setIfInBounds (number - 1) value
      isStale := true } }

def fieldCount (settings : Settings) : Running Nat := do
  settings.split
  return (← get).record.fields.size

/-- The value of one of the program's variables. -/
def valueNamed (settings : Settings) (name : Bytes) : Running Value := do
  if name == utf8 "NF" then return .ofWhole (← settings.fieldCount)
  else return (← get).bindings.getD name .unset

def setVariable (settings : Settings) (name : Bytes) (value : Value) : Running Unit := do
  if name == utf8 "NF" then
    let count := value.toWhole
    if count < 0 then settings.runFault (utf8 "negative value assigned to NF")
    settings.resize (min count.toNat fieldLimit)
  else
    if name == utf8 "FS" then settings.split
    modify fun state => { state with bindings := state.bindings.insert name value }

/-- Count one of the program's variables up. -/
def countUp (name : String) : Running Unit := do
  put name (.number ((← valueOf name).toNumber + 1))

/-! ### Arrays -/

def arrayIndex (settings : Settings) : Name → Running Nat
  | .ofProgram name => return settings.program.arrays.idxOf name
  | .ofFunction index => do
    let state ← get
    match state.frame[index]? with
    | some (.array array) => return array
    | _ =>
      set { state with
        tables := state.tables.push .empty
        frame := state.frame.setIfInBounds index (.array state.tables.size) }
      return state.tables.size

def table (index : Nat) : Running Table := return (← get).tables[index]?.getD .empty

def setTable (index : Nat) (table : Table) : Running Unit :=
  modify fun state => { state with tables := state.tables.setIfInBounds index table }

/-- The value of an element, which is there from now on. -/
def element (array : Nat) (key : Key) : Running Value := do
  let (table, value) := (← table array).reach key true
  setTable array table
  return value.getD .unset

def setElement (array : Nat) (key : Key) (value : Value) : Running Unit := do
  let table ← table array
  setTable array .empty
  setTable array (table.set key value)

/-! ### Input -/

/-- Read all that is left of an input. -/
def fill (settings : Settings) (feed : Feed) : Running Feed := do
  if feed.ended then return feed
  match ← settings.perform (·.readAll feed.descriptor) with
  | .ok more => return { feed with waiting := feed.waiting ++ more, ended := true }
  | .error errno => settings.abort (utf8 s!"read error ({errno.text})")

/-- Cut a text at its first empty line. -/
def paragraph : Bytes → Bytes → Bytes × Bytes
  | before, 0x0a :: 0x0a :: rest => (before.reverse, rest.dropWhile (· == 0x0a))
  | before, [0x0a] => (before.reverse, [])
  | before, byte :: rest => paragraph (byte :: before) rest
  | before, [] => (before.reverse, [])

/-- Read the next record of an input. -/
def nextRecord (settings : Settings) (feed : Feed) : Running (Option Bytes × Feed) := do
  match ← quotedText "RS" with
  | [byte] =>
    match ← settings.perform (·.nextLine byte Program.endless feed) with
    | .ok (line, feed) => return (line.map (·.1), feed)
    | .error errno => settings.abort (utf8 s!"read error ({errno.text})")
  | [] =>
    let feed ← settings.fill feed
    let text := feed.waiting.dropWhile (· == 0x0a)
    if text.isEmpty then return (none, { feed with waiting := [] })
    let (record, waiting) := paragraph [] text
    return (some record, { feed with waiting })
  | source =>
    let expression ← settings.expressionOf source
    let feed ← settings.fill feed
    if feed.waiting.isEmpty then return (none, feed)
    let letters := (Letters.ofBytes false feed.waiting).toArray
    match expression.search? manner letters 0 with
    | some found =>
      if found.first < found.last then
        return (some (feed.waiting.take found.first), { feed with waiting := feed.waiting.drop found.last })
      else return (some feed.waiting, { feed with waiting := [] })
    | none => return (some feed.waiting, { feed with waiting := [] })

/-- A variable and its value, if an argument is written as such. -/
def assignment? (text : Bytes) : Option (Bytes × Bytes) := do
  let (name, value) ← Bytes.cutAt? 0x3d text
  if name.all Scan.isNamePart && name.head?.any Scan.isNameStart then
    some (name, Scan.unescaped value.length value)
  else none

/-- Open the next input that is named by an argument, or the program's own. -/
def openNext (settings : Settings) : Nat → Running Bool
  | 0 => return false
  | fuel + 1 => do
    let state ← get
    if (state.nextArgument : Int) ≥ (← valueOf "ARGC").toWhole then
      if state.hadInput then return false
      set { state with hadInput := true, feed := some (Feed.of 0) }
      return true
    modify fun state => { state with nextArgument := state.nextArgument + 1 }
    let index := settings.program.arrays.idxOf (utf8 "ARGV")
    let (_, value) := (← table index).reach (.whole state.nextArgument) false
    let argument ← textOf (value.getD .unset)
    if argument.isEmpty then settings.openNext fuel
    else match assignment? argument with
      | some (name, value) =>
        settings.setVariable name (.input value)
        settings.openNext fuel
      | none =>
        match ← settings.perform (·.openInput argument) with
        | .error errno => settings.abort (utf8 "cannot open \"" ++ argument ++ utf8 s!"\" ({errno.text})")
        | .ok descriptor =>
          modify fun state => { state with hadInput := true, feed := some (Feed.of descriptor) }
          put "FILENAME" (.text argument)
          put "FNR" (.number 0)
          return true

/-- Be done with the input that records come from. -/
def closeInput (settings : Settings) : Running Unit := do
  match (← get).feed with
  | none => return ()
  | some feed =>
    if feed.descriptor != 0 then settings.perform (·.close feed.descriptor)
    modify fun state => { state with feed := none }

/-- Read the next record of all inputs. -/
def nextOfAll (settings : Settings) : Nat → Running (Option Bytes)
  | 0 => return none
  | fuel + 1 => do
    match (← get).feed with
    | none => if ← settings.openNext Program.endless then settings.nextOfAll fuel else return none
    | some feed =>
      let (record, feed) ← settings.nextRecord feed
      match record with
      | some text =>
        modify fun state => { state with feed := some feed }
        return some text
      | none =>
        settings.closeInput
        settings.nextOfAll fuel

/-! ### Output -/

/-- Write what waits for an output. -/
def flushOutput (settings : Settings) (output : Output) : Running Output := do
  match output.channel with
  | .own => settings.perform (·.flush)
  | .errors => return output
  | .file descriptor | .command _ descriptor =>
    let _ ← settings.perform (·.write descriptor output.waiting.reverse.flatten)
  return { output with waiting := [], size := 0 }

def flushAll (settings : Settings) : Running Unit := do
  let outputs ← (← get).outputs.mapM settings.flushOutput
  modify fun state => { state with outputs }

def codeOf (status : WaitStatus) : Int :=
  let code := status.exitCode
  if code < 0 then 256 - code else code

/-- Be done with an output, and tell what came of it. -/
def closeOutput (settings : Settings) (output : Output) : Running Int := do
  let output ← settings.flushOutput output
  match output.channel with
  | .own | .errors => return 0
  | .file descriptor =>
    settings.perform (·.close descriptor)
    return 0
  | .command number descriptor =>
    settings.perform (·.close descriptor)
    return codeOf (← settings.perform fun _ => Program.await number)

/-- Be done with all outputs. -/
def closeAll (settings : Settings) : Running Unit := do
  for output in (← get).outputs do
    let _ ← settings.closeOutput output

/-- Open an output. -/
def openOutput (settings : Settings) (name : Bytes) (isCommand appends : Bool) : Running Output := do
  if isCommand then
    settings.flushAll
    let (number, descriptor) ← settings.perform (·.startShell settings.launch name 0)
    return ⟨name, true, .command number descriptor, [], 0⟩
  else
    let opened ← settings.perform fun process => do
      process.openTarget name ⟨true, false, !appends, ← process.allowed 0o666⟩ appends
    match opened with
    | .ok descriptor => return ⟨name, false, .file descriptor, [], 0⟩
    | .error errno => settings.abort (utf8 "cannot open \"" ++ name ++ utf8 s!"\" for output ({errno.text})")

/-- How much is kept of an output before it is written. -/
def outputSize : Nat := 4096

/-- Put a text behind what waits for an output. -/
def give (settings : Settings) (output : Output) (text : Bytes) : Running Output := do
  match output.channel with
  | .own =>
    settings.perform (·.print text)
    return output
  | .errors =>
    let _ ← settings.perform (·.write 2 text)
    return output
  | .file _ | .command .. =>
    let output := { output with waiting := text :: output.waiting, size := output.size + text.length }
    if output.size ≥ outputSize then settings.flushOutput output else return output

/-- Write a text to an output by its name. The one written to last comes first. -/
def writeTo (settings : Settings) (name : Bytes) (isCommand appends : Bool) (text : Bytes) : Running Unit := do
  let isIt (output : Output) : Bool := output.name == name && output.isCommand == isCommand
  let output ← match (← get).outputs.find? isIt with
    | some output => pure output
    | none => settings.openOutput name isCommand appends
  let output ← settings.give output text
  modify fun state => { state with outputs := output :: state.outputs.filter fun other => !isIt other }

/-! ### Lines of other inputs -/

def sourceNamed (name : Bytes) (isCommand : Bool) : Running (Option Source) :=
  return (← get).sources.find? fun source => source.name == name && source.isCommand == isCommand

/-- Read a record of an input by its name. There is a number for what came of it. -/
def lineOf (settings : Settings) (name : Bytes) (isCommand : Bool) : Running (Option Bytes × Int) := do
  let source? ← match ← sourceNamed name isCommand with
    | some source => pure (some source)
    | none =>
      if isCommand then
        settings.flushAll
        let (number, descriptor) ← settings.perform (·.startShell settings.launch name 1)
        pure (some ⟨name, true, Feed.of descriptor, some number⟩)
      else match ← settings.perform (·.openInput name) with
        | .ok descriptor => pure (some ⟨name, false, Feed.of descriptor, none⟩)
        | .error _ => pure none
  match source? with
  | none => return (none, -1)
  | some source =>
    let (record, feed) ← settings.nextRecord source.feed
    modify fun state => { state with sources := { source with feed } :: state.sources.filter fun other =>
      other.name != name || other.isCommand != isCommand }
    return (record, if record.isSome then 1 else 0)

/-- Be done with all inputs and outputs of a name. -/
def closeNamed (settings : Settings) (name : Bytes) : Running Int := do
  let state ← get
  let outputs := state.outputs.filter (·.name == name)
  let sources := state.sources.filter (·.name == name)
  set { state with
    outputs := state.outputs.filter (·.name != name)
    sources := state.sources.filter (·.name != name) }
  let ofOutputs ← outputs.mapM settings.closeOutput
  let ofSources ← sources.mapM fun source => do
    if source.feed.descriptor != 0 then settings.perform (·.close source.feed.descriptor)
    match source.number with
    | some number => return codeOf (← settings.perform fun _ => Program.await number)
    | none => return 0
  return (ofOutputs ++ ofSources).getLast?.getD (-1)

end Settings
end ExitParity.Awk
