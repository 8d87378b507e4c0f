import ExitParity.Host.Awk.State
import ExitParity.Host.Calendar

/-! Carrying out a program of patterns and actions. -/

namespace ExitParity.Awk

/-- What holds a value, once its subscripts are known. -/
inductive Spot where
  | named (name : Name)
  | element (array : Nat) (key : Key)
  | field (number : Nat)

namespace Settings

def valueOfName (settings : Settings) : Name → Running Value
  | .ofProgram name => settings.valueNamed name
  | .ofFunction index => do
    match (← get).frame[index]? with
    | some (.value value) => return value
    | _ => return .unset

def read (settings : Settings) : Spot → Running Value
  | .named name => settings.valueOfName name
  | .element array key => element array key
  | .field number => settings.field number

def write (settings : Settings) (spot : Spot) (value : Value) : Running Unit := do
  match spot with
  | .named (.ofProgram name) => settings.setVariable name value
  | .named (.ofFunction index) =>
    modify fun state => { state with frame := state.frame.setIfInBounds index (.value value) }
  | .element array key => setElement array key value
  | .field number => settings.setField number value

/-- What an element is looked for by. -/
def keyOf : List Value → Running Key
  | [.number value] => do
    match Value.asWhole? value with
    | some exact => if exact.natAbs < 2 ^ 63 then return .whole exact else return .text (← textOf (.number value))
    | none => return .text (← textOf (.number value))
  | [value] => return .text (← textOf value)
  | values => do
    let texts ← values.mapM textOf
    return .text (Bytes.joinWith (← quotedText "SUBSEP") texts)

def fieldNumber (settings : Settings) (value : Value) : Running Nat := do
  let number := value.toWhole
  if number < 0 then settings.runFault (utf8 s!"negative field index ${number}") else return number.toNat

/-! ### What the language brings along -/

/-- A part of a text, from a place counted from one on. -/
def part (text : Bytes) (start : Int) (length : Option Int) : Bytes :=
  let length := length.map fun length => if start < 1 then length - start else length
  let rest := text.drop (start - 1).toNat
  match length with
  | some length => rest.take length.toNat
  | none => rest

/-- The place of a part in a text, counted from one, or zero. -/
def indexOf (part : Bytes) : Nat → Bytes → Nat
  | place, [] => if part.isEmpty then place else 0
  | place, byte :: rest => if part.isPrefixOf (byte :: rest) then place else indexOf part (place + 1) rest

/-- What is put in the place of a match. A sign stands for the match itself,
unless it is behind a backslash. -/
def replacement (found : Bytes) : Nat → Bytes → Bytes
  | _, [] => []
  | 0, text => text
  | fuel + 1, byte :: rest =>
    if byte == 0x26 then found ++ replacement found fuel rest
    else if byte == 0x5c then
      let slashes := (byte :: rest).takeWhile (· == 0x5c)
      match (byte :: rest).drop slashes.length with
      | 0x26 :: rest =>
        List.replicate (slashes.length / 2) 0x5c ++
          (if slashes.length % 2 == 1 then [0x26] else found) ++ replacement found fuel rest
      | rest => slashes ++ replacement found fuel rest
    else byte :: replacement found fuel rest

def replaced (text : Array Nat) (by_ : Bytes) : Nat → List Expression.Match → Bytes
  | start, [] => Letters.toBytes false (text.extract start text.size).toList
  | start, found :: more =>
    Letters.toBytes false (text.extract start found.first).toList ++
      replacement (Letters.toBytes false (text.extract found.first found.last).toList) by_.length by_ ++
      replaced text by_ found.last more

/-- The fault of a format that was given too little or what is none. -/
def formatFault {α : Type} (settings : Settings) (name : String) (format : Bytes) : Option Nat → Running α
  | none => settings.runFault (utf8 s!"not enough arguments passed to {name}(\"" ++ format ++ utf8 "\")")
  | some place => settings.runFault (utf8 s!"improper conversion(number {place}) in {name}(\"" ++ format ++ utf8 "\")")

/-- Put values into a format. -/
def formattedText (_ : Settings) (values : List Value) : Running (Formatted × Bytes) := do
  let format ← textOf (values.head?.getD .unset)
  let numbers ← quotedText "CONVFMT"
  return (formatted (format.length + numbers.length + 16) numbers format (values.drop 1) 1, format)

/-- The next of a row of numbers without a plan. -/
def nextSeed (seed : Nat) : Nat := (seed * 6364136223846793005 + 1442695040888963407) % 2 ^ 64

def momentOf (seconds : Int) : Moment := .ofNanoseconds (seconds * 10 ^ 9)

/-- The moment that is written as its year, its month and so on. -/
def timeOf (text : Bytes) : Int :=
  let number (word : Bytes) : Nat := Printing.digits 10 (word.takeWhile Printing.isDecimal)
  match (Separator.words [] text).map number with
  | year :: month :: day :: hour :: minute :: second :: _ =>
    Moment.daysOf year month day * 86400 + hour * 3600 + minute * 60 + second
  | _ => -1

/-- The present time in seconds. -/
def seconds (settings : Settings) : Running Nat :=
  settings.perform fun _ => .look fun machine => (machine.began + machine.clock) / 10 ^ 9

/-- What a function of plain values is worth. -/
def plain (settings : Settings) (builtin : Builtin) (values : List Value) : Running Value := do
  let first := values.head?.getD .unset
  let second := values[1]?.getD .unset
  match builtin with
  | .arcTangent => return .number (Float.atan2 first.toNumber second.toNumber)
  | .cosine => return .number (Float.cos first.toNumber)
  | .exponential => return .number (Float.exp first.toNumber)
  | .logarithm => return .number (Float.log first.toNumber)
  | .sine => return .number (Float.sin first.toNumber)
  | .squareRoot => return .number (Float.sqrt first.toNumber)
  | .integer =>
    let number := first.toNumber
    return .number (if number < 0 then number.ceil else number.floor)
  | .index => return .ofWhole (indexOf (← textOf second) 1 (← textOf first))
  | .lower => return .text ((← textOf first).map Printing.lower)
  | .upper => return .text ((← textOf first).map Printing.upper)
  | .substring =>
    let text ← textOf first
    return .text (part text second.toWhole (values[2]?.map Value.toWhole))
  | .format =>
    let (printed, format) ← settings.formattedText values
    match printed.fault with
    | some fault => settings.formatFault "sprintf" format fault
    | none => return .text printed.text
  | .random =>
    let seed := nextSeed (← get).seed
    modify fun state => { state with seed }
    return .number (Float.ofNat (seed / 2 ^ 11) / Float.ofNat (2 ^ 53))
  | .seed =>
    let former := (← get).seed
    let seed ← if values.isEmpty then settings.seconds else pure first.toWhole.natAbs
    modify fun state => { state with seed }
    return .ofWhole former
  | .close => return .ofWhole (← settings.closeNamed (← textOf first))
  | .flush =>
    settings.flushAll
    return .ofWhole 0
  | .system =>
    settings.flushAll
    let command ← textOf first
    return .ofWhole (codeOf (← settings.perform (·.runShell settings.launch command)))
  | .now => return .ofWhole (← settings.seconds)
  | .timeOf => return .ofWhole (timeOf (← textOf first))
  | .timeText =>
    let layout ← if values.isEmpty then pure (utf8 "%c") else textOf first
    let now ← settings.seconds
    return .text ((momentOf (values[1]?.elim (now : Int) Value.toWhole)).show_ layout)
  | _ => return .unset

/-- Whether a text matches. -/
def isMatch (expression : Expression) (text : Bytes) : Bool :=
  (expression.search? manner (Letters.ofBytes false text).toArray 0).isSome

/-- One turn of a loop, and whether there may be another one. -/
def turn (body : Running Unit) : Running Bool :=
  tryCatch (do
    body
    return true) fun
    | .break_ => return false
    | .continue_ => return true
    | leave => throw leave

/-- Write a text to where a statement says. -/
def putOut (settings : Settings) (direction : Option (Bytes × Bool × Bool)) (text : Bytes) : Running Unit :=
  match direction with
  | none => settings.perform (·.print text)
  | some (name, isCommand, appends) => settings.writeTo name isCommand appends text

/-- Take what was read by its name. -/
def takeRecord (settings : Settings) (spot : Option Spot) (text : Bytes) : Running Unit :=
  match spot with
  | some spot => settings.write spot (.input text)
  | none => setRecord (.input text)

mutual

def evaluate (settings : Settings) : Nat → Term → Running Value
  | 0, _ => return .unset
  | fuel + 1, term => do
    match term with
    | .number value => return .number value
    | .text bytes => return .text bytes
    | .pattern expression => return .ofBool (isMatch expression (← textOf (← wholeRecord)))
    | .read place => settings.read (← settings.locate fuel place)
    | .assign place operation value =>
      match operation with
      | none =>
        let value ← settings.evaluate fuel value
        settings.write (← settings.locate fuel place) value
        return value
      | some operation =>
        let second ← settings.evaluate fuel value
        let spot ← settings.locate fuel place
        let first ← settings.read spot
        let value : Value := .number (operation.apply first.toNumber second.toNumber)
        settings.write spot value
        return value
    | .increment place decrease before =>
      let spot ← settings.locate fuel place
      let former := (← settings.read spot).toNumber
      let number := if decrease then former - 1 else former + 1
      settings.write spot (.number number)
      return .number (if before then number else former)
    | .choice condition yes no =>
      if (← settings.evaluate fuel condition).isTrue then settings.evaluate fuel yes else settings.evaluate fuel no
    | .both first second =>
      if (← settings.evaluate fuel first).isTrue then return .ofBool (← settings.evaluate fuel second).isTrue
      else return .ofBool false
    | .either first second =>
      if (← settings.evaluate fuel first).isTrue then return .ofBool true
      else return .ofBool (← settings.evaluate fuel second).isTrue
    | .contains array subscripts =>
      let key ← keyOf (← settings.evaluateAll fuel subscripts)
      let index ← settings.arrayIndex array
      let (table, value) := (← table index).reach key false
      setTable index table
      return .ofBool value.isSome
    | .matching negated text pattern =>
      let text ← textOf (← settings.evaluate fuel text)
      let expression ← settings.wanted fuel pattern
      return .ofBool (isMatch expression text != negated)
    | .compare relation first second =>
      let first ← settings.evaluate fuel first
      let second ← settings.evaluate fuel second
      return .ofBool (relation.holds (first.order (← quotedText "CONVFMT") second))
    | .join first second =>
      let first ← textOf (← settings.evaluate fuel first)
      return .text (first ++ (← textOf (← settings.evaluate fuel second)))
    | .compute operation first second =>
      let first ← settings.evaluate fuel first
      let second ← settings.evaluate fuel second
      return .number (operation.apply first.toNumber second.toNumber)
    | .not value => return .ofBool !(← settings.evaluate fuel value).isTrue
    | .negate value => return .number (-(← settings.evaluate fuel value).toNumber)
    | .affirm value => return .number (← settings.evaluate fuel value).toNumber
    | .call name arguments =>
      match settings.program.functions.find? (·.name == name) with
      | some function => settings.call fuel function arguments
      | none => return .unset
    | .builtin builtin arguments => settings.builtin fuel builtin arguments
    | .nextRecord place =>
      match ← settings.nextOfAll Program.endless with
      | none => return .ofWhole 0
      | some text =>
        countUp "NR"
        countUp "FNR"
        settings.takeRecord (← settings.locate? fuel place) text
        return .ofWhole 1
    | .lineOfFile place file =>
      let name ← textOf (← settings.evaluate fuel file)
      let (text, code) ← settings.lineOf name false
      match text with
      | some text => settings.takeRecord (← settings.locate? fuel place) text
      | none => pure ()
      return .ofWhole code
    | .lineOfCommand place command =>
      let name ← textOf (← settings.evaluate fuel command)
      let (text, code) ← settings.lineOf name true
      match text with
      | some text => settings.takeRecord (← settings.locate? fuel place) text
      | none => pure ()
      return .ofWhole code

def evaluateAll (settings : Settings) : Nat → List Term → Running (List Value)
  | 0, _ => return []
  | _, [] => return []
  | fuel + 1, term :: terms => do
    let value ← settings.evaluate fuel term
    return value :: (← settings.evaluateAll fuel terms)

def locate (settings : Settings) : Nat → Place → Running Spot
  | 0, _ => return .field 0
  | fuel + 1, place => do
    match place with
    | .variable_ name => return .named name
    | .element array subscripts =>
      let key ← keyOf (← settings.evaluateAll fuel subscripts)
      return .element (← settings.arrayIndex array) key
    | .field number => return .field (← settings.fieldNumber (← settings.evaluate fuel number))

def locate? (settings : Settings) : Nat → Option Place → Running (Option Spot)
  | 0, _ => return none
  | _, none => return none
  | fuel + 1, some place => return some (← settings.locate fuel place)

/-- The expression that a term stands for. -/
def wanted (settings : Settings) : Nat → Term → Running Expression
  | 0, _ => return .empty
  | fuel + 1, term => do
    match term with
    | .pattern expression => return expression
    | term => settings.expressionOf (← textOf (← settings.evaluate fuel term))

def builtin (settings : Settings) : Nat → Builtin → List Term → Running Value
  | 0, _, _ => return .unset
  | fuel + 1, builtin, arguments => do
    match builtin, arguments with
    | .length, [.read (.variable_ name)] =>
      let isArray ← match name with
        | .ofProgram name => pure (settings.program.arrays.elem name)
        | .ofFunction index => do
          match (← get).frame[index]? with
          | some (.array _) => pure true
          | _ => pure false
      if isArray then return .ofWhole (← table (← settings.arrayIndex name)).size
      else return .ofWhole (← textOf (← settings.valueOfName name)).length
    | .length, term :: _ => return .ofWhole (← textOf (← settings.evaluate fuel term)).length
    | .split, text :: .read (.variable_ name) :: separators =>
      let text ← textOf (← settings.evaluate fuel text)
      let separator ← match separators with
        | [] => settings.separatorOf (← quotedText "FS")
        | .pattern expression :: _ => pure (.pattern expression)
        | term :: _ => settings.separatorOf (← textOf (← settings.evaluate fuel term))
      let parts := separator.parts text
      setTable (← settings.arrayIndex name) (.ofParts (parts.map .input))
      return .ofWhole parts.length
    | .match_, [text, pattern] =>
      let text ← textOf (← settings.evaluate fuel text)
      let expression ← settings.wanted fuel pattern
      let (start, length) : Int × Int :=
        match expression.search? manner (Letters.ofBytes false text).toArray 0 with
        | some found => (found.first + 1, found.last - found.first)
        | none => (0, -1)
      put "RSTART" (.ofWhole start)
      put "RLENGTH" (.ofWhole length)
      return .ofWhole start
    | .substitute, pattern :: by_ :: .read place :: _ => settings.substitution fuel false pattern by_ place
    | .substituteAll, pattern :: by_ :: .read place :: _ => settings.substitution fuel true pattern by_ place
    | builtin, arguments => settings.plain builtin (← settings.evaluateAll fuel arguments)

def substitution (settings : Settings) : Nat → Bool → Term → Term → Place → Running Value
  | 0, _, _, _, _ => return .unset
  | fuel + 1, all, pattern, by_, place => do
    let expression ← settings.wanted fuel pattern
    let by_ ← textOf (← settings.evaluate fuel by_)
    let spot ← settings.locate fuel place
    let text := (Letters.ofBytes false (← textOf (← settings.read spot))).toArray
    let found := expression.allMatches manner text (if all then text.size + 2 else 1) 0 none
    if !found.isEmpty then settings.write spot (.text (replaced text by_ 0 found))
    return .ofWhole found.length

/-- Call a function. Its own names stand for what it is given. -/
def call (settings : Settings) : Nat → Function → List Term → Running Value
  | 0, _, _ => return .unset
  | fuel + 1, function, arguments => do
    settings.spend
    let slots ← settings.slots fuel function 0 arguments
    let unset := List.replicate (function.parameters.length - slots.length) (Slot.value .unset)
    let state ← get
    set { state with frame := (slots ++ unset).toArray }
    let value ← tryCatch (do
      settings.executeAll fuel function.body
      return .unset) fun
      | .return_ value => return value
      | leave => throw leave
    modify fun after => { after with frame := state.frame, tables := after.tables.extract 0 state.tables.size }
    return value

def slots (settings : Settings) : Nat → Function → Nat → List Term → Running (List Slot)
  | 0, _, _, _ => return []
  | _, _, _, [] => return []
  | fuel + 1, function, index, argument :: arguments => do
    let slot ← match function.arrays.contains index, argument with
      | true, .read (.variable_ name) => pure (Slot.array (← settings.arrayIndex name))
      | _, argument => pure (Slot.value (← settings.evaluate fuel argument))
    return slot :: (← settings.slots fuel function (index + 1) arguments)

def executeAll (settings : Settings) : Nat → List Statement → Running Unit
  | 0, _ => return ()
  | _, [] => return ()
  | fuel + 1, statement :: statements => do
    settings.execute fuel statement
    settings.executeAll fuel statements

def execute (settings : Settings) : Nat → Statement → Running Unit
  | 0, _ => return ()
  | fuel + 1, statement => do
    match statement with
    | .evaluate term =>
      let _ ← settings.evaluate fuel term
    | .print terms target =>
      let texts ← match terms with
        | [] => pure [← printedText (← wholeRecord)]
        | terms => (← settings.evaluateAll fuel terms).mapM printedText
      let text := Bytes.joinWith (← quotedText "OFS") texts ++ (← quotedText "ORS")
      settings.putOut (← settings.direction fuel target) text
    | .format terms target =>
      let (printed, format) ← settings.formattedText (← settings.evaluateAll fuel terms)
      settings.putOut (← settings.direction fuel target) printed.text
      match printed.fault with
      | some fault => settings.formatFault "printf" format fault
      | none => return ()
    | .block statements => settings.executeAll fuel statements
    | .if_ condition yes no =>
      if (← settings.evaluate fuel condition).isTrue then settings.execute fuel yes
      else match no with
        | some no => settings.execute fuel no
        | none => return ()
    | .while_ condition body => settings.loop fuel (some condition) none body true
    | .doWhile body condition => settings.loop fuel (some condition) none body false
    | .for_ start condition step body =>
      match start with
      | some start => settings.execute fuel start
      | none => pure ()
      settings.loop fuel condition step body true
    | .forEach place array body =>
      let index ← settings.arrayIndex array
      let (keys, table) := (← table index).keys
      setTable index table
      settings.eachKey fuel place body keys
    | .break_ => throw .break_
    | .continue_ => throw .continue_
    | .next => throw .next
    | .nextFile => throw .nextFile
    | .exit none => throw .exit
    | .exit (some code) =>
      let value ← settings.evaluate fuel code
      modify fun state => { state with code := (value.toWhole % 256).toNat }
      throw .exit
    | .return_ none => throw (.return_ .unset)
    | .return_ (some value) => throw (.return_ (← settings.evaluate fuel value))
    | .delete array none => setTable (← settings.arrayIndex array) .empty
    | .delete array (some subscripts) =>
      let key ← keyOf (← settings.evaluateAll fuel subscripts)
      let index ← settings.arrayIndex array
      let table ← table index
      setTable index (table.remove key)

/-- Where a statement prints to: the name, whether it is a command, and whether
a file is gone on with. -/
def direction (settings : Settings) : Nat → Option Target → Running (Option (Bytes × Bool × Bool))
  | 0, _ => return none
  | _, none => return none
  | fuel + 1, some target => do
    match target with
    | .overwrite file => return some (← textOf (← settings.evaluate fuel file), false, false)
    | .append file => return some (← textOf (← settings.evaluate fuel file), false, true)
    | .command command => return some (← textOf (← settings.evaluate fuel command), true, false)

/-- Carry out a statement while a condition holds. -/
def loop (settings : Settings) : Nat → Option Term → Option Statement → Statement → Bool → Running Unit
  | 0, _, _, _, _ => return ()
  | fuel + 1, condition, step, body, asksFirst => do
    settings.spend
    let goesOn ← match condition, asksFirst with
      | some condition, true => do pure (← settings.evaluate fuel condition).isTrue
      | _, _ => pure true
    if !goesOn then return ()
    if !(← turn (settings.execute fuel body)) then return ()
    match step with
    | some step => settings.execute fuel step
    | none => pure ()
    settings.loop fuel condition step body true

def eachKey (settings : Settings) : Nat → Place → Statement → List Bytes → Running Unit
  | 0, _, _, _ => return ()
  | _, _, _, [] => return ()
  | fuel + 1, place, body, key :: keys => do
    settings.spend
    settings.write (← settings.locate fuel place) (.text key)
    if ← turn (settings.execute fuel body) then settings.eachKey fuel place body keys

end

/-- Carry out a rule for the present record. -/
def action (settings : Settings) (rule : Rule) : Running Unit :=
  settings.executeAll Program.endless (rule.action.getD [.print [] none])

def holds (settings : Settings) (term : Term) : Running Bool :=
  return (← settings.evaluate Program.endless term).isTrue

/-- Whether a rule is for the present record. -/
def selects (settings : Settings) (index : Nat) (selection : Selection) : Running Bool := do
  match selection with
  | .begin_ | .end_ => return false
  | .all => return true
  | .matching term => settings.holds term
  | .range first last =>
    let hasBegun := (← get).ranges.contains index
    if !hasBegun then
      if !(← settings.holds first) then return false
    let isLast ← settings.holds last
    modify fun state =>
      let others := state.ranges.filter (· != index)
      { state with ranges := if isLast then others else index :: others }
    return true

/-- Carry out all rules for the present record. -/
def eachRule (settings : Settings) : Nat → List Rule → Running Unit
  | _, [] => return ()
  | index, rule :: rules => do
    if ← settings.selects index rule.selection then settings.action rule
    settings.eachRule (index + 1) rules

/-- Go through all records. -/
def eachRecord (settings : Settings) : Nat → Running Unit
  | 0 => return ()
  | fuel + 1 => do
    settings.spend
    match ← settings.nextOfAll Program.endless with
    | none => return ()
    | some text =>
      setRecord (.input text)
      countUp "NR"
      countUp "FNR"
      tryCatch (settings.eachRule 0 settings.program.rules) fun
        | .next => return ()
        | .nextFile => settings.closeInput
        | leave => throw leave
      settings.eachRecord fuel

/-- Carry out the rules for the beginning, or those for the end. -/
def edgeRules (settings : Settings) (isWanted : Selection → Bool) : Running Unit :=
  for rule in settings.program.rules do
    if isWanted rule.selection then settings.action rule

def isBegin : Selection → Bool
  | .begin_ => true
  | _ => false

def isEnd : Selection → Bool
  | .end_ => true
  | _ => false

/-- Carry out a program. The rules for the end come even when it was left before. -/
def carryOut (settings : Settings) : Running Unit := do
  let rules := settings.program.rules
  tryCatch (do
      settings.edgeRules isBegin
      if rules.any (!isBegin ·.selection) then settings.eachRecord Program.endless) fun
    | .exit => return ()
    | leave => throw leave
  modify fun state => { state with frame := #[] }
  tryCatch (settings.edgeRules isEnd) fun
    | .exit => return ()
    | leave => throw leave

/-- What the variables are at first. -/
def firstVariables : List (String × Value) :=
  [("NR", .number 0), ("FNR", .number 0), ("FS", .text [0x20]), ("OFS", .text [0x20]), ("ORS", .text [0x0a]),
    ("RS", .text [0x0a]), ("SUBSEP", .text [0x1c]), ("CONVFMT", .text (utf8 "%.6g")), ("OFMT", .text (utf8 "%.6g")),
    ("RSTART", .number 0), ("RLENGTH", .number (-1)), ("FILENAME", .text [])]

/-- Carry out a program with some variables set on some arguments, and tell the
exit code. -/
def run (settings : Settings) (assignments : List (Bytes × Bytes)) (arguments : List Bytes) : Deed Nat := do
  let arguments := settings.process.shortName :: arguments
  let environment := settings.process.env.foldl (fun (table : Table) (name, value) =>
    table.set (.text name) (.input value)) .empty
  let listed := (arguments.foldl (fun (table, index) argument =>
    (Table.set table (.whole index) (.input argument), index + 1)) (Table.empty, (0 : Int))).1
  let tables := settings.program.arrays.map fun name =>
    if name == utf8 "ENVIRON" then environment else if name == utf8 "ARGV" then listed else .empty
  let bindings : Std.HashMap Bytes Value := .ofList
    ((firstVariables.map fun (name, value) => (utf8 name, value)) ++ [(utf8 "ARGC", .ofWhole arguments.length)])
  let work : Running Unit := do
    for (name, value) in assignments do
      settings.setVariable name (.input value)
    settings.carryOut
  let seed ← .look fun machine => (machine.began + machine.clock) / 10 ^ 9
  let (result, state) ← (ExceptT.run work).run {
    bindings
    tables := tables.toArray
    frame := #[]
    record := ⟨.input [], #[], false, false⟩
    ranges := []
    feed := none
    nextArgument := 1
    hadInput := false
    outputs := [⟨utf8 "/dev/stdout", false, .own, [], 0⟩, ⟨utf8 "/dev/stderr", false, .errors, [], 0⟩]
    sources := []
    steps := 0
    code := 0
    seed }
  let _ ← (ExceptT.run settings.closeAll).run state
  return match result with
    | .ok () | .error .exit => state.code
    | .error _ => 2

end Settings
end ExitParity.Awk
