import ExitParity.Choice
import ExitParity.Env
import ExitParity.Family
import ExitParity.Plan
import ExitParity.Toolchain

namespace ExitParity

/-- What an option of the command line is about. -/
inductive Switch where
  | verbose
  | help
  | family
  | candidate
  | candidateArg
  | timeout
  | jobs
  | showOutput
  | reportJson
  | protocol
  | cacheDir
  | generateCommand
  | generateArg
  deriving DecidableEq

namespace Switch

def long : Switch → String
  | .verbose => "verbose"
  | .help => "help"
  | .family => "family"
  | .candidate => "candidate"
  | .candidateArg => "candidate-arg"
  | .timeout => "timeout"
  | .jobs => "jobs"
  | .showOutput => "show-output"
  | .reportJson => "report-json"
  | .protocol => "protocol"
  | .cacheDir => "cache-dir"
  | .generateCommand => "generate-cmd"
  | .generateArg => "generate-arg"

def short? : Switch → Option Char
  | .verbose => some 'v'
  | .help => some 'h'
  | .jobs => some 'j'
  | _ => none

/-- The variable that stands in for an option that is not given. -/
def variable_ : Switch → Option String
  | .candidate => some "IRDIFF_CANDIDATE"
  | .cacheDir => some "IRDIFF_CACHE_DIR"
  | .generateCommand => some "IRDIFF_GENERATE_CMD"
  | _ => none

def takesValue : Switch → Bool
  | .verbose | .help | .showOutput => false
  | _ => true

/-- An argument handed on to a program may look like an option itself, and
there may be several of them. -/
def isPassedOn : Switch → Bool
  | .candidateArg | .generateArg => true
  | _ => false

end Switch

/-- The largest number that an option takes. -/
def numberLimit : Nat := 2 ^ 64 - 1

/-- A number in decimal digits, with or without a plus sign. -/
def number? (text : Bytes) : Option Nat :=
  let digits := if text.head? == some 0x2b then text.drop 1 else text
  if digits.isEmpty || !digits.all (fun byte => 0x30 ≤ byte && byte ≤ 0x39) then none
  else
    let value := digits.foldl (fun value byte => value * 10 + (byte.toNat - 0x30)) 0
    if value ≤ numberLimit then some value else none

def family? (text : Bytes) : Option Family :=
  (Utf8.text? text).bind (Choice.spelled? Family.all Family.tag false)

def protocol? (text : Bytes) : Option Protocol :=
  (Utf8.text? text).bind (Choice.spelled? Protocol.all Protocol.name false)

/-- Whether an option takes a value. A path is not empty, and what is not a
path is text. -/
def Switch.accepts (switch : Switch) (value : Bytes) : Bool :=
  match switch with
  | .verbose | .help | .showOutput => true
  | .family => (family? value).isSome
  | .protocol => (protocol? value).isSome
  | .timeout | .jobs => (number? value).isSome
  | .candidateArg | .generateArg => Utf8.valid value
  | .candidate | .reportJson | .cacheDir | .generateCommand => !value.isEmpty

/-- Why a command line asks for nothing to be run. -/
inductive Refusal where
  | usage
  | help
  deriving DecidableEq

/-- The options and operands that one command takes. -/
structure Grammar where
  switches : List Switch
  operands : Option Nat
  acceptsOperand : Bytes → Bool

/-- What has been read of a command line. An option may be waiting for its
value, and behind a double dash there are only operands. -/
structure Reading where
  given : List (Switch × Bytes)
  operands : List Bytes
  waiting : Option Switch
  literal : Bool

namespace Reading

def start : Reading := ⟨[], [], none, false⟩

/-- Take an option with its value. Only what is passed on may be repeated. -/
def give (reading : Reading) (switch : Switch) (value : Bytes) : Except Refusal Reading :=
  if switch = .help then .error .help
  else if !switch.isPassedOn && reading.given.any (·.1 == switch) then .error .usage
  else if !switch.accepts value then .error .usage
  else .ok { reading with given := reading.given ++ [(switch, value)], waiting := none }

/-- Take an operand, if there is room for one. -/
def takeOperand (grammar : Grammar) (reading : Reading) (value : Bytes) : Except Refusal Reading :=
  if grammar.operands.any (· ≤ reading.operands.length) then .error .usage
  else if !grammar.acceptsOperand value then .error .usage
  else .ok { reading with operands := reading.operands ++ [value] }

def doubleDash : Bytes := utf8 "--"

def dash : UInt8 := 0x2d

def equals : UInt8 := 0x3d

/-- Whether an argument has the form of an option. -/
def looksLikeSwitch (arg : Bytes) : Bool := arg.head? == some dash && arg.length > 1

/-- Take an option by its long name, from behind the dashes. -/
def takeLong (grammar : Grammar) (reading : Reading) (arg : Bytes) : Except Refusal Reading :=
  let name := arg.takeWhile (· != equals)
  let attached := if name.length < arg.length then some (arg.drop (name.length + 1)) else none
  match grammar.switches.find? fun switch => utf8 switch.long == name with
  | none => .error .usage
  | some switch =>
    if switch.takesValue then
      match attached with
      | some value => reading.give switch value
      | none => .ok { reading with waiting := some switch }
    else if attached.isSome then .error .usage
    else reading.give switch []

/-- Take options by their letters, from behind the dash. The rest behind a
letter that takes a value is that value. -/
def takeShort (grammar : Grammar) (reading : Reading) : Bytes → Except Refusal Reading
  | [] => .ok reading
  | letter :: rest =>
    match grammar.switches.find? fun switch => switch.short?.any fun c => c.toNat == letter.toNat with
    | none => .error .usage
    | some switch =>
      if switch.takesValue then
        if rest.isEmpty then .ok { reading with waiting := some switch }
        else reading.give switch (if rest.head? == some equals then rest.drop 1 else rest)
      else
        match reading.give switch [] with
        | .error refusal => .error refusal
        | .ok reading => takeShort grammar reading rest

/-- Read one argument. -/
def take (grammar : Grammar) (reading : Reading) (arg : Bytes) : Except Refusal Reading :=
  if reading.literal then reading.takeOperand grammar arg
  else match reading.waiting with
    | some switch =>
      if looksLikeSwitch arg && !switch.isPassedOn then .error .usage else reading.give switch arg
    | none =>
      if arg == doubleDash then .ok { reading with literal := true }
      else if doubleDash.isPrefixOf arg then reading.takeLong grammar (arg.drop 2)
      else if looksLikeSwitch arg then reading.takeShort grammar (arg.drop 1)
      else reading.takeOperand grammar arg

/-- Read arguments to their end. -/
def takeAll (grammar : Grammar) : Reading → List Bytes → Except Refusal Reading
  | reading, [] => if reading.waiting.isSome then .error .usage else .ok reading
  | reading, arg :: rest =>
    match reading.take grammar arg with
    | .error refusal => .error refusal
    | .ok reading => takeAll grammar reading rest

def has (reading : Reading) (switch : Switch) : Bool := reading.given.any (·.1 == switch)

/-- The values of an option in their order. -/
def values (reading : Reading) (switch : Switch) : List Bytes :=
  (reading.given.filter (·.1 == switch)).map (·.2)

/-- The value of an option, or else of its variable. -/
def value? (reading : Reading) (env : Env) (switch : Switch) : Except Refusal (Option Bytes) :=
  match reading.values switch with
  | value :: _ => .ok (some value)
  | [] =>
    match switch.variable_.bind fun name => env.get? (utf8 name) with
    | none => .ok none
    | some value => if switch.accepts value then .ok (some value) else .error .usage

def required (reading : Reading) (env : Env) (switch : Switch) : Except Refusal Bytes :=
  match reading.value? env switch with
  | .ok (some value) => .ok value
  | _ => .error .usage

end Reading

/-- What every comparing command is told about its tools. -/
structure ToolOptions where
  family : Family
  candidate : Path
  candidateArgs : List Bytes
  /-- The limit for one program in seconds, where zero is none. -/
  timeout : Nat
  jobs : Nat
  showOutput : Bool
  reportJson : Option Path

structure RunOptions where
  suites : List String
  protocol : Protocol
  cacheDir : Path
  generateCommand : Option Path
  generateArgs : List Bytes
  tools : ToolOptions

structure DirOptions where
  dir : Path
  protocol : Protocol
  tools : ToolOptions

/-- What the program is asked to do. -/
inductive Request where
  | run (options : RunOptions)
  | dir (options : DirOptions)
  | list

namespace Request

def toolSwitches : List Switch :=
  [.verbose, .help, .family, .candidate, .candidateArg, .timeout, .jobs, .showOutput, .reportJson, .protocol]

def runGrammar : Grammar :=
  ⟨toolSwitches ++ [.cacheDir, .generateCommand, .generateArg], none, Utf8.valid⟩

def dirGrammar : Grammar := ⟨toolSwitches, some 1, fun value => !value.isEmpty⟩

/-- The grammar of the list command, and of what stands before any command. -/
def bareGrammar : Grammar := ⟨[.verbose, .help], some 0, fun _ => false⟩

def protocolOf (reading : Reading) : Protocol :=
  ((reading.values .protocol).head?.bind protocol?).getD .reassembly

def toolOptions (reading : Reading) (env : Env) : Except Refusal ToolOptions :=
  match reading.required env .candidate with
  | .error refusal => .error refusal
  | .ok candidate => .ok {
      family := ((reading.values .family).head?.bind family?).getD .llvm38
      candidate := ⟨candidate⟩
      candidateArgs := reading.values .candidateArg
      timeout := ((reading.values .timeout).head?.bind number?).getD Toolchain.defaultTimeout
      jobs := ((reading.values .jobs).head?.bind number?).getD 1
      showOutput := reading.has .showOutput
      reportJson := (reading.values .reportJson).head?.map (⟨·⟩) }

def ofRun (args : List Bytes) (env : Env) : Except Refusal Request := do
  let reading ← Reading.start.takeAll runGrammar args
  let tools ← toolOptions reading env
  let cacheDir ← reading.required env .cacheDir
  let generateCommand ← reading.value? env .generateCommand
  return .run {
    suites := reading.operands.map Utf8.display
    protocol := protocolOf reading
    cacheDir := ⟨cacheDir⟩
    generateCommand := generateCommand.map (⟨·⟩)
    generateArgs := reading.values .generateArg
    tools := tools }

def ofDir (args : List Bytes) (env : Env) : Except Refusal Request := do
  let reading ← Reading.start.takeAll dirGrammar args
  match reading.operands with
  | [operand] =>
    let tools ← toolOptions reading env
    return .dir { dir := ⟨operand⟩, protocol := protocolOf reading, tools := tools }
  | _ => .error .usage

def ofList (args : List Bytes) : Except Refusal Request := do
  let _ ← Reading.start.takeAll bareGrammar args
  return .list

/-- The names of the commands that help can be asked for. -/
def topics : List Bytes := [utf8 "run", utf8 "dir", utf8 "list", utf8 "help"]

/-- Read a command line behind some options of its own. -/
def read (env : Env) : Reading → List Bytes → Except Refusal Request
  | _, [] => .error .usage
  | reading, arg :: rest =>
    if !reading.literal && arg == utf8 "run" then ofRun rest env
    else if !reading.literal && arg == utf8 "dir" then ofDir rest env
    else if !reading.literal && arg == utf8 "list" then ofList rest
    else if !reading.literal && arg == utf8 "help" then
      .error (if rest.all topics.contains then .help else .usage)
    else match reading.take bareGrammar arg with
      | .error refusal => .error refusal
      | .ok reading => read env reading rest

/-- Read a command line. -/
def ofArgs (args : List Bytes) (env : Env) : Except Refusal Request := read env .start args

end Request
end ExitParity
