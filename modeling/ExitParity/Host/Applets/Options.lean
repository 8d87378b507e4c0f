import ExitParity.Host.Program
import ExitParity.Host.Quoting

namespace ExitParity

/-- Whether an option takes a value. -/
inductive Arity where
  | flag
  | valued
  | perhapsValued
  deriving DecidableEq

/-- The options that a program knows. -/
structure OptionGrammar where
  /-- The letters; one that takes a value has a colon behind it, and one that
  may have it two. -/
  letters : String
  /-- The long names, each with whether it takes a value and the key it is
  noted under. -/
  long : List (String × Arity × String)
  /-- Whether options are also met behind operands. -/
  permuted : Bool

/-- What is wrong with an option. -/
inductive OptionFault where
  | unknownLetter (letter : UInt8)
  | unknownName (text : Bytes)
  | ambiguous (text : Bytes) (names : List String)
  | letterLacksValue (letter : UInt8)
  | nameLacksValue (name : String)
  | nameHasValue (name : String)

def OptionFault.message : OptionFault → Bytes
  | .unknownLetter letter => utf8 "invalid option -- '" ++ letter :: utf8 "'"
  | .unknownName text => utf8 "unrecognized option '--" ++ text ++ utf8 "'"
  | .ambiguous text names =>
    utf8 "option '--" ++ text ++ utf8 "' is ambiguous; possibilities:" ++
      names.flatMap fun name => utf8 s!" '--{name}'"
  | .letterLacksValue letter => utf8 "option requires an argument -- '" ++ letter :: utf8 "'"
  | .nameLacksValue name => utf8 s!"option '--{name}' requires an argument"
  | .nameHasValue name => utf8 s!"option '--{name}' doesn't allow an argument"

/-- The options of a program in order, by their keys with their values, and its
other arguments. Nothing is read behind a fault. -/
structure Options where
  given : List (String × Bytes)
  operands : List Bytes
  fault : Option OptionFault

namespace OptionGrammar

def ofLetters (letters : String) : OptionGrammar := ⟨letters, [], true⟩

/-- Whether a letter takes a value, if it is known. -/
def arity? (grammar : OptionGrammar) (letter : UInt8) : Option Arity :=
  let rec find : List Char → Option Arity
    | [] => none
    | char :: rest =>
      if char.toNat == letter.toNat && char != ':' then
        some (match rest with
          | ':' :: ':' :: _ => .perhapsValued
          | ':' :: _ => .valued
          | _ => .flag)
      else find rest
  find grammar.letters.toList

def key (letter : UInt8) : String := String.singleton (Char.ofNat letter.toNat)

/-- Read the letters behind a dash: the options, whether the last one still
lacks its value, and what is wrong. -/
def readLetters (grammar : OptionGrammar) : Bytes → List (String × Bytes) × Option UInt8 × Option OptionFault
  | [] => ([], none, none)
  | letter :: rest =>
    match grammar.arity? letter with
    | none => ([], none, some (.unknownLetter letter))
    | some .flag =>
      let (more, lacking, fault) := grammar.readLetters rest
      ((key letter, []) :: more, lacking, fault)
    | some .perhapsValued => ([(key letter, rest)], none, none)
    | some .valued => if rest.isEmpty then ([], some letter, none) else ([(key letter, rest)], none, none)

/-- The names that every program knows. -/
def common : List (String × Arity × String) := [("help", .flag, "help"), ("version", .flag, "version")]

/-- The long option that a name stands for. It can be cut short. -/
def long? (grammar : OptionGrammar) (name : Bytes) : Except OptionFault (String × Arity × String) :=
  let known := grammar.long ++ common
  match known.find? (utf8 ·.1 == name) with
  | some option => .ok option
  | none =>
    let candidates := known.filter fun option => name.isPrefixOf (utf8 option.1)
    match candidates with
    | [] => .error (.unknownName name)
    | option :: others =>
      if others.all (·.2 == option.2) then .ok option
      else .error (.ambiguous name (candidates.map (·.1)))

/-- Read arguments. -/
def read (grammar : OptionGrammar) : List Bytes → Options
  | [] => ⟨[], [], none⟩
  | arg :: rest =>
    match arg with
    | 0x2d :: 0x2d :: text =>
      if text.isEmpty then ⟨[], rest, none⟩
      else
        let name := text.takeWhile (· != 0x3d)
        let value? := if name.length < text.length then some (text.drop (name.length + 1)) else none
        match grammar.long? name with
        | .error (.unknownName _) => ⟨[], [], some (.unknownName text)⟩
        | .error fault => ⟨[], [], some fault⟩
        | .ok (full, arity, key) =>
          match arity, value?, rest with
          | .flag, some _, _ => ⟨[], [], some (.nameHasValue full)⟩
          | .valued, none, [] => ⟨[], [], some (.nameLacksValue full)⟩
          | .valued, none, value :: rest =>
            let more := grammar.read rest
            { more with given := (key, value) :: more.given }
          | _, value?, rest =>
            let more := grammar.read rest
            { more with given := (key, value?.getD []) :: more.given }
    | 0x2d :: letter :: letters =>
      let (given, lacking, fault) := grammar.readLetters (letter :: letters)
      match fault, lacking, rest with
      | some fault, _, _ => ⟨given, [], some fault⟩
      | none, some letter, [] => ⟨given, [], some (.letterLacksValue letter)⟩
      | none, some letter, value :: rest =>
        let more := grammar.read rest
        { more with given := given ++ (key letter, value) :: more.given }
      | none, none, rest =>
        let more := grammar.read rest
        { more with given := given ++ more.given }
    | _ =>
      if grammar.permuted then
        let more := grammar.read rest
        { more with operands := arg :: more.operands }
      else ⟨[], arg :: rest, none⟩

end OptionGrammar

namespace Options

def has (options : Options) (key : String) : Bool := options.given.any (·.1 == key)

def any (options : Options) (keys : List String) : Bool := keys.any options.has

/-- The value that was given last for a key. -/
def value? (options : Options) (key : String) : Option Bytes :=
  (options.given.reverse.find? (·.1 == key)).map (·.2)

def values (options : Options) (key : String) : List Bytes :=
  (options.given.filter (·.1 == key)).map (·.2)

/-- The last given of some keys. -/
def last? (options : Options) (keys : List String) : Option String :=
  (options.given.reverse.find? fun option => keys.contains option.1).map (·.1)

end Options

namespace Program

/-- Complain about a thing and the fault it met with. -/
def complainOf (program : Program) (what : Bytes) (errno : Errno) : Deed Unit :=
  program.complain (what ++ utf8 (": " ++ errno.text))

/-- Complain that the program was called wrongly. -/
def refuse (program : Program) (text : Bytes) : Deed Unit := do
  program.complain text
  let _ ← program.write 2 (utf8 "Try '" ++ program.name ++ utf8 " --help' for more information.\n")

/-- What the programs say about themselves that do not speak like the others. -/
def ownVersions : List (String × String) :=
  let scanner := "mawk 1.3.4 20240123\n\nrandom-funcs:       arc4random_stir/arc4random\n" ++
    "regex-funcs:        internal\n\ncompiled limits:\nsprintf buffer      8192\n" ++
    "maximum-integer     9223372036854775808\n"
  [("awk", scanner), ("bash", "bash, version 5.2.21(1)-release (x86_64-pc-linux-gnu)\nversion 3 or later\n"),
    ("hostname", "hostname 3.23\n"), ("kill", "kill from procps-ng 4.0.4\n"), ("mawk", scanner),
    ("rev", "rev from util-linux 2.39.3\n"), ("setsid", "setsid from util-linux 2.39.3\n")]

/-- What a program prints about itself. -/
def versionText (program : Program) : Bytes :=
  match ownVersions.find? fun (name, _) => utf8 name == program.shortName with
  | some (_, text) => utf8 text
  | none => program.shortName ++ utf8 " (a program of the system, version 3 or later)\n"

def usageText (program : Program) : Bytes := utf8 "Usage: " ++ program.name ++ utf8 " [OPTION]... [FILE]...\n"

/-- Read the options of a program and go on with them. A wrong one ends it with
a code, and a question about itself ends it well. -/
def withOptions (program : Program) (grammar : OptionGrammar) (failureCode : Nat) (body : Options → Deed Nat) : Deed Nat := do
  let options := grammar.read program.args
  if options.has "version" then
    program.print program.versionText
    return 0
  if options.has "help" then
    program.print program.usageText
    return 0
  match options.fault with
  | some fault =>
    program.refuse fault.message
    return failureCode
  | none => body options

/-- Answer a question of the only argument about the program itself. -/
def answering (program : Program) (body : Deed Nat) : Deed Nat := do
  if program.args == [utf8 "--version"] then
    program.print program.versionText
    return 0
  else if program.args == [utf8 "--help"] then
    program.print program.usageText
    return 0
  else body

/-- Do something for every operand; the exit code says whether all went well. -/
def forEach (step : Bytes → Deed Bool) : List Bytes → Deed Nat
  | [] => return 0
  | target :: rest => do
    let sound ← step target
    let code ← forEach step rest
    return if sound then code else 1

end Program
end ExitParity
