import ExitParity.Host.Awk.Reader
import ExitParity.Host.Awk.Run

/-! The program that carries out patterns and actions on the records of its
inputs. -/

namespace ExitParity

/-- What a scanning program is asked to do: the files its text is in, the
variables set first, and its other arguments. -/
structure ScanOptions where
  files : List Bytes
  assignments : List (Bytes × Bytes)
  operands : List Bytes
  remarks : List Bytes
  showsVersion : Bool
  showsUsage : Bool

namespace ScanOptions

def empty : ScanOptions := ⟨[], [], [], [], false, false⟩

/-- Read the words that only some programs of this kind know. -/
def extension (options : ScanOptions) (word : Bytes) : ScanOptions :=
  let isShort (full : String) : Bool := !word.isEmpty && word.isPrefixOf (utf8 full)
  if isShort "version" then { options with showsVersion := true }
  else if isShort "help" || isShort "usage" then { options with showsUsage := true }
  else if isShort "interactive" || isShort "posix" || isShort "compat" || (utf8 "random").isPrefixOf word ||
      (utf8 "sprintf").isPrefixOf word then options
  else { options with remarks := options.remarks ++ [utf8 "vacuous option: -W \"" ++ word ++ utf8 "\""] }

/-- Read one option with its value. -/
def valued (options : ScanOptions) (letter : UInt8) (value : Bytes) : Except Bytes ScanOptions := do
  if letter == 0x66 then return { options with files := options.files ++ [value] }
  if letter == 0x57 then return options.extension value
  if letter == 0x46 then
    let separator := Awk.Scan.unescaped value.length value
    return { options with assignments := options.assignments ++ [(utf8 "FS", separator)] }
  match Awk.Settings.assignment? value with
  | some assignment => return { options with assignments := options.assignments ++ [assignment] }
  | none => throw (utf8 "improper assignment: -v " ++ value)

/-- Read arguments, up to the first one that is no option. -/
def read : ScanOptions → List Bytes → Except Bytes ScanOptions
  | options, [] => .ok options
  | options, argument :: rest =>
    match argument with
    | [0x2d, 0x2d] => .ok { options with operands := rest }
    | 0x2d :: 0x2d :: word =>
      if word == utf8 "version" then .ok { options with showsVersion := true }
      else if word == utf8 "help" || word == utf8 "usage" then .ok { options with showsUsage := true }
      else .error (utf8 "not an option: " ++ argument)
    | [0x2d, 0x57] =>
      match rest with
      | [] => .error (utf8 "option -W lacks argument")
      | [word] => .ok (options.extension word)
      | word :: operand :: rest =>
        if word == utf8 "exec" then .ok { options with files := options.files ++ [operand], operands := rest }
        else (options.extension word).read (operand :: rest)
    | 0x2d :: letter :: value =>
      if !(utf8 "fFvW").elem letter then .error (utf8 "not an option: " ++ argument)
      else if !value.isEmpty then do (← options.valued letter value).read rest
      else match rest with
        | [] => .error (utf8 "option -" ++ letter :: utf8 " lacks argument")
        | value :: rest => do (← options.valued letter value).read rest
    | _ => .ok { options with operands := argument :: rest }

end ScanOptions

namespace Program

def scanUsage : List String := [
  "Usage: mawk [Options] [Program] [file ...]",
  "",
  "Program:",
  "    The -f option value is the name of a file containing program text.",
  "    If no -f option is given, a \"--\" ends option processing; the following",
  "    parameters are the program text.",
  "",
  "Options:",
  "    -f program-file  Program  text is read from file instead of from the",
  "                     command-line.  Multiple -f options are accepted.",
  "    -F value         sets the field separator, FS, to value.",
  "    -v var=value     assigns value to program variable var.",
  "    --               unambiguous end of options.",
  "",
  "    Implementation-specific options are prefixed with \"-W\".  They can be",
  "    abbreviated:",
  "",
  "    -W version       show version information and exit.",
  "    -W compat        pre-POSIX 2001.",
  "    -W dump          show assembler-like listing of program and exit.",
  "    -W help          show this message and exit.",
  "    -W interactive   set unbuffered output, line-buffered input.",
  "    -W exec file     use file as program as well as last option.",
  "    -W posix         stricter POSIX checking.",
  "    -W random=number set initial random seed.",
  "    -W sprintf=number adjust size of sprintf buffer.",
  "    -W usage         show this message and exit."]

def scanUsageText : Bytes := scanUsage.flatMap fun line => utf8 line ++ [0x0a]

/-- Complain under the last name of the program's path. -/
def complainShortly (program : Program) (text : Bytes) : Deed Unit :=
  { program with argv := [program.shortName] }.complain text

/-- The texts of some files one behind the other. -/
def joinedFiles (program : Program) : List Bytes → Deed Bytes
  | [] => return []
  | path :: paths => do
    match ← program.inputOf path with
    | .ok text => return text ++ (← program.joinedFiles paths)
    | .error fault =>
      program.complainShortly (utf8 "cannot open \"" ++ path ++ utf8 s!"\" ({fault.errno.text})")
      program.exit 2

/-- Carry out a text of patterns and actions on some arguments. -/
def scanBy (program : Program) (launch : Launcher) (options : ScanOptions) (text : Bytes) (arguments : List Bytes) :
    Deed Nat := do
  match Awk.Program.ofText text with
  | .ok actions => Awk.Settings.run ⟨program, launch, actions⟩ options.assignments arguments
  | .error fault =>
    let place : Bytes := match options.files.getLast? with
      | some file => file ++ utf8 ": "
      | none => []
    for message in fault.messages do program.complainShortly (place ++ message)
    return 2

/-- Carry out patterns and actions on the records of the inputs. -/
def scan (program : Program) (launch : Launcher) : Deed Nat := do
  if program.args.isEmpty then
    let _ ← program.write 2 scanUsageText
    return 0
  match ScanOptions.empty.read program.args with
  | .error text =>
    program.complainShortly text
    return 2
  | .ok options =>
    if options.showsVersion then
      program.print program.versionText
      return 0
    if options.showsUsage then
      program.print scanUsageText
      return 0
    for remark in options.remarks do program.complainShortly remark
    match options.files, options.operands with
    | [], [] => return 0
    | [], text :: arguments => program.scanBy launch options text arguments
    | files, arguments =>
      let text ← program.joinedFiles files
      program.scanBy launch options text arguments

end Program
end ExitParity
