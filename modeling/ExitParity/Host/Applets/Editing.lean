import ExitParity.Host.Editor.Reader
import ExitParity.Host.Editor.Run

/-! The program that edits lines by a script. -/

namespace ExitParity.Program

open Editor

def editorGrammar : OptionGrammar where
  letters := "bsnrzuEe:f:l:i::V:hs"
  long := [("quiet", .flag, "n"), ("silent", .flag, "n"), ("expression", .valued, "e"), ("file", .valued, "f"),
    ("in-place", .perhapsValued, "i"), ("line-length", .valued, "l"), ("null-data", .flag, "z"),
    ("zero-terminated", .flag, "z"), ("regexp-extended", .flag, "E"), ("separate", .flag, "s"),
    ("unbuffered", .flag, "u"), ("posix", .flag, "posix"), ("debug", .flag, "debug"), ("sandbox", .flag, "sandbox"),
    ("follow-symlinks", .flag, "follow"), ("binary", .flag, "b")]
  permuted := true

/-- The fragments that the options of the program hold, the files among them read. -/
def fragments (program : Program) : List (String × Bytes) → Nat → Deed (List (Fragment × Bytes))
  | [], _ => return []
  | (key, value) :: given, count => do
    if key == "e" then
      let more ← program.fragments given (count + 1)
      return (.argument (count + 1), value) :: more
    else if key == "f" then
      match ← program.inputOf value with
      | .ok text =>
        let more ← program.fragments given count
        return (.file value, text) :: more
      | .error fault =>
        program.complain (utf8 "couldn't open file " ++ value ++ utf8 s!": {fault.errno.text}")
        program.conclude 4 4
    else program.fragments given count

def editorUsage : Bytes := utf8 "Usage: sed [OPTION]... \x7bscript-only-if-no-other-script\x7d [input-file]...\n\n"

/-- Read the script and edit the inputs. -/
def editWith (program : Program) (launch : Launcher) (options : Options) (scripts : List (String × Bytes))
    (files : List Bytes) : Deed Nat := do
  let fragments ← program.fragments scripts 0
  match Script.ofFragments (options.any ["E", "r"]) fragments with
  | .error fault =>
    program.complain fault.message
    return match fault with
      | .mistake .. => 1
      | .unknownLabel _ => 4
  | .ok script =>
    let inPlace := options.value? "i"
    if inPlace.isSome && files.isEmpty then
      program.complain (utf8 "no input files")
      return 4
    let width := (options.value? "l").map fun text => Printing.digits 10 (text.takeWhile Printing.isDecimal)
    let settings : Settings := {
      program
      launch
      script
      quiet := options.has "n" || script.quiet
      separate := options.has "s" || inPlace.isSome
      inPlace
      separator := if options.has "z" then 0 else 0x0a
      width := width.getD 70
      unbuffered := options.has "u" }
    settings.edit (if inPlace.isSome then files else inputs files)

/-- Edit the lines of the inputs by a script. -/
def edit (program : Program) (launch : Launcher) : Deed Nat := do
  let options := editorGrammar.read program.args
  if options.has "version" then
    program.print program.versionText
    return 0
  if options.has "help" then
    program.print editorUsage
    return 0
  match options.fault with
  | some fault =>
    program.complain fault.message
    let _ ← program.write 2 editorUsage
    return 1
  | none =>
    if options.any ["e", "f"] then program.editWith launch options options.given options.operands
    else match options.operands with
      | [] =>
        let _ ← program.write 2 editorUsage
        return 1
      | script :: files => program.editWith launch options [("e", script)] files

end ExitParity.Program
