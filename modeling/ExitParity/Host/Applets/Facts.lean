import ExitParity.Host.Applets.Inputs
import ExitParity.Host.Calendar

/-! The programs that tell who and where they are, and what the time is. -/

namespace ExitParity.Program

/-- Complain about an operand where none is taken. -/
def withoutOperands (program : Program) (options : Options) (body : Deed Nat) : Deed Nat := do
  match options.operands with
  | [] => body
  | extra :: _ =>
    program.refuse (utf8 "extra operand " ++ Quoting.curly extra)
    return 1

def tellIdentity (program : Program) : Deed Nat :=
  program.withOptions ⟨"agnruzGZ", [("user", .flag, "u"), ("group", .flag, "g"), ("groups", .flag, "G"),
    ("name", .flag, "n"), ("real", .flag, "r"), ("zero", .flag, "z")], true⟩ 1 fun options => do
  match options.operands.find? (· != utf8 "root") with
  | some stranger =>
    program.complain (Quoting.curly stranger ++ utf8 ": no such user")
    return 1
  | none =>
    let chosen := ["u", "g", "G"].filter options.has
    if chosen.length > 1 then
      program.complain (utf8 "cannot print \"only\" of more than one choice")
      return 1
    if chosen.isEmpty && options.any ["n", "r"] then
      program.complain (utf8 "cannot print only names or real IDs in default format")
      return 1
    program.print (utf8 (if chosen.isEmpty then "uid=0(root) gid=0(root) groups=0(root)\n"
      else if options.has "n" then "root\n" else "0\n"))
    return 0

def tellGroups (program : Program) : Deed Nat :=
  program.withOptions ⟨"", [], true⟩ 1 fun options => do
    if options.operands.isEmpty then
      program.print (utf8 "root\n")
      return 0
    forEach (fun name => do
      if name == utf8 "root" then
        program.print (utf8 "root : root\n")
        return true
      else
        program.complain (Quoting.curly name ++ utf8 ": no such user")
        return false) options.operands

/-- Nobody works at a terminal. -/
def tellVisitors (program : Program) : Deed Nat :=
  program.withOptions ⟨"abdHlmpqrstTuw", [("all", .flag, "a")], true⟩ 1 fun _ => return 0

def tellUser (program : Program) : Deed Nat :=
  program.withOptions ⟨"", [], true⟩ 1 fun options => program.withoutOperands options do
    program.print (utf8 "root\n")
    return 0

def tellLogin (program : Program) : Deed Nat :=
  program.withOptions ⟨"", [], true⟩ 1 fun options => program.withoutOperands options do
    program.complain (utf8 "no login name")
    return 1

def tellSystem (program : Program) : Deed Nat :=
  program.withOptions ⟨"asnrvmpio", [("all", .flag, "a"), ("kernel-name", .flag, "s"), ("nodename", .flag, "n"),
    ("kernel-release", .flag, "r"), ("kernel-version", .flag, "v"), ("machine", .flag, "m"), ("processor", .flag, "p"),
    ("hardware-platform", .flag, "i"), ("operating-system", .flag, "o")], true⟩ 1 fun options =>
    program.withoutOperands options do
    let facts := [("s", "Linux"), ("n", "localhost"), ("r", "6.0.0"), ("v", "#1"), ("m", "x86_64"), ("p", "x86_64"),
      ("i", "x86_64"), ("o", "GNU/Linux")]
    let keys := if options.given.isEmpty then ["s"] else if options.has "a" then ["s", "n", "r", "v", "m", "o"]
      else (facts.map (·.1)).filter options.has
    program.print (utf8 (" ".intercalate (keys.filterMap fun key => facts.lookup key) ++ "\n"))
    return 0

def tellMachine (program : Program) : Deed Nat :=
  program.withOptions ⟨"", [], true⟩ 1 fun options => program.withoutOperands options do
    program.print (utf8 "x86_64\n")
    return 0

def tellHost (program : Program) : Deed Nat :=
  program.answering do
    program.print (utf8 "localhost\n")
    return 0

def tellProcessors (program : Program) : Deed Nat :=
  program.withOptions ⟨"", [("all", .flag, "all"), ("ignore", .valued, "ignore")], true⟩ 1 fun options =>
    program.withoutOperands options do
    program.print (utf8 "1\n")
    return 0

def tellTerminal (program : Program) : Deed Nat :=
  program.withOptions ⟨"s", [("silent", .flag, "s"), ("quiet", .flag, "s")], true⟩ 2 fun options =>
    program.withoutOperands options do
    if !options.has "s" then program.print (utf8 "not a tty\n")
    return 1

def now : Deed Int := .look fun machine => ((machine.began + machine.clock : Nat) : Int)

/-- How `date` writes a moment when it is not told. -/
def usualLayout : Bytes := utf8 "%a %b %e %H:%M:%S %Z %Y"

/-- The layouts of the standard for dates, by the precision asked for. -/
def standardLayout (precision : Bytes) : Bytes :=
  match Utf8.display precision with
  | "" | "date" => utf8 "%Y-%m-%d"
  | "hours" => utf8 "%Y-%m-%dT%H+00:00"
  | "minutes" => utf8 "%Y-%m-%dT%H:%M+00:00"
  | "ns" => utf8 "%Y-%m-%dT%H:%M:%S,%N+00:00"
  | _ => utf8 "%Y-%m-%dT%H:%M:%S+00:00"

def tellDate (program : Program) : Deed Nat :=
  program.withOptions ⟨"d:f:I::r:Rs:u", [("date", .valued, "d"), ("iso-8601", .perhapsValued, "I"),
    ("reference", .valued, "r"), ("rfc-email", .flag, "R"), ("rfc-3339", .valued, "3339"), ("set", .valued, "s"),
    ("utc", .flag, "u"), ("universal", .flag, "u")], true⟩ 1 fun options => do
  let present ← now
  let time? : Except Bytes Int ← match options.value? "d", options.value? "r" with
    | some text, _ => pure ((Moment.ofText? present text).elim (.error (utf8 "invalid date " ++ Quoting.curly text)) .ok)
    | none, some path => do
      let tree ← program.tree
      pure (match tree.number ⟨path⟩ with
        | .ok number => .ok (tree.timeOf number)
        | .error errno => .error (Quoting.whenNeeded path ++ utf8 s!": {errno.text}"))
    | none, none => pure (.ok present)
  match time? with
  | .error complaint =>
    program.complain complaint
    return 1
  | .ok time =>
    let show_ (layout : Bytes) : Deed Nat := do
      program.print ((Moment.ofNanoseconds time).show_ layout ++ [0x0a])
      return 0
    match options.operands with
    | [] =>
      if options.has "R" then show_ (utf8 "%a, %d %b %Y %H:%M:%S %z")
      else match options.value? "I", options.value? "3339" with
        | some precision, _ => show_ (standardLayout precision)
        | none, some precision =>
          show_ (if precision == utf8 "date" then utf8 "%Y-%m-%d" else utf8 "%Y-%m-%d %H:%M:%S+00:00")
        | none, none => show_ usualLayout
    | (0x2b :: layout) :: rest =>
      match rest with
      | [] => show_ layout
      | extra :: _ =>
        program.refuse (utf8 "extra operand " ++ Quoting.curly extra)
        return 1
    | wrong :: _ =>
      program.complain (utf8 "invalid date " ++ Quoting.curly wrong)
      return 1

def synchronize (program : Program) : Deed Nat :=
  program.withOptions ⟨"df", [("data", .flag, "d"), ("file-system", .flag, "f")], true⟩ 1 fun options =>
    forEach (fun path => do
      match (← program.tree).node ⟨path⟩ with
      | .ok _ => return true
      | .error errno =>
        program.complainOf (utf8 "error opening " ++ Quoting.always path) errno
        return false) options.operands

end ExitParity.Program
