import ExitParity.Host.Applets.Modes

/-! The programs that make pipes with names. -/

namespace ExitParity.Program

/-- The permissions that a new pipe is asked for. -/
def pipeMode (program : Program) (options : Options) : Deed (Except String Nat) := do
  let mask ← .look (·.maskOf program.process)
  match options.value? "m" with
  | none => return .ok (← program.allowed 0o666)
  | some text =>
    match ModeChange.ofText? text with
    | none => return .error "invalid mode"
    | some change =>
      let mode := change.apply 0o666 false mask
      return if mode > 0o777 then .error "mode must specify only file permission bits" else .ok mode

def makePipe (program : Program) (path : Bytes) (mode : Nat) : Deed (Except Errno Unit) :=
  .act fun machine =>
    match machine.makeNamedPipe program.process ⟨path⟩ mode with
    | .ok machine => (.ok (), machine)
    | .error errno => (.error errno, machine)

def pipeGrammar : OptionGrammar := ⟨"m:Z", [("mode", .valued, "m"), ("context", .perhapsValued, "Z")], true⟩

def makePipes (program : Program) : Deed Nat :=
  program.withOptions pipeGrammar 1 fun options => do
  if options.operands.isEmpty then
    program.refuse (utf8 "missing operand")
    return 1
  match ← program.pipeMode options with
  | .error complaint =>
    program.complain (utf8 complaint)
    return 1
  | .ok mode =>
    forEach (fun path => do
      match ← program.makePipe path mode with
      | .ok () => return true
      | .error errno =>
        program.complainOf (utf8 "cannot create fifo " ++ Quoting.always path) errno
        return false) options.operands

/-- Make a node of a kind. Of the kinds only pipes can be made. -/
def makeNode (program : Program) : Deed Nat :=
  program.withOptions { pipeGrammar with permuted := false } 1 fun options => do
  let refuse (text remark : Bytes) : Deed Nat := do
    program.complain (text ++ remark)
    let _ ← program.write 2 (utf8 "Try '" ++ program.name ++ utf8 " --help' for more information.\n")
    return 1
  let pipes := utf8 "\nFifos do not have major and minor device numbers."
  let devices := utf8 "\nSpecial files require major and minor device numbers."
  match ← program.pipeMode options with
  | .error complaint =>
    program.complain (utf8 complaint)
    return 1
  | .ok mode =>
    match options.operands with
    | [] => refuse (utf8 "missing operand") []
    | [path] => refuse (utf8 "missing operand after " ++ Quoting.curly path) []
    | path :: kind :: rest =>
      if kind.head? == some 0x70 then
        match rest with
        | extra :: more => refuse (utf8 "extra operand " ++ Quoting.curly extra) (if more.length == 1 then pipes else [])
        | [] =>
          match ← program.makePipe path mode with
          | .ok () => return 0
          | .error errno =>
            program.complainOf (Quoting.whenNeeded path) errno
            return 1
      else match rest with
        | [] => refuse (utf8 "missing operand after " ++ Quoting.curly kind) devices
        | [major] => refuse (utf8 "missing operand after " ++ Quoting.curly major) []
        | _ :: _ :: extra :: _ => refuse (utf8 "extra operand " ++ Quoting.curly extra) []
        | [_, _] =>
          if kind.head?.any fun letter => (utf8 "bcu").elem letter then
            program.complain (Quoting.whenNeeded path ++ utf8 ": Operation not permitted")
            return 1
          else refuse (utf8 "invalid device type " ++ Quoting.curly kind) []

end ExitParity.Program
