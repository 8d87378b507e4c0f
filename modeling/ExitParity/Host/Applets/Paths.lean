import ExitParity.Host.Applets.Inputs
import ExitParity.Host.Canonical

/-! The programs that tell where paths lead, and what those on files share. -/

namespace ExitParity.Program

def nameOf (path : Bytes) : Bytes := ((⟨path⟩ : Path).fileName?).getD path

/-- The path of a name in a directory. -/
def inside (directory name : Bytes) : Bytes := ((⟨directory⟩ : Path).join ⟨name⟩).bytes

/-- The permissions that remain of some wanted ones. -/
def allowed (program : Program) (mode : Nat) : Deed Nat :=
  .look fun machine => mode &&& (0o7777 ^^^ (machine.maskOf program.process &&& 0o7777))

/-- Open a file for writing behind a free descriptor. -/
def openTarget (program : Program) (path : Bytes) (opening : FileTree.Opening) (appends : Bool) : Deed (Except Errno Nat) :=
  program.openBehind (·.freeDescriptor program.process) (·.openForWriting program.process ⟨path⟩ opening appends false)

/-- How deep trees are gone through. -/
def depthLimit : Nat := 4096

/-- What an option says about the parts of a path that have to exist. -/
def existenceOf (options : Options) (usual : Existence) : Existence :=
  match options.last? ["e", "f", "m", "E"] with
  | some "e" => .all
  | some "m" => .nothing
  | some _ => .allButLast
  | none => usual

def readLink (program : Program) : Deed Nat :=
  program.withOptions ⟨"efmnqsvz", [("canonicalize-existing", .flag, "e"), ("canonicalize", .flag, "f"),
    ("canonicalize-missing", .flag, "m"), ("no-newline", .flag, "n"), ("quiet", .flag, "q"), ("silent", .flag, "q"),
    ("verbose", .flag, "v"), ("zero", .flag, "z")], true⟩ 1 fun options => do
  if options.operands.isEmpty then
    program.refuse (utf8 "missing operand")
    return 1
  let ending : Bytes :=
    if options.has "n" && options.operands.length == 1 then [] else if options.has "z" then [0] else [0x0a]
  forEach (fun target => do
    let tree ← program.tree
    let found := if options.any ["e", "f", "m"] then tree.canonical (existenceOf options .all) true target
      else match tree.entryNode ⟨target⟩ with
        | .ok (.link text) => .ok text
        | .ok _ => .error .invalid
        | .error errno => .error errno
    match found with
    | .ok text =>
      program.print (text ++ ending)
      return true
    | .error errno =>
      if options.last? ["q", "s", "v"] == some "v" then program.complainOf (Quoting.whenNeeded target) errno
      return false) options.operands

def realPath (program : Program) : Deed Nat :=
  program.withOptions ⟨"eELmPqsz", [("canonicalize", .flag, "E"), ("canonicalize-existing", .flag, "e"),
    ("canonicalize-missing", .flag, "m"), ("logical", .flag, "L"), ("physical", .flag, "P"), ("quiet", .flag, "q"),
    ("strip", .flag, "s"), ("no-symlinks", .flag, "s"), ("zero", .flag, "z"), ("relative-to", .valued, "to"),
    ("relative-base", .valued, "base")], true⟩ 1 fun options => do
  if options.operands.isEmpty then
    program.refuse (utf8 "missing operand")
    return 1
  let existence := existenceOf options .allButLast
  let follows := !options.has "s"
  let tree ← program.tree
  let base := (options.value? "to").or (options.value? "base")
  match base.mapM fun path => (tree.canonical existence follows path).mapError (path, ·) with
  | .error (path, errno) =>
    program.complainOf (Quoting.whenNeeded path) errno
    return 1
  | .ok base? =>
    forEach (fun target => do
      match tree.canonical existence follows target with
      | .ok path =>
        let isBelow := (options.value? "base").isNone || base?.any fun base => base == path || (base ++ [Path.slash]).isPrefixOf path
        program.print ((match base? with
          | some base => if isBelow then FileTree.relative base path else path
          | none => path) ++ if options.has "z" then [0] else [0x0a])
        return true
      | .error errno =>
        if !options.has "q" then program.complainOf (Quoting.whenNeeded target) errno
        return false) options.operands

end ExitParity.Program
