import ExitParity.Host.Applets.Copies

/-! The programs that remove files and directories. -/

namespace ExitParity.Program

def removeDirectory (program : Program) : Deed Nat :=
  program.withOptions ⟨"pv", [("parents", .flag, "p"), ("verbose", .flag, "v"),
    ("ignore-fail-on-non-empty", .flag, "ignore")], true⟩ 1 fun options => do
  if options.operands.isEmpty then
    program.refuse (utf8 "missing operand")
    return 1
  let removeOne (path : Bytes) (isParent : Bool) : Deed Bool := do
    if options.has "v" then
      program.print (program.name ++ utf8 ": removing directory, " ++ Quoting.always path ++ [0x0a])
    match ← program.change (·.removeDirectory ⟨path⟩) with
    | .ok () => return true
    | .error errno =>
      if errno == .notEmpty && options.has "ignore" then return true
      program.complainOf (utf8 (if isParent then "failed to remove directory " else "failed to remove ") ++
        Quoting.always path) errno
      return false
  forEach (fun target => do
    if !(← removeOne target false) then return false
    if !options.has "p" then return true
    let trimmed := (target.reverse.dropWhile (· == Path.slash)).reverse
    let parents := (((FileTree.waypoints ⟨trimmed⟩).map (·.bytes)).dropLast).reverse
    let rec removeAll : List Bytes → Deed Bool
      | [] => return true
      | path :: rest => do if ← removeOne path true then removeAll rest else return false
    removeAll (parents.filter (· != Path.dot))) options.operands

/-- Remove a path, with all that is below it when that is asked for. -/
def removeNode (program : Program) (options : Options) : Nat → Bytes → Deed Bool
  | 0, _ => return false
  | fuel + 1, target => do
    let recursive := options.any ["r", "R"]
    let complain (errno : Errno) : Deed Bool := do
      if options.has "f" && (errno == .noEntry || errno == .notDirectory) then return true
      program.complainOf (utf8 "cannot remove " ++ Quoting.always target) errno
      return false
    let finish (what : String) (step : FileTree → Except Errno FileTree) : Deed Bool := do
      match ← program.change step with
      | .ok () =>
        if options.has "v" then program.print (utf8 what ++ Quoting.always target ++ [0x0a])
        return true
      | .error errno => complain errno
    match (← program.tree).entryNode ⟨target⟩ with
    | .error errno => complain errno
    | .ok (.directory mode _ _ entries) =>
      if entries.isEmpty && (recursive || options.has "d") then
        finish "removed directory " (·.removeDirectory ⟨target⟩)
      else if !recursive then complain (if options.has "d" then .notEmpty else .isDirectory)
      else if !FileTree.mayRead mode then complain .denied
      else
        let code ← forEach (fun name => program.removeNode options fuel (inside target name)) (entries.map (·.1))
        if code != 0 then return false
        finish "removed directory " (·.removeDirectory ⟨target⟩)
    | .ok _ => finish "removed " (·.unlink ⟨target⟩)

def remove (program : Program) : Deed Nat :=
  program.withOptions ⟨"dfiIrRv", [("force", .flag, "f"), ("interactive", .perhapsValued, "i"), ("recursive", .flag, "r"),
    ("dir", .flag, "d"), ("verbose", .flag, "v"), ("one-file-system", .flag, "one"),
    ("no-preserve-root", .flag, "no-root"), ("preserve-root", .perhapsValued, "root")], true⟩ 1 fun options => do
  if options.operands.isEmpty && !options.has "f" then
    program.refuse (utf8 "missing operand")
    return 1
  let recursive := options.any ["r", "R"]
  forEach (fun target => do
    let trimmed := (target.reverse.dropWhile (· == Path.slash)).reverse
    if recursive && [Path.dot, Path.dotdot].contains ((Bytes.split Path.slash trimmed).getLast?.getD []) then
      program.complain (utf8 "refusing to remove '.' or '..' directory: skipping " ++ Quoting.always target)
      return false
    if recursive && !options.has "no-root" && ((← program.tree).number ⟨target⟩).toOption == some FileTree.root then
      program.complain (utf8 "it is dangerous to operate recursively on " ++ Quoting.always target ++
        (if target == [Path.slash] then [] else utf8 " (same as '/')"))
      program.complain (utf8 "use --no-preserve-root to override this failsafe")
      return false
    program.removeNode options depthLimit target) options.operands

def dropLink (program : Program) : Deed Nat :=
  program.withOptions ⟨"", [], true⟩ 1 fun options => program.withExactly 1 options do
  let target := options.operands.head?.getD []
  match ← program.change (·.unlink ⟨target⟩) with
  | .ok () => return 0
  | .error errno =>
    program.complainOf (utf8 "cannot unlink " ++ Quoting.always target) errno
    return 1

end ExitParity.Program
