import ExitParity.Shell.Builtins.Options
import ExitParity.Shell.Redirection

/-! The commands of the shell that are about directories, and what a name
stands for as a command. -/

namespace ExitParity.Shell

/-- The commands that the shell carries out itself. -/
inductive Builtin where
  | aliases
  | background
  | bracket
  | breakLoop
  | changeDirectory
  | choices
  | command
  | continueLoop
  | describes
  | echo
  | evaluate
  | execute
  | exit
  | exports
  | fails
  | foreground
  | hash
  | ignored
  | jobs
  | kill
  | lets
  | limits
  | locals
  | mask
  | nothing
  | options
  | own
  | places
  | popPlace
  | printf
  | pushPlace
  | read
  | readLines
  | readOnly
  | returns
  | set
  | shift
  | source
  | succeeds
  | test
  | times
  | trap
  | unalias
  | unset
  | wait
  | workingDirectory
  deriving DecidableEq

namespace Builtin

def names : List (Bytes × Builtin) := [
  (".", source), (":", nothing), ("[", bracket), ("alias", aliases), ("bg", background), ("break", breakLoop),
  ("cd", changeDirectory), ("chdir", changeDirectory), ("command", command), ("continue", continueLoop), ("echo", echo),
  ("eval", evaluate), ("exec", execute), ("exit", exit), ("export", exports), ("false", fails), ("fg", foreground),
  ("getopts", options), ("hash", hash), ("jobs", jobs), ("kill", kill), ("local", locals), ("printf", printf),
  ("pwd", workingDirectory), ("read", read), ("readonly", readOnly), ("return", returns), ("set", set), ("shift", shift),
  ("test", test), ("times", times), ("trap", trap), ("true", succeeds), ("type", describes), ("ulimit", limits),
  ("umask", mask), ("unalias", unalias), ("unset", unset), ("wait", wait)].map fun (name, builtin) => (utf8 name, builtin)

/-- The commands of the extended language, apart from those of the core. -/
def addedNames : List (Bytes × Builtin) :=
  [("builtin", own), ("declare", locals), ("dirs", places), ("disown", ignored), ("enable", ignored), ("history", ignored),
    ("let", lets), ("mapfile", readLines), ("popd", popPlace), ("pushd", pushPlace), ("readarray", readLines),
    ("shopt", choices), ("source", source), ("typeset", locals)].map fun (name, builtin) => (utf8 name, builtin)

def ofName? (dialect : Dialect) (name : Bytes) : Option Builtin :=
  let known := match dialect with
    | .core => names
    | .extended => names ++ addedNames
  (known.find? (·.1 == name)).map (·.2)

/-- The commands a fault in which ends the shell. They are found before
functions of their names. -/
def isSpecial : Builtin → Bool
  | source | nothing | breakLoop | continueLoop | evaluate | execute | exit | exports | locals | readOnly | returns | set
  | shift | times | trap | unset => true
  | _ => false

/-- The commands whose arguments may be assignments. -/
def isAssigning : Builtin → Bool
  | aliases | exports | locals | readOnly => true
  | _ => false

end Builtin

/-- What a name stands for as a command. -/
inductive Meaning where
  | builtin (builtin : Builtin)
  | function (function : Function)
  | program (path : Bytes)
  | missing (errno : Errno)

/-- The paths that a name has on a search path. -/
def candidates (searchPath name : Bytes) : List Bytes :=
  (Bytes.split 0x3a searchPath).map fun directory => if directory.isEmpty then name else directory ++ Path.slash :: name

/-- The first program of a name on a search path. What is there but cannot be
run is remembered. -/
def searchProgram (tree : FileTree) : List Bytes → Errno → Except Errno Bytes
  | [], errno => .error errno
  | path :: rest, errno =>
    match tree.node ⟨path⟩ with
    | .ok (.file mode _) =>
      if FileTree.mayEnter mode then .ok path else searchProgram tree rest .denied
    | .ok _ => searchProgram tree rest .denied
    | .error found =>
      searchProgram tree rest (if found == .noEntry || found == .notDirectory then errno else found)

def defaultSearchPath : Bytes := utf8 "/usr/local/sbin:/usr/local/bin:/usr/sbin:/usr/bin:/sbin:/bin"

/-- The search path, empty when there is none. -/
def searchPath (shell : Shell) : Bytes := (shell.valueOf? (utf8 "PATH")).getD []

/-- What a name stands for; functions can be left out. -/
def meaning (path : Option Bytes) (functions : Bool) (name : Bytes) : Run Meaning := do
  if name.elem Path.slash then return .program name
  let shell ← get
  let builtin? := Builtin.ofName? shell.dialect name
  match builtin?.filter Builtin.isSpecial, if functions then shell.functions.find? (·.1 == name) else none, builtin? with
  | some builtin, _, _ => return .builtin builtin
  | none, some (_, function), _ => return .function function
  | none, none, some builtin => return .builtin builtin
  | none, none, none =>
    let tree ← perform fun program => program.tree
    match searchProgram tree (candidates (path.getD shell.searchPath) name) .noEntry with
    | .ok path => return .program path
    | .error errno => return .missing errno

/-- How it is worded that a program cannot be run. -/
def programFault (dialect : Dialect) (name : Bytes) (errno : Errno) : Bytes :=
  utf8 (match dialect with
    | .core => faultText "not found" errno
    | .extended => if name.elem Path.slash then errno.text else faultText "command not found" errno)

namespace Builtin

/-- The logical path of a directory named from another one. -/
def joinLogical (current target : Bytes) : Bytes :=
  let start := if target.head? == some Path.slash then [] else (Bytes.split Path.slash current).filter (!·.isEmpty)
  let steps := (Bytes.split Path.slash target).filter (!·.isEmpty)
  let names := steps.foldl (fun names step =>
    if step == Path.dot then names else if step == Path.dotdot then names.dropLast else names ++ [step]) start
  Path.slash :: Bytes.joinWith [Path.slash] names

def currentVariable : Bytes := utf8 "PWD"

def formerVariable : Bytes := utf8 "OLDPWD"

/-- Where the shell takes itself to be. -/
def currentPath : Run Bytes := do
  match (← get).valueOf? currentVariable with
  | some path => return path
  | none => return (← perform fun program => program.tree).workingPath

/-- Make a directory the working directory, if it may be entered. -/
def enter (path : Bytes) : Run Bool :=
  perform fun program => do
    .rest callTime
    .act fun machine =>
      let tree := machine.treeOf program.process
      match tree.number ⟨path⟩ with
      | .error _ => (false, machine)
      | .ok number =>
        match tree.nodes[number]? with
        | some (.directory mode ..) =>
          if FileTree.mayEnter mode then
            (true, machine.modify program.process fun process => { process with cwd := number })
          else (false, machine)
        | _ => (false, machine)

def setExported (name value : Bytes) : Run Unit := do
  assign name value
  let former := ((← get).find? name).getD .absent
  define name { former with exported := true }

def cd_ (args : List Bytes) : Run Nat := do
  let (given, args) ← optionsOf (if (← get).isExtended then ['L', 'P', 'e', '@'] else ['L', 'P']) [] args
  let physical := (given.getLast?.map (·.1)) == some 'P'
  let shell ← get
  if shell.isExtended then
    if args.length > 1 then failAs 1 (utf8 "too many arguments") []
    if args.isEmpty && (shell.valueOf? (utf8 "HOME")).isNone then failAs 1 (utf8 "HOME not set") []
    if args == [[0x2d]] && (shell.valueOf? formerVariable).isNone then failAs 1 (utf8 "OLDPWD not set") []
  let back := args.head? == some [0x2d]
  let target := match args with
    | [] => (shell.valueOf? (utf8 "HOME")).getD []
    | target :: _ => if back then (shell.valueOf? formerVariable).getD [] else target
  let wanted := if target.isEmpty then Path.dot else target
  let current ← currentPath
  let anchored := wanted.head? == some Path.slash ||
    [Path.dot, Path.dotdot].contains (wanted.takeWhile (· != Path.slash))
  let prefixes := if anchored then [] else match shell.valueOf? (utf8 "CDPATH") with
    | some path => (Bytes.split 0x3a path).filter (!·.isEmpty)
    | none => []
  let tries := prefixes.map (fun directory => (directory ++ Path.slash :: wanted, true)) ++ [(wanted, back)]
  let rec go : List (Bytes × Bool) → Run Nat
    | [] => do
      if !shell.isExtended then fail (utf8 "can't cd to " ++ wanted)
      let tree ← perform fun program => program.tree
      let errno : Errno := match tree.node ⟨wanted⟩ with
        | .error errno => errno
        | .ok (.directory ..) => .denied
        | .ok _ => .notDirectory
      fail (wanted ++ utf8 s!": {errno.text}")
    | (path, shows) :: rest => do
      let logical := joinLogical current path
      if ← enter (if physical then path else logical) then
        let place ← if physical then pure (← perform fun program => program.tree).workingPath else pure logical
        setExported formerVariable current
        setExported currentVariable place
        if shows then say (place ++ [0x0a])
        return 0
      else go rest
  go tries

def pwd_ (args : List Bytes) : Run Nat := do
  let (given, _) ← optionsOf ['L', 'P'] [] args
  let path ←
    if (given.getLast?.map (·.1)) == some 'P' then pure (← perform fun program => program.tree).workingPath
    else currentPath
  say (path ++ [0x0a])
  return 0

/-- Show the directories to come back to, the current one first. -/
def showPlaces (numbered oneEach whole : Bool) : Run Unit := do
  let shell ← get
  let home := (shell.valueOf? (utf8 "HOME")).getD []
  let shown (path : Bytes) : Bytes :=
    match if whole || home.isEmpty then none else Bytes.stripPrefix? home path with
    | some [] => [0x7e]
    | some (0x2f :: rest) => 0x7e :: 0x2f :: rest
    | _ => path
  let places := (← currentPath) :: shell.places
  if numbered then
    say (places.zipIdx.flatMap fun (path, index) =>
      utf8 ((if index < 10 then " " else "") ++ toString index ++ "  ") ++ shown path ++ [0x0a])
  else say (Bytes.joinWith [if oneEach then 0x0a else 0x20] (places.map shown) ++ [0x0a])

/-- The place that an argument such as `+1` or `-0` counts, among so many. -/
def placeIndex? (count : Nat) (text : Bytes) : Option Nat :=
  match text with
  | 0x2b :: digits => number? digits
  | 0x2d :: digits => (number? digits).bind fun number => if number < count then some (count - 1 - number) else none
  | _ => none

/-- Go to another directory, and keep the current one to come back to. -/
def pushd_ (args : List Bytes) : Run Nat := do
  let current ← currentPath
  let all := current :: (← get).places
  let goTo (target : Bytes) (others : List Bytes) : Run Nat := do
    let status ← cd_ [target]
    modify fun shell => { shell with places := others }
    showPlaces false false false
    return status
  match args with
  | [] =>
    match all with
    | _ :: next :: rest => goTo next (current :: rest)
    | _ => failAs 1 (utf8 "no other directory") []
  | text :: rest =>
    if !rest.isEmpty then failAs 1 (utf8 "too many arguments") []
    let isCount := (text.head? == some 0x2b || text.head? == some 0x2d) && text.length > 1
    if !isCount then goTo text all
    else
      match placeIndex? all.length text with
      | none =>
        if (number? (text.drop 1)).isNone then
          complain (text ++ utf8 ": invalid number")
          failUsage
        failAs 1 (text ++ utf8 ": directory stack index out of range") []
      | some index =>
        match all.drop index ++ all.take index with
        | next :: others =>
          if index < all.length then goTo next others
          else failAs 1 (text ++ utf8 ": directory stack index out of range") []
        | [] => return 1

/-- Come back to the directory that was kept last. -/
def popd_ (args : List Bytes) : Run Nat := do
  let current ← currentPath
  let kept := (← get).places
  let all := current :: kept
  match args with
  | [] =>
    match kept with
    | [] => failAs 1 (utf8 "directory stack empty") []
    | next :: others =>
      let status ← cd_ [next]
      modify fun shell => { shell with places := others }
      showPlaces false false false
      return status
  | text :: _ =>
    match placeIndex? all.length text with
    | none =>
      complain (text ++ utf8 ": invalid number")
      failUsage
    | some 0 =>
      match kept with
      | [] => failAs 1 (utf8 "directory stack empty") []
      | next :: others =>
        let status ← cd_ [next]
        modify fun shell => { shell with places := others }
        showPlaces false false false
        return status
    | some index =>
      if kept.isEmpty then failAs 1 (utf8 "directory stack empty") []
      if index ≥ all.length then failAs 1 (text ++ utf8 ": directory stack index out of range") []
      modify fun shell => { shell with places := kept.eraseIdx (index - 1) }
      showPlaces false false false
      return 0

def dirs_ (args : List Bytes) : Run Nat := do
  let (given, _) ← optionsOf ['c', 'l', 'p', 'v'] [] args
  let asks (letter : Char) : Bool := given.any (·.1 == letter)
  if asks 'c' then
    modify fun shell => { shell with places := [] }
    return 0
  showPlaces (asks 'v') (asks 'p') (asks 'l')
  return 0

/-- Tell what a name stands for, at length or in short. -/
def describe (path : Option Bytes) (verbose : Bool) (name : Bytes) : Run Bool := do
  let tell (text : Bytes) : Run Bool := do
    say (text ++ [0x0a])
    return true
  let shell ← get
  -- nothing is an alias in a script of the extended language
  let aliases := if shell.isExtended then [] else shell.aliases
  let missing : Run Bool := do
    if verbose && shell.isExtended then complain (name ++ utf8 ": not found")
    else if verbose then say (name ++ utf8 ": not found\n")
    return false
  if (Lexeme.keyword? shell.dialect name).isSome then
    tell (if verbose then name ++ utf8 " is a shell keyword" else name)
  else match aliases.find? (·.1 == name) with
  | some (_, value) =>
    tell (if verbose then name ++ utf8 " is an alias for " ++ value else utf8 "alias " ++ name ++ 0x3d :: quote value)
  | none =>
    match ← meaning path true name with
    | .builtin builtin =>
      let kind := if builtin.isSpecial && !shell.isExtended then " is a special shell builtin" else " is a shell builtin"
      tell (if verbose then name ++ utf8 kind else name)
    | .function _ =>
      tell (if verbose then name ++ utf8 (if shell.isExtended then " is a function" else " is a shell function") else name)
    | .program found =>
      let exists_ := ((← perform fun program => program.tree).node ⟨found⟩).toOption.isSome
      if exists_ then tell (if verbose then name ++ utf8 " is " ++ found else found)
      else missing
    | .missing _ => missing

/-- The kind of command that a name stands for, and its file if it has one. -/
def kindOf? (shell : Shell) (name : Bytes) : Run (Option (String × Option Bytes)) := do
  if (Lexeme.keyword? shell.dialect name).isSome then return some ("keyword", none)
  match ← meaning none true name with
  | .builtin _ => return some ("builtin", none)
  | .function _ => return some ("function", none)
  | .program found =>
    let exists_ := ((← perform fun program => program.tree).node ⟨found⟩).toOption.isSome
    return if exists_ then some ("file", some found) else none
  | .missing _ => return none

/-- The files that a name stands for on the search path. -/
def filesOf (name : Bytes) : Run (List Bytes) := do
  let tree ← perform fun program => program.tree
  let isProgram (path : Bytes) : Bool := match tree.node ⟨path⟩ with
    | .ok (.file mode _) => FileTree.mayEnter mode
    | _ => false
  return (candidates (← get).searchPath name).filter isProgram

/-- Tell what names stand for as the extended language does. -/
def classify (args : List Bytes) : Run Nat := do
  let (given, names) ← optionsOf ['a', 'f', 'p', 't', 'P'] [] args
  let asks (letter : Char) : Bool := given.any (·.1 == letter)
  let shell ← get
  let mut status := 0
  for name in names do
    let kind? ← kindOf? shell name
    let files ← filesOf name
    if asks 't' then
      match kind? with
      | some (kind, _) => say (utf8 s!"{kind}\n")
      | none => status := 1
    else if asks 'P' then
      match files with
      | [] => status := 1
      | path :: _ => say (path ++ [0x0a])
    else if asks 'p' then
      match kind? with
      | some (_, some path) => say (path ++ [0x0a])
      | some _ => pure ()
      | none => status := 1
    else if !(← describe none true name) then status := 1
    else if asks 'a' then
      let others := if (kind?.bind (·.2)).isSome then files.drop 1 else files
      say (others.flatMap fun path => name ++ utf8 " is " ++ path ++ [0x0a])
  return status

def type_ (args : List Bytes) : Run Nat := do
  if (← get).isExtended then return ← classify args
  let mut status := 0
  for name in args do
    if !(← describe none true name) then status := 127
  return status

def hash_ (args : List Bytes) : Run Nat := do
  let isExtended := (← get).isExtended
  let (given, names) ← if isExtended then optionsOf ['r', 'l', 'd', 't'] ['p'] args else optionsOf ['r'] [] args
  if isExtended && given.isEmpty && names.isEmpty then say (utf8 "hash: hash table empty\n")
  let mut status := 0
  for name in names do
    match ← meaning none true name with
    | .missing errno =>
      let dialect := (← get).dialect
      complain (name ++ utf8 ": " ++ if isExtended then utf8 "not found" else programFault dialect name errno)
      status := 1
    | _ => pure ()
  return status

end Builtin
end ExitParity.Shell
