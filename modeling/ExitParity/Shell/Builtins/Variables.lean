import ExitParity.Shell.Builtins.Options
import ExitParity.Shell.Expand

/-! The commands of the shell that are about variables and parameters. -/

namespace ExitParity.Shell.Builtin

/-- An argument that may assign: the name and the value. -/
def assignment (arg : Bytes) : Bytes × Option Bytes :=
  let name := arg.takeWhile (· != 0x3d)
  (name, if name.length < arg.length then some (arg.drop (name.length + 1)) else none)

/-- Complain about what no variable can be called. -/
def complainOfName (text : Bytes) : Run Unit := complain (0x60 :: text ++ utf8 "': not a valid identifier")

def checkName (name : Bytes) : Run Unit := do
  if !isName name then
    if (← get).isExtended then
      complainOfName name
      setStatus 1
      throw .failed
    fail (name ++ utf8 ": bad variable name")

/-- A text as the extended language shows it among declarations. -/
def declared (value : Bytes) : Bytes :=
  if value.any fun byte => byte < 0x20 || byte == 0x7f then
    utf8 "$'" ++ value.flatMap (fun byte =>
      match Char.ofNat byte.toNat with
      | '\n' => utf8 "\\n"
      | '\t' => utf8 "\\t"
      | '\r' => utf8 "\\r"
      | '\\' => utf8 "\\\\"
      | '\'' => utf8 "\\'"
      | _ =>
        if byte ≥ 0x20 && byte != 0x7f then [byte]
        else
          let digits := String.ofList (Nat.toDigits 8 byte.toNat)
          utf8 ("\\" ++ String.ofList (List.replicate (3 - digits.length) '0') ++ digits)) ++ [0x27]
  else 0x22 :: value.flatMap (fun byte =>
    if (utf8 "\"\\$\x60").elem byte then [0x5c, byte] else [byte]) ++ [0x22]

/-- Whether a variable has elements besides the first one. -/
def hasElements (shell : Shell) (name : Bytes) : Bool :=
  shell.keyed.contains name || shell.bindings.any fun entry => (name ++ [0x5b]).isPrefixOf entry.1

/-- The elements of a list as the extended language shows them. -/
def declaredElements (shell : Shell) (name : Bytes) : Bytes :=
  let shown := (shell.elements name).map fun (index, value) => 0x5b :: index ++ utf8 "]=" ++ declared value
  0x28 :: Bytes.joinWith [0x20] shown ++ (if shell.keyed.contains name then utf8 " )" else utf8 ")")

/-- What the extended language shows a variable as. -/
def declaration (shell : Shell) (name : Bytes) (variable_ : Variable) : Bytes :=
  let isList := hasElements shell name
  let letters :=
    (if shell.keyed.contains name then "A" else if isList then "a" else "") ++
    (if variable_.kind == .number then "i" else "") ++ (if variable_.readOnly then "r" else "") ++
    (if variable_.exported then "x" else "") ++
    (if variable_.kind == .lower then "l" else if variable_.kind == .upper then "u" else "")
  let value := if isList then 0x3d :: declaredElements shell name
    else (variable_.value.map fun value => 0x3d :: declared value).getD []
  utf8 ("declare -" ++ (if letters.isEmpty then "-" else letters) ++ " ") ++ name ++ value ++ [0x0a]

/-- Some of the variables in the order of their names. -/
def inOrder (shell : Shell) (shown : Variable → Bool) : List (Bytes × Variable) :=
  (shell.bindings.filter fun entry => isName entry.1 && shown entry.2).mergeSort
    fun first second => Bytes.precedes first.1 second.1

/-- Variables as the shell would read them back, in the order of their names. -/
def listing (heading : String) (shown : Variable → Bool) (shell : Shell) : Bytes :=
  (inOrder shell shown).flatMap fun (name, variable_) =>
    if shell.isExtended then
      if !heading.isEmpty then declaration shell name variable_
      else name ++ 0x3d :: (if hasElements shell name then declaredElements shell name
        else
          let value := variable_.value.getD []
          if value.isEmpty then [] else if value.any (· < 0x20) then declared value else quoteWhenNeeded value) ++ [0x0a]
    else utf8 heading ++ name ++ (match variable_.value with
      | some value => 0x3d :: quote value
      | none => []) ++ [0x0a]

/-- Give a variable the value of an argument. -/
def assignArgument (name : Bytes) (adds : Bool) (value : Bytes) : Run Unit := do
  let former := ((← get).find? name).getD .absent
  let start := former.value.getD []
  if former.kind == .number then assign name (← calculate (if adds then start ++ 0x2b :: value else value))
  else assign name (if adds then start ++ value else value)

/-- Mark variables, and give them values where there are any. -/
def mark (heading : String) (has : Variable → Bool) (give : Variable → Variable) (args : List Bytes) : Run Nat := do
  let isExtended := (← get).isExtended
  let (given, args) ← optionsOf (if isExtended then ['p', 'f', 'n', 'a', 'A'] else ['p']) [] args
  if (!isExtended && !given.isEmpty) || args.isEmpty then
    say (listing heading has (← get))
    return 0
  let mut status := 0
  for arg in args do
    let (name, value) := assignment arg
    let adds := isExtended && name.getLast? == some 0x2b
    let name := if adds then name.dropLast else name
    if given.any (·.1 == 'f') then
      if !(← get).functions.any (·.1 == name) then
        complain (name ++ utf8 ": not a function")
        status := 1
    else if isExtended && !isName name then
      complainOfName arg
      status := 1
    else
      checkName name
      match value with
      | some value => assignArgument name adds value
      | none => pure ()
      let former := ((← get).find? name).getD .absent
      define name (if given.any (·.1 == 'n') then { former with exported := false } else give former)
  return status

def export_ (args : List Bytes) : Run Nat :=
  mark "export " (·.exported) (fun variable_ => { variable_ with exported := true }) args

def readonly_ (args : List Bytes) : Run Nat :=
  mark "readonly " (·.readOnly) (fun variable_ => { variable_ with readOnly := true }) args

/-- Keep variables for the end of the call, and give them values. -/
def keepLocals (args : List Bytes) : Run Nat := do
  let shell ← get
  if shell.functionDepth == 0 then fail (utf8 "not in a function")
  for arg in args do
    let (name, value) := assignment arg
    if name != [0x2d] then
      checkName name
      keepForCall name
      match value with
      | some value => assign name value
      | none => if ((← get).find? name).isNone then define name .absent
  return 0

/-- The letters behind plus signs at the beginning of arguments. -/
def removals : List Bytes → List Char × List Bytes
  | (0x2b :: letters) :: rest =>
    let (more, rest) := removals rest
    (letters.map (fun letter => Char.ofNat letter.toNat) ++ more, rest)
  | args => ([], args)

/-- Tell what variables are declared as. -/
def showDeclarations (args : List Bytes) : Run Nat := do
  let shell ← get
  if args.isEmpty then say ((inOrder shell fun _ => true).flatMap fun (name, variable_) => declaration shell name variable_)
  let mut status := 0
  for name in args do
    match shell.find? name, hasElements shell name with
    | none, false =>
      complain (name ++ utf8 ": not found")
      status := 1
    | found, _ => say (declaration shell name (found.getD .absent))
  return status

/-- Give a variable the attributes that letters ask for. -/
def withAttributes (added removed : List Char) (variable_ : Variable) : Variable :=
  let kind : Kind :=
    if added.contains 'i' then .number
    else if added.contains 'l' then .lower
    else if added.contains 'u' then .upper
    else if removed.any fun letter => ['i', 'l', 'u'].contains letter then .text
    else variable_.kind
  { variable_ with kind, exported := (variable_.exported || added.contains 'x') && !removed.contains 'x' }

/-- Declare variables, for the time of the call if there is one. -/
def declare_ (args : List Bytes) : Run Nat := do
  let shell ← get
  if shell.functionDepth == 0 && shell.command == some (utf8 "local") then
    failAs 1 (utf8 "can only be used in a function") []
  let (given, args) ← optionsOf "aAfFgiIlnrtuxp".toList [] args
  let added := given.map (·.1)
  let (removed, args) := removals args
  if added.contains 'p' then return ← showDeclarations args
  if added.contains 'F' || added.contains 'f' then
    let known := shell.functions.map (·.1)
    if args.isEmpty then
      if added.contains 'F' then
        say ((known.mergeSort fun first second => !Bytes.precedes second first).flatMap fun name =>
          utf8 "declare -f " ++ name ++ [0x0a])
      return 0
    if added.contains 'F' then say ((args.filter known.contains).flatMap fun name => name ++ [0x0a])
    return if args.all known.contains then 0 else 1
  if args.isEmpty then
    if added.isEmpty then say (listing "" (·.value.isSome) shell)
    else say (listing "declare " (fun variable_ => (added.contains 'x' && variable_.exported) ||
      (added.contains 'r' && variable_.readOnly) || (added.contains 'i' && variable_.kind == .number)) shell)
    return 0
  let mut status := 0
  for arg in args do
    let (name, value) := assignment arg
    let adds := name.getLast? == some 0x2b
    let name := if adds then name.dropLast else name
    let plain := name.takeWhile (· != 0x5b)
    if !isName plain || (plain != name && name.getLast? != some 0x5d) then
      complainOfName arg
      status := 1
    else if (value.isSome || shell.functionDepth > 0) && ((← get).find? plain).any (·.readOnly) then
      complain (plain ++ utf8 ": readonly variable")
      status := 1
    else
      if shell.functionDepth > 0 && !added.contains 'g' then
        let isKept := shell.locals.head?.any fun frame => frame.any (·.1 == plain)
        if !isKept then
          keepForCall plain
          define plain .absent
      if added.contains 'A' then modify fun shell => { shell with keyed := plain :: shell.keyed }
      if plain == name then
        let former := ((← get).find? name).getD .absent
        define name (withAttributes added removed former)
      match value with
      | some value => assignArgument (if plain == name then name else elementName plain (name.drop (plain.length + 1)).dropLast) adds value
      | none => pure ()
      if added.contains 'r' then
        let former := ((← get).find? plain).getD .absent
        define plain { former with readOnly := true }
  return status

def local_ (args : List Bytes) : Run Nat := do
  if (← get).isExtended then declare_ args else keepLocals args

def unset_ (args : List Bytes) : Run Nat := do
  let isExtended := (← get).isExtended
  let (given, names) ← optionsOf (if isExtended then ['v', 'f', 'n'] else ['v', 'f']) [] args
  let isFunction := given.getLast?.any (·.1 == 'f')
  let mut status := 0
  for name in names do
    let shell ← get
    let forgetFunction : Run Unit :=
      modify fun shell => { shell with functions := shell.functions.filter (·.1 != name) }
    if isFunction then forgetFunction
    else if !isExtended then
      checkName name
      unset name
    else
      let plain := name.takeWhile (· != 0x5b)
      if plain != name then unset (elementName plain (name.drop (plain.length + 1)).dropLast)
      else if (shell.find? name).any (·.readOnly) then
        complain (name ++ utf8 ": cannot unset: readonly variable")
        status := 1
      else if (shell.find? name).isSome || hasElements shell name then
        unsetList name
        modify fun shell => { shell with keyed := shell.keyed.filter (· != name) }
      else if given.isEmpty then forgetFunction
  return status

def set_ (args : List Bytes) : Run Nat := do
  if args.isEmpty then
    say (listing "" (·.value.isSome) (← get))
    return 0
  match ← switchAll (args.length + 1) args with
  | none => return 0
  | some args =>
    modify fun shell => { shell with args, optionIndex := 1, optionOffset := 0 }
    return 0

def shift_ (args : List Bytes) : Run Nat := do
  let shell ← get
  if shell.isExtended && args.length > 1 then dropLine (utf8 "too many arguments") []
  let count ← match args with
    | [] => pure 1
    | text :: _ =>
      let isNegative := text.head? == some 0x2d && (number? (text.drop 1)).isSome
      if shell.isExtended && isNegative then failAs 1 (text ++ utf8 ": shift count out of range") []
      numberOf text
  if count > shell.args.length then
    if shell.isExtended then return 1
    fail (utf8 "can't shift that many")
  set { shell with args := shell.args.drop count, optionIndex := 1, optionOffset := 0 }
  return 0

/-- Complain that a name stands for nothing. -/
def complainOfAlias (command : String) (name : Bytes) : Run Unit := do
  if (← get).isExtended then complain (name ++ utf8 ": not found")
  else
    let _ ← perform fun program => program.write 2 (utf8 s!"{command}: " ++ name ++ utf8 " not found\n")

def alias_ (args : List Bytes) : Run Nat := do
  let shell ← get
  let (_, args) ← if shell.isExtended then optionsOf ['p'] [] args else pure ([], args)
  let shown (entry : Bytes × Bytes) : Bytes :=
    if shell.isExtended then utf8 "alias " ++ entry.1 ++ utf8 "='" ++ entry.2.flatMap (fun byte =>
      if byte == 0x27 then utf8 "'\\''" else [byte]) ++ utf8 "'\n"
    else entry.1 ++ 0x3d :: quote entry.2 ++ [0x0a]
  if args.isEmpty then
    let aliases := (← get).aliases
    say ((if shell.isExtended then aliases.mergeSort fun first second => !Bytes.precedes second.1 first.1 else aliases).flatMap shown)
    return 0
  let mut status := 0
  for arg in args do
    match assignment arg with
    | (name, some value) =>
      modify fun shell => { shell with aliases := shell.aliases.filter (·.1 != name) ++ [(name, value)] }
    | (name, none) =>
      match (← get).aliases.find? (·.1 == name) with
      | some entry => say (shown entry)
      | none =>
        complainOfAlias "alias" name
        status := 1
  return status

def unalias_ (args : List Bytes) : Run Nat := do
  let (given, names) ← optionsOf ['a'] [] args
  if !given.isEmpty then
    modify fun shell => { shell with aliases := [] }
    return 0
  if names.isEmpty && (← get).isExtended then failUsage
  let mut status := 0
  for name in names do
    if (← get).aliases.any (·.1 == name) then
      modify fun shell => { shell with aliases := shell.aliases.filter (·.1 != name) }
    else
      complainOfAlias "unalias" name
      status := 1
  return status

/-- The known choices of the extended language, with the letters of those that change
anything. -/
def knownChoices : List (String × Option Char) := [
  ("autocd", none), ("cdspell", none), ("checkwinsize", none), ("dotglob", none), ("execfail", none), ("expand_aliases", none),
  ("extglob", none), ("failglob", none), ("globstar", none), ("inherit_errexit", none), ("lastpipe", none),
  ("nocaseglob", none), ("nocasematch", none), ("nullglob", some emptyMatches), ("sourcepath", none), ("xpg_echo", none)]

def shopt_ (args : List Bytes) : Run Nat := do
  let (given, names) ← optionsOf ['p', 'q', 's', 'u', 'o'] [] args
  let asks (letter : Char) : Bool := given.any (·.1 == letter)
  let mut status := 0
  for name in names do
    match knownChoices.find? (utf8 ·.1 == name) with
    | none =>
      complain (name ++ utf8 ": invalid shell option name")
      status := 1
    | some (_, letter) =>
      if asks 's' || asks 'u' then
        match letter with
        | some letter => switch letter (asks 's')
        | none => pure ()
      else
        let isOn := letter.any (← get).hasOption
        if asks 'p' then say (utf8 (if isOn then "shopt -s " else "shopt -u ") ++ name ++ [0x0a])
        else if !asks 'q' then
          let padding := utf8 (String.ofList (List.replicate (15 - name.length) ' '))
          say (name ++ padding ++ utf8 (if isOn then "\ton\n" else "\toff\n"))
        if !isOn then status := 1
  return status

end ExitParity.Shell.Builtin
