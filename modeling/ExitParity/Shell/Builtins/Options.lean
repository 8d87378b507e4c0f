import ExitParity.Shell.State

namespace ExitParity.Shell

/-- How the commands of the extended language are called. -/
def usages : List (String × String) := [
  (".", ". filename [arguments]"), ("alias", "alias [-p] [name[=value] ... ]"),
  ("builtin", "builtin [shell-builtin [arg ...]]"), ("cd", "cd [-L|[-P [-e]] [-@]] [dir]"),
  ("command", "command [-pVv] command [arg ...]"),
  ("declare", "declare [-aAfFgiIlnrtux] [name[=value] ...] or declare -p [-aAfFilnrtux] [name ...]"),
  ("dirs", "dirs [-clpv] [+N] [-N]"), ("disown", "disown [-h] [-ar] [jobspec ... | pid ...]"),
  ("enable", "enable [-a] [-dnps] [-f filename] [name ...]"), ("eval", "eval [arg ...]"),
  ("exec", "exec [-cl] [-a name] [command [argument ...]] [redirection ...]"),
  ("export", "export [-fn] [name[=value] ...] or export -p"), ("getopts", "getopts optstring name [arg ...]"),
  ("hash", "hash [-lr] [-p pathname] [-dt] [name ...]"),
  ("history", "history [-c] [-d offset] [n] or history -anrw [filename] or history -ps arg [arg...]"),
  ("jobs", "jobs [-lnprs] [jobspec ...] or jobs -x command [args]"),
  ("kill", "kill [-s sigspec | -n signum | -sigspec] pid | jobspec ... or kill -l [sigspec]"),
  ("local", "local [option] name[=value] ..."),
  ("mapfile", "mapfile [-d delim] [-n count] [-O origin] [-s count] [-t] [-u fd] [-C callback] [-c quantum] [array]"),
  ("popd", "popd [-n] [+N | -N]"), ("printf", "printf [-v var] format [arguments]"),
  ("pushd", "pushd [-n] [+N | -N | dir]"), ("pwd", "pwd [-LP]"),
  ("read", "read [-ers] [-a array] [-d delim] [-i text] [-n nchars] [-N nchars] [-p prompt] [-t timeout] [-u fd] [name ...]"),
  ("readarray",
    "readarray [-d delim] [-n count] [-O origin] [-s count] [-t] [-u fd] [-C callback] [-c quantum] [array]"),
  ("readonly", "readonly [-aAf] [name[=value] ...] or readonly -p"),
  ("set", "set [-abefhkmnptuvxBCEHPT] [-o option-name] [--] [-] [arg ...]"),
  ("shopt", "shopt [-pqsu] [-o] [optname ...]"), ("source", "source filename [arguments]"), ("times", "times"),
  ("trap", "trap [-lp] [[arg] signal_spec ...]"), ("type", "type [-afptP] name [name ...]"),
  ("typeset", "typeset [-aAfFgiIlnrtux] name[=value] ... or typeset -p [-aAfFilnrtux] [name ...]"),
  ("ulimit", "ulimit [-SHabcdefiklmnpqrstuvxPRT] [limit]"), ("umask", "umask [-p] [-S] [mode]"),
  ("unalias", "unalias [-a] name [name ...]"), ("unset", "unset [-f] [-v] [-n] [name ...]"),
  ("wait", "wait [-fn] [-p var] [id ...]")]

/-- Tell how the command is called in the extended language, and give it up. -/
def failUsage {α : Type} : Run α := do
  let name := (← get).command.getD []
  let usage := ((usages.find? (utf8 ·.1 == name)).map (·.2)).getD ""
  let _ ← perform fun program => program.write 2 (name ++ utf8 s!": usage: {usage}\n")
  setStatus 2
  throw .failed

/-- Complain about an option, and give the command up. -/
def failOption {α : Type} (extended core : Bytes) : Run α := do
  if !(← get).isExtended then fail core
  complain extended
  failUsage

/-- Take letters behind a dash. A letter with a value has it behind itself or
as the next argument. -/
def takeLetters (allowed withValue : List Char) (args : List Bytes) :
    Bytes → Run (List (Char × Bytes) × List Bytes)
  | [] => return ([], args)
  | byte :: rest => do
    let letter := Char.ofNat byte.toNat
    if withValue.contains letter then
      match rest, args with
      | [], [] => failOption (0x2d :: byte :: utf8 ": option requires an argument") (utf8 "No arg for -" ++ byte :: utf8 " option")
      | [], value :: args => return ([(letter, value)], args)
      | value, args => return ([(letter, value)], args)
    else if allowed.contains letter then
      let (more, args) ← takeLetters allowed withValue args rest
      return ((letter, []) :: more, args)
    else failOption (0x2d :: byte :: utf8 ": invalid option") (utf8 "Illegal option -" ++ [byte])

/-- Take the options at the beginning of arguments. -/
def takeOptions (allowed withValue : List Char) : Nat → List Bytes → Run (List (Char × Bytes) × List Bytes)
  | 0, args => return ([], args)
  | fuel + 1, args => do
    match args with
    | (0x2d :: letter :: letters) :: rest =>
      if letter == 0x2d && letters.isEmpty then return ([], rest)
      let (found, rest) ← takeLetters allowed withValue rest (letter :: letters)
      let (more, rest) ← takeOptions allowed withValue fuel rest
      return (found ++ more, rest)
    | args => return ([], args)

/-- The options of a command of the shell, and its other arguments. -/
def optionsOf (allowed withValue : List Char) (args : List Bytes) : Run (List (Char × Bytes) × List Bytes) :=
  takeOptions allowed withValue (args.length + 1) args

/-- A number argument. -/
def numberOf (text : Bytes) : Run Nat := do
  match number? text with
  | some value => return value
  | none => failAs 1 (text ++ utf8 ": numeric argument required") (utf8 "Illegal number: " ++ text)

/-- The options of the shell by their long names. -/
def optionNames : List (String × Option Char) := [
  ("errexit", some 'e'), ("noglob", some 'f'), ("ignoreeof", some 'I'), ("interactive", some 'i'), ("monitor", some 'm'),
  ("noexec", some 'n'), ("stdin", some 's'), ("xtrace", some 'x'), ("verbose", some 'v'), ("vi", some 'V'),
  ("emacs", some 'E'), ("noclobber", some 'C'), ("allexport", some 'a'), ("notify", some 'b'), ("nounset", some 'u'),
  ("privileged", some 'p'), ("nolog", none), ("debug", none)]

/-- The options of the extended language, and whether those without letters are on. -/
def addedOptionNames : List (String × Option Char × Bool) := [
  ("allexport", some 'a', false), ("braceexpand", none, true), ("emacs", none, false), ("errexit", some 'e', false),
  ("errtrace", some 'E', false), ("functrace", some 'T', false), ("hashall", none, true), ("histexpand", some 'H', false),
  ("history", none, false), ("ignoreeof", none, false), ("interactive-comments", none, true), ("keyword", some 'k', false),
  ("monitor", some 'm', false), ("noclobber", some 'C', false), ("noexec", some 'n', false), ("noglob", some 'f', false),
  ("nolog", none, false), ("notify", some 'b', false), ("nounset", some 'u', false), ("onecmd", some 't', false),
  ("physical", some 'P', false), ("pipefail", some 'F', false), ("posix", none, false), ("privileged", some 'p', false),
  ("verbose", some 'v', false), ("vi", none, false), ("xtrace", some 'x', false)]

/-- The letters that can be turned on and off in the extended language. -/
def addedSwitches : List Char := "abefhkmnptuvxBCEHPT".toList

def switch (letter : Char) (on : Bool) : Run Unit :=
  modify fun shell =>
    let others := shell.options.filter (· != letter.toUInt8)
    { shell with options := if on then others ++ [letter.toUInt8] else others }

def showOptions (readable : Bool) : Run Unit := do
  let shell ← get
  let isOn (letter : Option Char) : Bool := letter.any shell.hasOption
  let padded (name : String) : Bytes := utf8 (name ++ String.ofList (List.replicate (16 - name.length) ' '))
  if shell.isExtended then
    say (addedOptionNames.flatMap fun (name, letter, on) =>
      let on := letter.elim on shell.hasOption
      let padding := String.ofList (List.replicate (15 - name.length) ' ')
      if readable then utf8 (name ++ padding ++ (if on then "\ton\n" else "\toff\n"))
      else utf8 ((if on then "set -o " else "set +o ") ++ name ++ "\n"))
  else if readable then
    say (utf8 "Current option settings\n" ++ optionNames.flatMap fun (name, letter) =>
      padded name ++ utf8 (if isOn letter then "on\n" else "off\n"))
  else
    say (optionNames.flatMap fun (name, letter) =>
      utf8 ((if isOn letter then "set -o " else "set +o ") ++ name ++ "\n"))

/-- Turn an option on or off by its long name. -/
def switchNamed (on : Bool) : Option Bytes → Run Unit
  | none => showOptions on
  | some name => do
    let isExtended := (← get).isExtended
    let known := if isExtended then addedOptionNames.map fun (name, letter, _) => (name, letter) else optionNames
    match known.find? (utf8 ·.1 == name) with
    | some (_, some letter) => switch letter on
    | some (_, none) => return ()
    | none => failAs 2 (name ++ utf8 ": invalid option name") (utf8 "Illegal option -o " ++ name)

def switchLetters (on : Bool) (rest : List Bytes) : Bytes → Run (List Bytes)
  | [] => return rest
  | byte :: letters => do
    let letter := Char.ofNat byte.toNat
    if letter == 'o' then
      switchNamed on rest.head?
      switchLetters on (rest.drop 1) letters
    else if (if (← get).isExtended then addedSwitches else optionLetters).contains letter then
      switch letter on
      switchLetters on rest letters
    else failOption ((if on then 0x2d else 0x2b) :: byte :: utf8 ": invalid option") (utf8 "Illegal option -" ++ [byte])

/-- Turn options on and off. The outcome is the arguments behind them, if they
are to be the new parameters. -/
def switchAll : Nat → List Bytes → Run (Option (List Bytes))
  | 0, _ => return none
  | fuel + 1, args => do
    match args with
    | [] => return none
    | (0x2d :: letters) :: rest =>
      if letters.isEmpty then
        switch 'x' false
        switch 'v' false
        return if rest.isEmpty then none else some rest
      if letters == [0x2d] then return some rest
      switchAll fuel (← switchLetters true rest letters)
    | (0x2b :: letters) :: rest => switchAll fuel (← switchLetters false rest letters)
    | args => return some args

end ExitParity.Shell
