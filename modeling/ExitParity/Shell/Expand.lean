import ExitParity.Shell.Arithmetic
import ExitParity.Shell.Fields
import ExitParity.Shell.State

namespace ExitParity.Shell

/-- What the commands in a word print, and the paths by which it can be read. -/
structure Outputs where
  text : Command → Run Bytes
  channel : Command → Bool → Run Bytes

/-- How deep words can be nested. -/
def wordDepth : Nat := 100000

def rootHome : Bytes := utf8 "/root"

/-- The directory that a tilde with a name behind it stands for. -/
def homeOf? (shell : Shell) (name : Bytes) : Option Bytes :=
  if name.isEmpty then
    ((shell.valueOf? (utf8 "HOME")).filter (!·.isEmpty)).or (if shell.isExtended then some rootHome else none)
  else if name == utf8 "root" then some rootHome
  else none

/-- Resolve a tilde at the beginning of a text; in an assignment the name
behind it also ends at a colon. The name may end the text only at its end. -/
def tilde? (shell : Shell) (inAssignment isLast : Bool) (text : Bytes) : Option (Bytes × Bytes) :=
  match text with
  | 0x7e :: rest =>
    let name := rest.takeWhile fun byte => byte != 0x2f && !(inAssignment && byte == 0x3a)
    let after := rest.drop name.length
    if after.isEmpty && !isLast then none else (shell.homeOf? name).map (·, after)
  | _ => none

/-- Unquoted bytes of a word, with their tildes resolved where one may stand. -/
def literalFragments (shell : Shell) (inAssignment isLast loose : Bool) : Nat → Bool → Bytes → List Fragment
  | 0, _, _ => []
  | _, _, [] => []
  | fuel + 1, mayBegin, byte :: rest =>
    match if mayBegin then shell.tilde? inAssignment isLast (byte :: rest) else none with
    | some (home, after) =>
      Fragment.ofBytes true home ++ literalFragments shell inAssignment isLast loose fuel false after
    | none =>
      (if loose then .loose byte else .fixed byte false) ::
        literalFragments shell inAssignment isLast loose fuel (inAssignment && byte == 0x3a) rest

/-- What some values of a list yield, if there are any. Only where words are
split do quoted values stay apart. -/
def listFragments? (shell : Shell) (values : List Bytes) (spread quoted splits : Bool) : Option (List Fragment) :=
  match values with
  | [] => none
  | first :: rest =>
    let apart := splits && (!quoted || spread)
    let gap := if apart then [Fragment.cut quoted] else Fragment.ofBytes quoted shell.joint
    let whole (arg : Bytes) := (if apart && quoted then [Fragment.hold] else []) ++ Fragment.ofBytes quoted arg
    some (whole first ++ rest.flatMap fun arg => gap ++ whole arg)

/-- What a parameter yields, if it has a value. -/
def valueFragments? (shell : Shell) (name : Bytes) (quoted splits : Bool) : Option (List Fragment) :=
  if isList name then shell.listFragments? (shell.listOf name) (isSpread name) quoted splits
  else (shell.scalar? name).map (Fragment.ofBytes quoted)

/-- Whether a parameter counts as having a value. -/
def isPresent (shell : Shell) (name : Bytes) (colon : Bool) : Bool :=
  if isList name then
    let values := shell.listOf name
    !values.isEmpty && (!colon || values.any (!·.isEmpty) || values.length > 1)
  else (shell.scalar? name).any fun value => !colon || !value.isEmpty

/-- Where a word stands. -/
structure Standing where
  splits : Bool
  inAssignment : Bool

/-- The variables whose values are made when they are asked for. -/
def livingNames : List String := ["BASHPID", "BASH_SOURCE", "EPOCHSECONDS", "FUNCNAME", "LINENO", "PIPESTATUS", "RANDOM", "SECONDS"]

/-- Let a variable have the value that it has now. -/
def refresh (name : Bytes) : Run Unit := do
  let shell ← get
  let store (value : Nat) : Run Unit := define name { Variable.absent with value := some (utf8 (toString value)) }
  match Utf8.display name with
  | "BASHPID" => store shell.program.process
  | "EPOCHSECONDS" => do
    let now ← perform fun _ => .look fun machine => machine.began + machine.clock
    store (now / 10 ^ 9)
  | "BASH_SOURCE" =>
    assignList name false (shell.calls.map (·.source) ++ if shell.isOfFile then [shell.zeroth] else [])
  | "FUNCNAME" =>
    if shell.calls.isEmpty then unsetList name
    else assignList name false (shell.calls.map (·.name) ++ if shell.isOfFile then [utf8 "main"] else [])
  | "LINENO" => store shell.line
  | "PIPESTATUS" => assignList name false (shell.pipeStatus.map fun status => utf8 (toString status))
  | "RANDOM" => do
    let chance := (shell.chance * 1103515245 + 12345) % 2 ^ 31
    modify fun shell => { shell with chance }
    store (chance / 2 ^ 16)
  | "SECONDS" => do
    let clock ← perform fun _ => .look fun machine => machine.clock
    store (clock / 10 ^ 9)
  | _ => return ()

/-- Let the variables that a text names have the values that they have now. -/
def refreshNamed (text : Bytes) : Run Unit := do
  if (← get).isExtended then
    for name in livingNames do
      if Bytes.contains (utf8 name) text then refresh (utf8 name)

/-- The text of an expression's value. Variables that it sets are set. -/
def calculate (text : Bytes) : Run Bytes := do
  refreshNamed text
  let shell ← get
  match Arithmetic.evaluate shell.dialect text shell.valueOf? with
  | .ok (value, assigned) =>
    for (name, value) in assigned do
      assign name (utf8 (toString value))
    return utf8 (toString value)
  | .error fault =>
    let expression := if shell.isExtended then text.dropWhile Printing.isSpace else text
    let message := fault.message shell.dialect expression
    dropLine message message

/-- The part of a text or a list from an offset on, both counted from the end
when they are below zero. -/
def cut {α : Type} (text : List α) (offset : Int) (length : Option Int) : List α :=
  let start := if offset < 0 then (text.length : Int) + offset else offset
  if start < 0 then []
  else
    let rest := text.drop start.toNat
    match length with
    | none => rest
    | some length => rest.take (if length < 0 then ((rest.length : Int) + length).toNat else length.toNat)

/-- A text with something in the place of what a pattern matches, the longest
first. -/
def exchangeAll (all : Bool) (items : List PatternItem) (replacement : Bytes) : Nat → Bytes → Bytes
  | 0, text => text
  | _, [] => []
  | fuel + 1, byte :: rest =>
    match (Pattern.lengths items (byte :: rest)).head? with
    | some (length + 1) =>
      let after := (byte :: rest).drop (length + 1)
      replacement ++ if all then exchangeAll all items replacement fuel after else after
    | _ => byte :: exchangeAll all items replacement fuel rest

/-- The same with a pattern that may be bound to the beginning or to the end. -/
def exchange (all : Bool) (pattern : Marked) (replacement text : Bytes) : Bytes :=
  match pattern with
  | (0x23, false) :: pattern =>
    match (Pattern.lengths (Pattern.ofMarked pattern) text).head? with
    | some length => replacement ++ text.drop length
    | none => text
  | (0x25, false) :: pattern =>
    match (Pattern.lengths (Pattern.ofMarked pattern).reverse text.reverse).head? with
    | some length => text.take (text.length - length) ++ replacement
    | none => text
  | pattern =>
    if pattern.isEmpty then text else exchangeAll all (Pattern.ofMarked pattern) replacement (text.length + 1) text

/-- A pattern in which a caret in front of a set stands for what is not in it, as
the extended language has it. -/
def plainBrackets (shell : Shell) (pattern : Marked) : Marked :=
  if !shell.isExtended then pattern
  else
    let rec go : Marked → Marked
      | (0x5b, false) :: (0x5e, false) :: rest => (0x5b, false) :: (0x21, false) :: go rest
      | mark :: rest => mark :: go rest
      | [] => []
    go pattern

def patternOf (shell : Shell) (pattern : Marked) : List PatternItem := Pattern.ofMarked (shell.plainBrackets pattern)

mutual

/-- Expand the parts of a word. -/
def expandParts (outputs : Outputs) : Nat → Standing → Bool → Bool → Word → Run (List Fragment)
  | 0, _, _, _, _ => return []
  | _, _, _, _, [] => return []
  | fuel + 1, standing, isFirst, inner, part :: rest => do
    let here ← match part with
      | .literal bytes true => pure (.hold :: Fragment.ofBytes true bytes)
      | .literal bytes false => do
        pure ((← get).literalFragments standing.inAssignment rest.isEmpty inner (bytes.length + 1) isFirst bytes)
      | .output script quoted => do
        pure (Fragment.ofBytes quoted (← outputs.text script))
      | .arithmetic expression quoted => do
        let text := Fragment.text (← expandParts outputs fuel ⟨false, false⟩ false false expression)
        pure (Fragment.ofBytes quoted (← calculate text))
      | .parameter name use quoted => do
        refreshNamed name
        expandParameter outputs fuel standing name use quoted
      | .element list index use quoted => do
        refreshNamed list
        expandParameter outputs fuel standing (← elementOf outputs fuel list index) use quoted
      | .channel script isRead => do
        pure (Fragment.ofBytes true (← outputs.channel script isRead))
    return here ++ (← expandParts outputs fuel standing false inner rest)

/-- Expand a parameter. -/
def expandParameter (outputs : Outputs) : Nat → Standing → Bytes → Use → Bool → Run (List Fragment)
  | 0, _, _, _, _ => return []
  | fuel + 1, standing, name, use, quoted => do
    let value (shell : Shell) : List Fragment := (shell.valueFragments? name quoted standing.splits).getD []
    let missing {α : Type} (text : String) : Run α := do
      let text := name ++ utf8 s!": {text}"
      failFor text text
    let shell ← get
    match use with
    | .malformed text => dropLine (text ++ utf8 ": bad substitution") (utf8 "Bad substitution")
    | .replaced substitute colon word =>
      let isPresent := shell.isPresent name colon
      match substitute with
      | .whenMissing =>
        if isPresent then return value shell
        else expandParts outputs fuel standing true (!quoted) word
      | .whenPresent =>
        if isPresent then expandParts outputs fuel standing true (!quoted) word
        else return []
      | .assigned =>
        if !isPresent then
          let text := Fragment.text (← expandParts outputs fuel ⟨false, false⟩ true false word)
          if !isName name then missing "bad variable name"
          assign name text
        return value (← get)
      | .complaint =>
        if isPresent then return value shell
        if word.isEmpty then
          missing (if !colon then "parameter not set" else if shell.isExtended then "parameter null or not set"
            else "parameter not set or null")
        let text := Fragment.text (← expandParts outputs fuel ⟨false, false⟩ true false word)
        failFor (name ++ utf8 ": " ++ text) (name ++ utf8 ": " ++ text)
    | use =>
      if shell.hasOption 'u' && !isList name && !shell.isPresent name false then
        let shown := if isName (name.takeWhile (· != 0x5b)) then name else 0x24 :: name
        failFor (shown ++ utf8 ": unbound variable") (name ++ utf8 ": parameter not set")
      let isParted := shell.isExtended && isList name
      -- what a change makes of the value, or of each value of a list
      let changed (change : Bytes → Bytes) : List Fragment :=
        if isParted then
          (shell.listFragments? ((shell.listOf name).map change) (isSpread name) quoted standing.splits).getD []
        else Fragment.ofBytes quoted (change (Fragment.text ((shell.valueFragments? name true false).getD [])))
      match use with
      | .indirect =>
        let target := (shell.scalar? name).getD []
        refreshNamed target
        return ((← get).valueFragments? target quoted standing.splits).getD []
      | .indices =>
        let list := name.take (name.length - 3)
        let found := if isList name then (shell.elements list).map (·.1) else []
        return (shell.listFragments? found (isSpread name) quoted standing.splits).getD []
      | .names =>
        let found := ((shell.bindings.filter fun entry => isName entry.1 && name.dropLast.isPrefixOf entry.1).map (·.1)).mergeSort
          fun first second => !Bytes.precedes second first
        return (shell.listFragments? found (isSpread (name.drop (name.length - 1))) quoted standing.splits).getD []
      | .quoted =>
        if shell.isPresent name false then return changed fun value => 0x27 :: value.flatMap (fun byte =>
          if byte == 0x27 then utf8 "'\\''" else [byte]) ++ [0x27]
        else return []
      | .length =>
        if isParted then return Fragment.ofBytes quoted (utf8 (toString (shell.listOf name).length))
        let bytes := Fragment.text ((shell.valueFragments? name true false).getD [])
        return Fragment.ofBytes quoted (utf8 (toString bytes.length))
      | .trimmed fromEnd longest pattern =>
        match shell.valueFragments? name true false with
        | none =>
          let _ ← expandParts outputs fuel ⟨false, false⟩ true false pattern
          return []
        | some _ =>
          let marked := Fragment.marked (← expandParts outputs fuel ⟨false, false⟩ true false pattern)
          let items := shell.patternOf marked
          return changed ((if fromEnd then Pattern.trimEnd else Pattern.trimStart) longest items)
      | .part offset length =>
        let start ← measure outputs fuel offset
        let length? ← match length with
          | some length => do pure (some (← measure outputs fuel length))
          | none => pure none
        if isParted then
          let values := if name.length ≤ 1 then shell.zeroth :: shell.args else shell.listOf name
          return (shell.listFragments? (cut values start length?) (isSpread name) quoted standing.splits).getD []
        return changed (cut · start length?)
      | .exchanged all pattern replacement =>
        let marked := Fragment.marked (← expandParts outputs fuel ⟨false, false⟩ false false pattern)
        let replacement := Fragment.text (← expandParts outputs fuel ⟨false, false⟩ false false replacement)
        return changed (exchange all (shell.plainBrackets marked) replacement)
      | .recased upper all =>
        let change := if upper then Printing.upper else Printing.lower
        return changed fun whole => if all then whole.map change else (whole.take 1).map change ++ whole.drop 1
      | _ => return value shell

/-- The name of the element of a list that an index stands for. -/
def elementOf (outputs : Outputs) : Nat → Bytes → Word → Run Bytes
  | 0, list, _ => return list
  | fuel + 1, list, index => do
    match Word.plain? index with
    | some [0x40] => return list ++ utf8 "[@]"
    | some [0x2a] => return list ++ utf8 "[*]"
    | _ =>
      if (← get).keyed.contains list then
        let key := Fragment.text (← expandParts outputs fuel ⟨false, false⟩ false false index)
        return list ++ 0x5b :: key ++ [0x5d]
      let number ← measure outputs fuel index
      if number ≥ 0 then return elementName list (utf8 (toString number))
      -- below zero elements are counted from the last one
      let ending : Nat := ((((← get).elements list).getLast?.bind (number? ·.1)).map (· + 1)).getD 0
      return elementName list (utf8 (toString ((ending : Int) + number)))

/-- The number that a word stands for. -/
def measure (outputs : Outputs) : Nat → Word → Run Int
  | 0, _ => return 0
  | fuel + 1, word => do
    let text := Fragment.text (← expandParts outputs fuel ⟨false, false⟩ false false word)
    return (Printing.leadingNumber (← calculate text)).elim 0 (·.1)

end

/-- A word as one text with its quotes marked. -/
def markedOf (outputs : Outputs) (word : Word) : Run Marked := do
  return Fragment.marked (← expandParts outputs wordDepth ⟨false, false⟩ true false word)

/-- A word as one text. -/
def textOf (outputs : Outputs) (word : Word) : Run Bytes := do
  return (← markedOf outputs word).map (·.1)

/-- The value of an assignment. -/
def valueOf (outputs : Outputs) (word : Word) : Run Bytes := do
  return Fragment.text (← expandParts outputs wordDepth ⟨false, true⟩ true false word)

/-- The letter of the choice that a pattern which no file has stands for nothing. -/
def emptyMatches : Char := 'N'

/-- The fields of a word, each with the files that it stands for. -/
def fieldsOf (outputs : Outputs) (word : Word) : Run (List Bytes) := do
  let fragments ← expandParts outputs wordDepth ⟨true, false⟩ true false word
  let shell ← get
  let fields := Fragment.fields shell.separators fragments none false
  if shell.hasOption 'f' || !fields.any Pattern.isSpecial then return fields.map fun field => field.map (·.1)
  else
    let tree ← perform fun program => program.tree
    return fields.flatMap fun field =>
      if !Pattern.isSpecial field then [field.map (·.1)]
      else match filesNamed tree (shell.plainBrackets field) with
        | [] => if shell.hasOption emptyMatches then [] else [field.map (·.1)]
        | found => found

end ExitParity.Shell
