import ExitParity.Host.Editor.Script

/-! Reading a script. It comes in fragments, and a command can begin in one and
go on in the next. -/

namespace ExitParity.Editor

/-- A fragment of a script: an argument by its number, or a file. -/
inductive Fragment where
  | argument (number : Nat)
  | file (name : Bytes)

/-- Which of the commands a text belongs to. -/
inductive TextKind where
  | append
  | insert
  | change

def TextKind.order : TextKind → Bytes → Order
  | .append, text => .append text
  | .insert, text => .insert text
  | .change, text => .change text

/-- A script that is being read: what is left of a fragment and how much of it
was read, the commands so far, the blocks that are open, and the command whose
text goes on in the next fragment. -/
structure Draft where
  fragment : Fragment
  rest : Bytes
  consumed : Nat
  line : Nat
  extended : Bool
  commands : Array Command
  labels : List (Bytes × Nat)
  blocks : List (Nat × Spot)
  outputs : List Bytes
  pending : Option (TextKind × Nat × Bytes)
  quiet : Bool

abbrev Reading := StateT Draft (Except ScriptFault)

namespace Reading

def spot (draft : Draft) : Spot :=
  match draft.fragment with
  | .argument number => .fragment number draft.consumed
  | .file name => .file name draft.line

def refuse {α : Type} (mistake : Mistake) : Reading α := do
  throw (.mistake (spot (← get)) mistake)

/-- Take the next byte. -/
def take : Reading (Option UInt8) := do
  let draft ← get
  match draft.rest with
  | [] => return none
  | byte :: rest =>
    set { draft with rest, consumed := draft.consumed + 1, line := if byte == 0x0a then draft.line + 1 else draft.line }
    return some byte

/-- Put a byte back. -/
def putBack : Option UInt8 → Reading Unit
  | none => return ()
  | some byte => modify fun draft =>
    { draft with
      rest := byte :: draft.rest
      consumed := draft.consumed - 1
      line := if byte == 0x0a then draft.line - 1 else draft.line }

def isBlank (byte : UInt8) : Bool := byte == 0x20 || byte == 0x09

/-- Take all bytes of a kind that come next. -/
def takeAll (kind : UInt8 → Bool) : Reading Bytes := do
  let draft ← get
  let taken := draft.rest.takeWhile kind
  set { draft with
    rest := draft.rest.drop taken.length
    consumed := draft.consumed + taken.length
    line := draft.line + taken.count 0x0a }
  return taken

/-- Take the next byte that is no blank. -/
def takeFilled : Reading (Option UInt8) := do
  let _ ← takeAll isBlank
  take

/-- Take the digits of a number that begins with a byte. -/
def number (first : Option UInt8) : Reading Nat := do
  putBack first
  return Printing.digits 10 (← takeAll Printing.isDecimal)

def endCommand : Reading Unit := do
  match ← takeFilled with
  | none | some 0x0a | some 0x3b => return ()
  | some 0x7d => putBack (some 0x7d)
  | some 0x23 => putBack (some 0x23)
  | some _ => refuse .extraText

/-- The value of an escape that gives a byte by its number: in the decimal, the
octal or the hexadecimal system, or as a control character. -/
def numbered? : Bytes → Option (UInt8 × Bytes)
  | 0x64 :: rest => digits 10 3 rest
  | 0x6f :: rest => digits 8 3 rest
  | 0x78 :: rest => digits 16 2 rest
  | 0x63 :: byte :: rest => some (Printing.upper byte ^^^ 0x40, rest)
  | _ => none
where
  digits (base most : Nat) (rest : Bytes) : Option (UInt8 × Bytes) :=
    let found := (rest.take most).takeWhile (Printing.digitValue · < base)
    if found.isEmpty then none else some ((Printing.digits base found).toUInt8, rest.drop found.length)

/-- The control character that a letter stands for. -/
def control? (letter : UInt8) : Option UInt8 :=
  [(0x61, 0x07), (0x66, 0x0c), (0x6e, 0x0a), (0x72, 0x0d), (0x74, 0x09), (0x76, 0x0b)].lookup letter

/-- Take a text up to a delimiter, which stands for itself behind a backslash.
In an expression the delimiter does not end a bracket. -/
def delimited (delimiter : UInt8) (isExpression : Bool) : Nat → Bool → Bytes → Reading (Option Bytes)
  | 0, _, _ => return none
  | fuel + 1, inBracket, before => do
    match ← take with
    | none => return none
    | some 0x0a =>
      putBack (some 0x0a)
      return none
    | some byte =>
      if byte == delimiter && !inBracket then return some before.reverse
      else if byte == 0x5c then
        match ← take with
        | none => return none
        | some 0x6e =>
          if isExpression then delimited delimiter isExpression fuel inBracket (0x0a :: before)
          else delimited delimiter isExpression fuel inBracket (0x6e :: 0x5c :: before)
        | some 0x0a => delimited delimiter isExpression fuel inBracket (0x0a :: (if isExpression then before else 0x5c :: before))
        | some byte =>
          if byte == delimiter && (isExpression || byte != 0x26) then
            delimited delimiter isExpression fuel inBracket (byte :: before)
          else delimited delimiter isExpression fuel inBracket (byte :: 0x5c :: before)
      else if isExpression && !inBracket && byte == 0x5b then
        let sign ← takeAll (· == 0x5e)
        let close := (← get).rest.head? == some 0x5d && delimiter != 0x5d
        if close then
          let _ ← take
        delimited delimiter isExpression fuel true ((if close then [0x5d] else []) ++ sign ++ byte :: before)
      else if isExpression && inBracket && byte == 0x5b then
        match (← get).rest with
        | kind :: rest =>
          if kind == 0x3a || kind == 0x2e || kind == 0x3d then
            let name := rest.takeWhile fun byte => byte != kind && byte != 0x0a
            if rest.drop name.length |>.take 2 |> (· == [kind, 0x5d]) then
              let count := name.length + 3
              modify fun draft => { draft with rest := draft.rest.drop count, consumed := draft.consumed + count }
              delimited delimiter isExpression fuel true (0x5d :: kind :: name.reverse ++ kind :: 0x5b :: before)
            else delimited delimiter isExpression fuel true (byte :: before)
          else delimited delimiter isExpression fuel true (byte :: before)
        | [] => delimited delimiter isExpression fuel true (byte :: before)
      else delimited delimiter isExpression fuel (inBracket && byte != 0x5d) (byte :: before)

def takeDelimited (delimiter : UInt8) (isExpression : Bool) : Reading (Option Bytes) := do
  delimited delimiter isExpression ((← get).rest.length + 1) false []

/-- Put the bytes that are given by their numbers into an expression. -/
def spelled : Nat → Bytes → Bytes
  | fuel + 1, 0x5c :: rest =>
    match numbered? rest with
    | some (byte, after) =>
      byte :: spelled fuel after
    | none => 0x5c :: rest.take 1 ++ spelled fuel (rest.drop 1)
  | fuel + 1, byte :: rest => byte :: spelled fuel rest
  | _, _ => []

/-- Read an expression. The outcome tells also how many groups it has. -/
def search (text : Bytes) (ignoresCase multiline : Bool) : Reading (Search × Option Nat) := do
  let extended := (← get).extended
  let manner : Manner := { extended, lenient := false, ignoresCase, escapes := true, multiline }
  if text.isEmpty then
    if ignoresCase || multiline then refuse .optionsOnNothing
    return (⟨manner, none⟩, none)
  match Expression.ofLetters manner (Letters.ofBytes true (spelled text.length text)) with
  | .ok (expression, groups) => return (⟨manner, some expression⟩, some groups)
  | .error fault => refuse (.expression fault)

/-- Read the letters behind the expression of an address. -/
def searchOptions : Nat → Bool → Bool → Reading (Bool × Bool)
  | 0, ignoresCase, multiline => return (ignoresCase, multiline)
  | fuel + 1, ignoresCase, multiline => do
    match ← takeFilled with
    | some 0x49 => searchOptions fuel true multiline
    | some 0x4d => searchOptions fuel ignoresCase true
    | byte =>
      putBack byte
      return (ignoresCase, multiline)

/-- What an address can be: a line, or the distance from one. -/
inductive Address where
  | place (place : Place)
  | after (count : Nat)
  | multiple (step : Nat)

/-- Read an address that begins with a byte, if it is the beginning of one. -/
def address (first : Option UInt8) : Reading (Option Address) := do
  match first with
  | some 0x24 => return some (.place .last)
  | some byte =>
    if byte == 0x2f || byte == 0x5c then
      let delimiter ← if byte == 0x5c then take else pure (some byte)
      let some delimiter := delimiter | refuse .unterminatedAddress
      let some text ← takeDelimited delimiter true | refuse .unterminatedAddress
      let (ignoresCase, multiline) ← searchOptions ((← get).rest.length + 1) false false
      return some (.place (.matching (← search text ignoresCase multiline).1))
    else if Printing.isDecimal byte then
      let line ← number first
      match ← takeFilled with
      | some 0x7e =>
        let step ← number (← takeFilled)
        return some (.place (if step == 0 then .line line else .every line step))
      | byte =>
        putBack byte
        return some (.place (.line line))
    else if byte == 0x2b || byte == 0x7e then
      let count ← number (← takeFilled)
      return some (if byte == 0x2b then .after count else .multiple count)
    else return none
  | none => return none

/-- Read the addresses of a command, and tell the first byte behind them. -/
def selector (first : Option UInt8) : Reading (Selector × Option UInt8) := do
  match ← address first with
  | none => negation ⟨none, none, false⟩ first
  | some (.place place) =>
    let next ← takeFilled
    let (stop, next) ← if next == some 0x2c then do
        match ← address (← takeFilled) with
        | none => refuse .strayComma
        | some stop =>
          let stop : RangeStop := match stop with
            | .place place => .at place
            | .after count => .after count
            | .multiple step => .multiple step
          pure (some stop, ← takeFilled)
      else pure (none, next)
    let startsBefore := match place with
      | .line 0 => true
      | _ => false
    let stopsAtMatch := match stop with
      | some (.at (.matching _)) => true
      | _ => false
    if startsBefore && !stopsAtMatch then refuse .badLineZero
    negation ⟨some place, stop, false⟩ next
  | some _ => refuse .badFirstAddress
where
  negation (selector : Selector) (next : Option UInt8) : Reading (Selector × Option UInt8) := do
    if next != some 0x21 then return (selector, next)
    let next ← takeFilled
    if next == some 0x21 then refuse .manyNegations
    return ({ selector with negated := true }, next)

/-- Read the text of a command: what a line says, with every further line that
a backslash holds on to. The outcome tells whether it goes on in the next
fragment. -/
def textLines : Nat → Bytes → Reading (Bytes × Bool)
  | 0, before => return (before.reverse, false)
  | fuel + 1, before => do
    match ← take with
    | none | some 0x0a => return ((0x0a :: before).reverse, false)
    | some 0x5c =>
      match ← take with
      | none => return ((0x0a :: before).reverse, true)
      | some byte =>
        putBack (some byte)
        match numbered? (← get).rest with
        | some (value, after) =>
          let _ ← modify fun draft => { draft with
            consumed := draft.consumed + (draft.rest.length - after.length), rest := after }
          textLines fuel (value :: before)
        | none =>
          let _ ← take
          textLines fuel ((control? byte).getD byte :: before)
    | some byte => textLines fuel (byte :: before)

/-- Read the text behind a letter. A backslash in front of it keeps its blanks. -/
def text (kind : TextKind) (place : Nat) : Reading Order := do
  let some first ← takeFilled | refuse .expectsText
  let plain : Reading Order := do
    let (text, goesOn) ← textLines ((← get).rest.length + 1) []
    if goesOn then modify fun draft => { draft with pending := some (kind, place, text) }
    return kind.order text
  if first != 0x5c then
    putBack (some first)
    plain
  else match ← take with
    | none =>
      modify fun draft => { draft with pending := some (kind, place, []) }
      return kind.order []
    | some 0x0a => plain
    | byte =>
      putBack byte
      plain

/-- Read the rest of a line as the name of a file. -/
def fileName : Reading Bytes := do
  let _ ← takeAll isBlank
  let name ← takeAll (· != 0x0a)
  if name.isEmpty then refuse .missingFile
  return name

/-- Read a name that is written to. -/
def outputName : Reading Bytes := do
  let name ← fileName
  modify fun draft => { draft with outputs := if draft.outputs.contains name then draft.outputs else draft.outputs ++ [name] }
  return name

def label : Reading Bytes := do
  let _ ← takeAll isBlank
  takeAll fun byte => !Printing.isSpace byte && byte != 0x3b && byte != 0x7d

/-- Read what is put in place of a match. -/
def pieces : Nat → Bytes → List Piece
  | fuel + 1, 0x5c :: rest =>
    match numbered? rest with
    | some (value, after) => .text [value] :: pieces fuel after
    | none =>
      match rest with
      | [] => [.text [0x5c]]
      | letter :: rest =>
        let piece : Piece :=
          if Printing.isDecimal letter then .group (letter.toNat - 0x30)
          else match Char.ofNat letter.toNat with
            | 'L' => .style .lower
            | 'U' => .style .upper
            | 'E' => .style .kept
            | 'l' => .styleNext .lower
            | 'u' => .styleNext .upper
            | _ => .text [(control? letter).getD letter]
        piece :: pieces fuel rest
  | fuel + 1, 0x26 :: rest => .group 0 :: pieces fuel rest
  | fuel + 1, byte :: rest =>
    let plain := byte :: rest.takeWhile fun byte => byte != 0x5c && byte != 0x26
    .text plain :: pieces fuel (rest.drop (plain.length - 1))
  | _, _ => []

/-- The letters behind a substitution. -/
structure Manners where
  ignoresCase : Bool
  multiline : Bool
  number : Option Nat
  all : Bool
  prints : Bool
  runs : Bool
  output : Option Bytes

def manners : Nat → Manners → Reading Manners
  | 0, found => return found
  | fuel + 1, found => do
    match ← take with
    | none | some 0x0a | some 0x3b => return found
    | some byte =>
      match Char.ofNat byte.toNat with
      | 'i' | 'I' => manners fuel { found with ignoresCase := true }
      | 'm' | 'M' => manners fuel { found with multiline := true }
      | 'e' => manners fuel { found with runs := true }
      | 'p' => if found.prints then refuse .manyPrints else manners fuel { found with prints := true }
      | 'g' => if found.all then refuse .manyGlobals else manners fuel { found with all := true }
      | 'w' => return { found with output := some (← outputName) }
      | '}' | '#' =>
        putBack (some byte)
        return found
      | ' ' | '\t' => manners fuel found
      | _ =>
        if Printing.isDecimal byte then
          if found.number.isSome then refuse .manyNumbers
          let number ← number (some byte)
          if number == 0 then refuse .zeroNumber
          manners fuel { found with number := some number }
        else refuse .unknownOption

def substitution : Reading Order := do
  let some delimiter ← take | refuse .unterminatedSubstitution
  let some wanted ← takeDelimited delimiter true | refuse .unterminatedSubstitution
  let some replacement ← takeDelimited delimiter false | refuse .unterminatedSubstitution
  let pieces := pieces (replacement.length + 1) replacement
  let manners ← manners ((← get).rest.length + 1) ⟨false, false, none, false, false, false, none⟩
  let (search, groups?) ← search wanted manners.ignoresCase manners.multiline
  let highest := pieces.foldl (fun highest piece => match piece with
    | .group number => max highest number
    | _ => highest) 0
  match groups? with
  | some groups => if highest > groups then refuse (.badGroup highest)
  | none => pure ()
  return .substitute {
    search
    pieces
    number := manners.number.getD 1
    all := manners.all
    prints := manners.prints
    runs := manners.runs
    output := manners.output }

/-- The letters of one side of a transliteration. -/
def unescaped : Nat → Bytes → Bytes
  | fuel + 1, 0x5c :: rest =>
    match numbered? rest with
    | some (value, after) => value :: unescaped fuel after
    | none =>
      match rest with
      | [] => [0x5c]
      | letter :: rest => (control? letter).getD letter :: unescaped fuel rest
  | fuel + 1, byte :: rest => byte :: unescaped fuel rest
  | _, _ => []

def transliteration : Reading Order := do
  let some delimiter ← take | refuse .unterminatedTransliteration
  let some source ← takeDelimited delimiter false | refuse .unterminatedTransliteration
  let some target ← takeDelimited delimiter false | refuse .unterminatedTransliteration
  let letters (text : Bytes) : Letters := Letters.ofBytes true (unescaped text.length text)
  if (letters source).length != (letters target).length then refuse .unequalSets
  endCommand
  return .transliterate ((letters source).zip (letters target))

/-- Read a number that may stand behind a letter. -/
def optionalNumber : Reading (Option Nat) := do
  let next ← takeFilled
  if next.any Printing.isDecimal then
    let value ← number next
    return some value
  putBack next
  return none

/-- Read what a letter orders, for a command at a place. -/
def order (selector : Selector) (letter : UInt8) (place : Nat) : Reading Order := do
  let plain (order : Order) : Reading Order := do
    endCommand
    return order
  match Char.ofNat letter.toNat with
  | '{' =>
    let draft ← get
    let spot := match spot draft with
      | .fragment number _ => .fragment number 0
      | spot => spot
    set { draft with blocks := (place, spot) :: draft.blocks }
    return .open_ 0
  | '}' =>
    let draft ← get
    match draft.blocks with
    | [] => refuse .strayClose
    | (opening, _) :: blocks =>
      if selector.first.isSome then refuse .addressedClose
      let commands := draft.commands.modify opening fun command => { command with order := .open_ place }
      set { draft with commands, blocks }
      plain .pass
  | 'a' => text .append place
  | 'i' => text .insert place
  | 'c' => text .change place
  | ':' =>
    if selector.first.isSome then refuse .addressedLabel
    let name ← label
    if name.isEmpty then refuse .missingLabel
    modify fun draft => { draft with labels := draft.labels ++ [(name, place)] }
    return .pass
  | 'b' => return .jump .always (← label)
  | 't' => return .jump .afterChange (← label)
  | 'T' => return .jump .withoutChange (← label)
  | 'd' => plain .delete
  | 'D' => plain .deleteFirst
  | 'e' =>
    let _ ← takeAll isBlank
    return .run (← takeAll (· != 0x0a))
  | 'F' => plain .printName
  | '=' => plain .printNumber
  | 'g' => plain .get
  | 'G' => plain .getMore
  | 'h' => plain .hold
  | 'H' => plain .holdMore
  | 'x' => plain .exchange
  | 'l' => plain (.show_ (← optionalNumber))
  | 'n' => plain .next
  | 'N' => plain .nextMore
  | 'p' => plain .print
  | 'P' => plain .printFirst
  | 'q' | 'Q' =>
    if selector.stop.isSome then refuse .oneAddress
    let code := ((← optionalNumber).getD 0) % 256
    plain (if letter == 0x71 then .quit code else .quitSilently code)
  | 'r' => return .readFile (← fileName)
  | 'R' => return .readLine (← fileName)
  | 'w' => return .write (← outputName)
  | 'W' => return .writeFirst (← outputName)
  | 's' => substitution
  | 'y' => transliteration
  | 'v' =>
    let _ ← label
    return .pass
  | 'z' => plain .empty
  | _ => refuse (.unknownCommand letter)

/-- Read a comment. At the very beginning of a script a lone letter in it has
a meaning. -/
def comment : Reading Unit := do
  let draft ← get
  let text ← takeAll (· != 0x0a)
  let isFirst := draft.consumed == 1 && draft.commands.isEmpty && match draft.fragment with
    | .argument number => number == 1
    | .file _ => true
  if isFirst && text.head? == some 0x6e then modify fun draft => { draft with quiet := true }

/-- Read all commands of a fragment. -/
def commands : Nat → Reading Unit
  | 0 => return ()
  | fuel + 1 => do
    let _ ← takeAll fun byte => byte == 0x3b || Printing.isSpace byte
    let some first ← take | return ()
    let (selector, letter) ← selector (some first)
    let some letter := letter | refuse .missingCommand
    if letter == 0x23 then
      if selector.first.isSome then refuse .addressedComment
      comment
      commands fuel
    else
      let place := (← get).commands.size
      modify fun draft => { draft with commands := draft.commands.push ⟨selector, .pass⟩ }
      let order ← order selector letter place
      modify fun draft => { draft with commands := draft.commands.modify place fun command =>
        match command.order with
        | .pass => { command with order }
        | _ => command }
      commands fuel

/-- Go on with the text that an earlier fragment began. -/
def resume : Reading Unit := do
  match (← get).pending with
  | none => return ()
  | some (kind, place, before) =>
    modify fun draft => { draft with pending := none }
    let (text, goesOn) ← textLines ((← get).rest.length + 1) before.reverse
    modify fun draft => { draft with
      commands := draft.commands.modify place fun command => { command with order := kind.order text }
      pending := if goesOn then some (kind, place, text) else none }

end Reading

namespace Script

/-- Read a script that comes in fragments. -/
def ofFragments (extended : Bool) (fragments : List (Fragment × Bytes)) : Except ScriptFault Script := do
  let draft : Draft := ⟨.argument 0, [], 0, 1, extended, #[], [], [], [], none, false⟩
  let draft ← fragments.foldlM (fun (draft : Draft) (fragment, text) => do
    let draft := { draft with fragment, rest := text, consumed := 0, line := 1 }
    let ((), draft) ← (do Reading.resume; Reading.commands (text.length + 1) : Editor.Reading Unit).run draft
    return draft) draft
  match draft.blocks with
  | (_, spot) :: _ => throw (.mistake spot .unclosed)
  | [] =>
    let wanted := draft.commands.toList.filterMap fun command => match command.order with
      | .jump _ label => if label.isEmpty then none else some label
      | _ => none
    match wanted.find? fun label => !draft.labels.any (·.1 == label) with
    | some label => throw (.unknownLabel label)
    | none => return ⟨draft.commands, draft.labels, draft.outputs, draft.quiet⟩

end Script
end ExitParity.Editor
