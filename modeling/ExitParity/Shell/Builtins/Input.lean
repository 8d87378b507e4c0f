import ExitParity.Shell.Builtins.Variables

/-! The commands of the shell that read: lines of the input, and the options
among arguments. -/

namespace ExitParity.Shell.Builtin

/-- What a line is read by. -/
structure LineRequest where
  descriptor : Nat
  /-- Whether a backslash is a byte like others. -/
  raw : Bool
  /-- The byte that ends it. -/
  ending : Option UInt8
  /-- When it is no longer waited for. -/
  deadline : Option Nat

/-- How the reading of a line came to its end. -/
inductive LineEnd where
  | complete
  | endOfInput
  | late
  deriving DecidableEq

/-- How often it is looked whether something has come. -/
def glance : Nat := 10 ^ 6

/-- Wait until something can be read, but not for ever. -/
def awaitInput (descriptor deadline : Nat) : Nat → Run Bool
  | 0 => return false
  | fuel + 1 => do
    let (isReady, now) ← perform fun program => .look fun machine =>
      (machine.canRead program.process descriptor, machine.clock)
    if isReady then return true
    else if now ≥ deadline then return false
    else
      perform fun _ => .rest glance
      awaitInput descriptor deadline fuel

/-- The number of bytes that follow the first byte of a letter. -/
def followers (byte : UInt8) : Nat :=
  if byte ≥ 0xf0 then 3 else if byte ≥ 0xe0 then 2 else if byte ≥ 0xc0 then 1 else 0

/-- Read a line byte by byte, for at most so many bytes and so many letters. Unless
it is raw, a backslash hides the byte behind it and joins lines. -/
def readLine (request : LineRequest) : Nat → Option Nat → Bool → Run (Marked × LineEnd)
  | 0, _, _ => return ([], .endOfInput)
  | _, some 0, false => return ([], .complete)
  | fuel + 1, count?, escaped => do
    let isThere ← match request.deadline with
      | some deadline => awaitInput request.descriptor deadline (deadline / glance + 2)
      | none => pure true
    if !isThere then return ([], .late)
    let goOn (mark : UInt8 × Bool) : Run (Marked × LineEnd) := do
      let left := count?.map fun count => if mark.1 &&& 0xc0 == 0x80 then count else count - 1
      let tail ← if left == some 0 && followers mark.1 > 0 then
          perform fun program => program.read request.descriptor (followers mark.1)
        else pure (.ok [])
      let (rest, found) ← readLine request fuel left false
      return (mark :: (tail.toOption.getD []).map (fun byte => (byte, mark.2)) ++ rest, found)
    match ← perform fun program => program.read request.descriptor 1 with
    | .ok [byte] =>
      if request.ending == some byte && (byte == 0 || !escaped) then return ([], .complete)
      else if byte == 0 then readLine request fuel count? escaped
      else if escaped then
        if byte == 0x0a then readLine request fuel count? false else goOn (byte, true)
      else if byte == 0x5c && !request.raw then readLine request fuel count? true
      else goOn (byte, false)
    | _ => return ([], .endOfInput)

def trimBlanks (separators : Bytes) (line : Marked) : Marked :=
  (line.reverse.dropWhile fun (byte, escaped) => !escaped && separators.elem byte && Fragment.isBlank byte).reverse

/-- Part a line into at most `count` fields. The last one takes all that is
left, without the separator behind it when it is a single field. -/
def partLine (separators : Bytes) : Nat → Marked → List Marked
  | 0, _ => []
  | count + 1, line =>
    let isBlank (mark : UInt8 × Bool) : Bool := !mark.2 && separators.elem mark.1 && Fragment.isBlank mark.1
    let isSeparator (mark : UInt8 × Bool) : Bool := !mark.2 && separators.elem mark.1
    let line := line.dropWhile isBlank
    if line.isEmpty then []
    else if count == 0 then
      let fragments := line.map fun (byte, escaped) => if escaped then Fragment.fixed byte true else .loose byte
      match Fragment.fields separators fragments none false with
      | [field] => [field]
      | _ => [trimBlanks separators line]
    else
      let field := line.takeWhile (!isSeparator ·)
      let rest := (line.drop field.length).dropWhile isBlank
      let rest := match rest with
        | mark :: more => if isSeparator mark then more.dropWhile isBlank else rest
        | [] => []
      field :: partLine separators count rest

/-- The longest line that is read, in bytes. -/
def lineLimit : Nat := 1000000

/-- Read a line into variables. -/
def readInto (names : List Bytes) (raw : Bool) : Run Nat := do
  if names.isEmpty then fail (utf8 "arg count")
  let (line, found) ← readLine ⟨0, raw, some 0x0a, none⟩ lineLimit none false
  let fields := partLine (← get).separators names.length line
  for (name, index) in names.zipIdx do
    checkName name
    assign name (((fields[index]?).getD []).map (·.1))
  return if found == .complete then 0 else 1

/-- The nanoseconds of a number of seconds with digits behind a point. -/
def timeout? (text : Bytes) : Option Nat :=
  let whole := text.takeWhile isDigit
  let rest := text.drop whole.length
  let fraction := rest.drop 1
  if text.isEmpty || !(rest.isEmpty || rest.head? == some 0x2e) || !fraction.all isDigit then none
  else
    let digits := (fraction ++ List.replicate 9 0x30).take 9
    some (Printing.digits 10 whole * 10 ^ 9 + Printing.digits 10 digits)

/-- The descriptor that an argument names, if it is open. -/
def openDescriptor (text : Bytes) : Run Nat := do
  match number? text with
  | none => failAs 1 (text ++ utf8 ": invalid file descriptor specification") []
  | some number =>
    let isOpen ← perform fun program => .look fun machine => (machine.opened? program.process number).isSome
    if !isOpen then failAs 1 (text ++ utf8 s!": invalid file descriptor: {Errno.badDescriptor.text}") []
    return number

/-- Read as the extended language does. -/
def readFrom (args : List Bytes) : Run Nat := do
  let (given, names) ← optionsOf ['r', 's', 'e'] ['a', 'd', 'i', 'n', 'N', 'p', 't', 'u'] args
  let valueOf? (letter : Char) : Option Bytes := (given.reverse.find? (·.1 == letter)).map (·.2)
  let count (letter : Char) : Run (Option Nat) := do
    match valueOf? letter with
    | none => return none
    | some text =>
      match number? text with
      | some number => return some number
      | none => failAs 1 (text ++ utf8 ": invalid number") []
  let most ← count 'n'
  let exact ← count 'N'
  let wait ← match valueOf? 't' with
    | none => pure none
    | some text =>
      match timeout? text with
      | some time => pure (some time)
      | none => failAs 1 (text ++ utf8 ": invalid timeout specification") []
  let descriptor ← match valueOf? 'u' with
    | none => pure 0
    | some text => openDescriptor text
  match names.find? fun name => !isName (name.takeWhile (· != 0x5b)) with
  | some name => checkName name
  | none => pure ()
  if wait == some 0 then
    let isReady ← perform fun program => .look (·.canRead program.process descriptor)
    return if isReady then 0 else 1
  let now ← perform fun _ => .look fun machine => machine.clock
  let ending := if exact.isSome then none else some (((valueOf? 'd').map fun text => text.head?.getD 0).getD 0x0a)
  let request : LineRequest := ⟨descriptor, given.any (·.1 == 'r'), ending, wait.map (now + ·)⟩
  let (line, found) ← readLine request lineLimit (exact.or most) false
  let separators := (← get).separators
  match valueOf? 'a', names with
  | some list, _ =>
    let fields := partLine separators (line.length + 1) line
    assignList list false (fields.map fun field => field.map (·.1))
  | none, [] => assign (utf8 "REPLY") (line.map (·.1))
  | none, names =>
    let fields := if exact.isSome then [line] else partLine separators names.length line
    for (name, index) in names.zipIdx do
      assign name (((fields[index]?).getD []).map (·.1))
  return match found with
    | .complete => 0
    | .endOfInput => 1
    | .late => 128 + Signal.alarm

def read_ (args : List Bytes) : Run Nat := do
  if (← get).isExtended then return ← readFrom args
  let (given, names) ← optionsOf ['r'] ['p'] args
  readInto names (given.any (·.1 == 'r'))

/-- Read lines into the elements of a list. -/
def readLines_ (args : List Bytes) : Run Nat := do
  let (given, names) ← optionsOf ['t'] ['d', 'n', 'O', 's', 'u', 'C', 'c'] args
  let valueOf? (letter : Char) : Option Bytes := (given.reverse.find? (·.1 == letter)).map (·.2)
  let count (letter : Char) (usual : Nat) (fault : String) : Run Nat := do
    match valueOf? letter with
    | none => return usual
    | some text =>
      match number? text with
      | some number => return number
      | none => failAs 1 (text ++ utf8 fault) []
  let most ← count 'n' 0 ": invalid line count"
  let first ← count 'O' 0 ": invalid array origin"
  let passed ← count 's' 0 ": invalid line count"
  let descriptor ← match valueOf? 'u' with
    | none => pure 0
    | some text => openDescriptor text
  let list := names.head?.getD (utf8 "MAPFILE")
  checkName list
  let ending := ((valueOf? 'd').map fun text => text.head?.getD 0).getD 0x0a
  let text := (← perform fun program => program.readAll descriptor).toOption.getD []
  let pieces := Bytes.split ending text
  let lines := if pieces.getLast? == some [] then pieces.dropLast.map (·, true)
    else pieces.dropLast.map (·, true) ++ (pieces.getLast?.map (·, false)).toList
  let keepsEnd := !given.any (·.1 == 't')
  let chosen := (lines.drop passed).take (if most == 0 then lines.length else most)
  if !given.any (·.1 == 'O') then unsetList list
  for ((line, isEnded), index) in chosen.zipIdx do
    assign (elementName list (utf8 (toString (first + index)))) (if keepsEnd && isEnded then line ++ [ending] else line)
  return 0

/-- Take the next option of the given arguments: its letter and value, with
the place behind it. Nothing is left at the end of the options. -/
def nextOption (args : List Bytes) (index offset : Nat) : Option (UInt8 × Bytes) × Nat × List Bytes :=
  let current := if index ≤ 1 || offset == 0 then [] else ((args[index - 2]?).getD []).drop offset
  match current with
  | letter :: rest => (some (letter, rest), index, args.drop (index - 1))
  | [] =>
    match args[index - 1]? with
    | some (0x2d :: letter :: rest) =>
      if letter == 0x2d && rest.isEmpty then (none, index + 1, []) else (some (letter, rest), index + 1, args.drop index)
    | _ => (none, index, [])

def getopts_ (args : List Bytes) : Run Nat := do
  match args with
  | letters :: name :: rest =>
    let shell ← get
    let args := if rest.isEmpty then shell.args else rest
    let silent := letters.head? == some 0x3a
    let argument := utf8 "OPTARG"
    let finish (letter : UInt8) (index offset : Nat) (status : Nat) : Run Nat := do
      assign optionVariable (utf8 (toString index))
      checkName name
      assign name [letter]
      modify fun shell => { shell with optionIndex := index, optionOffset := offset }
      return status
    let refuse (letter : UInt8) (sign : UInt8) (extended core : String) : Run UInt8 := do
      if silent then
        assign argument [letter]
        return sign
      else
        if !shell.isExtended then
          let _ ← perform fun program => program.write 2 (utf8 core)
        else if shell.valueOf? (utf8 "OPTERR") != some [0x30] then
          let _ ← perform fun program => program.write 2 (shell.zeroth ++ utf8 s!": {extended} -- " ++ [letter, 0x0a])
        unset argument
        return 0x3f
    let (found, index, behind) := nextOption args shell.optionIndex shell.optionOffset
    match found with
    | none => finish 0x3f index 0 1
    | some (letter, rest) =>
      let offset := ((args[index - 2]?).getD []).length - rest.length
      let described := letters.dropWhile (· != letter)
      let shown := String.singleton (Char.ofNat letter.toNat)
      if described.isEmpty || letter == 0x3a then
        let sign ← refuse letter 0x3f "illegal option" s!"Illegal option -{shown}\n"
        finish sign index (if rest.isEmpty then 0 else offset) 0
      else if described[1]? == some 0x3a then
        match rest, behind with
        | [], [] =>
          let sign ← refuse letter 0x3a "option requires an argument" s!"No arg for -{shown} option\n"
          finish sign index 0 0
        | [], value :: _ =>
          assign argument value
          finish letter (index + 1) 0 0
        | value, _ =>
          assign argument value
          finish letter index 0 0
      else
        if shell.isExtended then unset argument else assign argument []
        finish letter index (if rest.isEmpty then 0 else offset) 0
  | _ => if (← get).isExtended then failUsage else fail (utf8 "Usage: getopts optstring var [arg...]")

end ExitParity.Shell.Builtin
