import ExitParity.Host.Applets.Finding

/-! The program that builds command lines from what it reads. -/

namespace ExitParity

/-- How the input is taken apart. -/
structure Gathering where
  /-- The byte behind each item, where neither quotes nor blanks count. -/
  separator : Option UInt8
  /-- Whether a whole line is one item. -/
  byLine : Bool
  ending : Option Bytes

/-- The items of an input, each with whether a line ended behind it. -/
structure Gathered where
  items : List (Bytes × Bool)
  item : Option Bytes

namespace Gathering

def finish (ends : Bool) (gathered : Gathered) : Gathered :=
  match gathered.item with
  | some item => ⟨(item, ends) :: gathered.items, none⟩
  | none =>
    match ends, gathered.items with
    | true, (item, false) :: rest => ⟨(item, true) :: rest, none⟩
    | _, _ => gathered

def push (byte : UInt8) (gathered : Gathered) : Gathered :=
  { gathered with item := some (byte :: gathered.item.getD []) }

/-- Take an input apart. The bytes of an item are kept reversed. -/
def split (gathering : Gathering) : Nat → Option UInt8 → Bytes → Gathered → Except String Gathered
  | 0, _, _, gathered => .ok gathered
  | _ + 1, quote, [], gathered =>
    match quote with
    | some 0x27 =>
      .error "unmatched single quote; by default quotes are special to xargs unless you use the -0 option"
    | some _ => .error "unmatched double quote; by default quotes are special to xargs unless you use the -0 option"
    | none => .ok (finish true gathered)
  | fuel + 1, some quote, byte :: rest, gathered =>
    if byte == quote then split gathering fuel none rest gathered
    else if byte == 0x0a then split gathering fuel (some quote) [] gathered
    else split gathering fuel (some quote) rest (push byte gathered)
  | fuel + 1, none, byte :: rest, gathered =>
    match gathering.separator with
    | some separator =>
      if byte == separator then split gathering fuel none rest (finish true { gathered with item := some (gathered.item.getD []) })
      else split gathering fuel none rest (push byte gathered)
    | none =>
      let isBlank := byte == 0x20 || byte == 0x09
      if byte == 0x27 || byte == 0x22 then
        split gathering fuel (some byte) rest { gathered with item := some (gathered.item.getD []) }
      else if byte == 0x5c then
        match rest with
        | next :: rest => split gathering fuel none rest (push next gathered)
        | [] => split gathering fuel none [] gathered
      else if byte == 0x0a then split gathering fuel none rest (finish true gathered)
      else if isBlank && !(gathering.byLine && gathered.item.isSome) then
        split gathering fuel none rest (if gathering.byLine then gathered else finish false gathered)
      else split gathering fuel none rest (push byte gathered)

/-- The items of an input, up to the one that ends it. -/
def itemsOf (gathering : Gathering) (input : Bytes) : Except String (List (Bytes × Bool)) := do
  let gathered ← gathering.split (input.length + 2) none input ⟨[], none⟩
  let items := gathered.items.reverse.map fun (item, ends) => (item.reverse, ends)
  return match gathering.ending with
    | some ending => items.takeWhile (·.1 != ending)
    | none => items

/-- Replace a mark in a word by an item. -/
def fill (mark item : Bytes) : Nat → Bytes → Bytes
  | 0, word => word
  | _ + 1, [] => []
  | fuel + 1, byte :: rest =>
    if mark.isPrefixOf (byte :: rest) then item ++ fill mark item fuel ((byte :: rest).drop mark.length)
    else byte :: fill mark item fuel rest

/-- Take as many items as fit into a line. -/
def portion (fits : Nat → Nat → Nat → Bool) : List (Bytes × Bool) → Nat → Nat → Nat → List Bytes × List (Bytes × Bool)
  | [], _, _, _ => ([], [])
  | (item, ends) :: rest, count, lines, size =>
    if count > 0 && !fits (count + 1) lines (size + item.length + 1) then ([], (item, ends) :: rest)
    else
      let (more, left) := portion fits rest (count + 1) (if ends then lines + 1 else lines) (size + item.length + 1)
      (item :: more, left)

end Gathering

namespace Program

/-- The longest command line that is built. -/
def lineLimit : Nat := 131072

/-- What became of the commands run so far: an exit code, and whether all is over. -/
def codeBehind (program : Program) (name : Bytes) (status : WaitStatus) : Deed (Nat × Bool) := do
  let code := status.exitCode
  if code == 0 then return (0, false)
  else if code == 255 then
    program.complain (name ++ utf8 ": exited with status 255; aborting")
    return (124, true)
  else if code < 0 then
    program.complain (name ++ utf8 s!": terminated by signal {code.natAbs}")
    return (125, true)
  else if code == 127 || code == 126 then return (code.toNat, true)
  else return (123, false)

/-- Run command lines until all items are used up. -/
def runLines (program : Program) (launch : Launcher) (options : Options) (portion : List (Bytes × Bool) →
    List Bytes × List (Bytes × Bool)) : Nat → Bool → List (Bytes × Bool) → Nat → Deed Nat
  | 0, _, _, code => return code
  | fuel + 1, isFirst, items, code => do
    if items.isEmpty && !(isFirst && !options.any ["r", "I", "i"]) then return code
    let (argv, rest) := portion items
    let name := argv.head?.getD []
    if options.any ["t", "p"] then
      let _ ← program.write 2 (Bytes.joinWith [0x20] (argv.map Quoting.whenNeeded) ++ [0x0a])
    let status ← program.runCommand launch none argv (program.complainOf (Quoting.whenNeeded name))
    let (latest, isOver) ← program.codeBehind name status
    if isOver then return latest
    program.runLines launch options portion fuel false rest (if latest == 0 then code else latest)

def gatherArguments (program : Program) (launch : Launcher) : Deed Nat :=
  program.withOptions ⟨"0a:d:E:e::I:i::l::L:n:prs:txP:", [("null", .flag, "0"), ("arg-file", .valued, "a"),
    ("delimiter", .valued, "d"), ("eof", .perhapsValued, "E"), ("replace", .perhapsValued, "i"), ("max-lines", .perhapsValued, "l"),
    ("max-args", .valued, "n"), ("interactive", .flag, "p"), ("no-run-if-empty", .flag, "r"), ("max-chars", .valued, "s"),
    ("verbose", .flag, "t"), ("exit", .flag, "x"), ("max-procs", .valued, "P"), ("open-tty", .flag, "o"),
    ("show-limits", .flag, "limits"), ("process-slot-var", .valued, "slot")], false⟩ 1 fun options => do
  let wrong? := (["n", "L", "s"].filterMap fun key => (options.value? key).map (key, ·)).find? fun (_, text) =>
    text.isEmpty || !text.all Printing.isDecimal || Printing.digits 10 text == 0
  match wrong? with
  | some (key, text) =>
    let isNumber := !text.isEmpty && text.all Printing.isDecimal
    program.refuse (if isNumber then utf8 "value " ++ text ++ utf8 s!" for -{key} option should be >= 1"
      else utf8 "invalid number \"" ++ text ++ utf8 s!"\" for -{key} option")
    return 1
  | none =>
    let command := if options.operands.isEmpty then [utf8 "echo"] else options.operands
    let mark? := match options.last? ["I", "i", "n", "L", "l"] with
      | some "I" => options.value? "I"
      | some "i" => (options.value? "i").map fun (text : Bytes) => if text.isEmpty then utf8 "\x7b\x7d" else text
      | _ => none
    let separator := if options.has "0" then some 0 else (options.value? "d").map fun text =>
      match text with
      | 0x5c :: rest => (Printing.escape rest).1
      | text => text.head?.getD 0
    let gathering : Gathering := ⟨separator, mark?.isSome, (options.value? "E").filter (!·.isEmpty)⟩
    let input ← match options.value? "a" with
      | some path => program.readFile ⟨path⟩
      | none => program.readAll 0
    match input with
    | .error errno =>
      program.complain (utf8 "Cannot open input file " ++ Quoting.curly ((options.value? "a").getD (utf8 "stdin")) ++
        utf8 s!": {errno.text}")
      return 1
    | .ok bytes =>
      match gathering.itemsOf bytes with
      | .error complaint =>
        program.complain (utf8 complaint)
        return 1
      | .ok items =>
        let most := (options.value? "n").map (Printing.digits 10)
        let mostLines := ((options.value? "L").or ((options.value? "l").map fun (text : Bytes) => if text.isEmpty then utf8 "1" else text)).map
          (Printing.digits 10)
        let room := (options.value? "s").elim lineLimit (Printing.digits 10)
        let fits (count lines size : Nat) : Bool :=
          !most.any (· < count) && !mostLines.any (· ≤ lines) && size ≤ room
        let used := (command.map (·.length + 1)).foldl (· + ·) 0
        let portion (items : List (Bytes × Bool)) : List Bytes × List (Bytes × Bool) :=
          match mark?, items with
          | some mark, (item, _) :: rest => (command.map fun (word : Bytes) => Gathering.fill mark item (word.length + 1) word, rest)
          | _, items =>
            let (taken, rest) := Gathering.portion fits items 0 0 used
            (command ++ taken, rest)
        program.runLines launch options portion (items.length + 2) true items 0

end Program
end ExitParity
