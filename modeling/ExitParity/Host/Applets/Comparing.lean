import ExitParity.Host.Applets.Paths
import ExitParity.Host.Calendar
import ExitParity.Host.Difference

/-! The programs that compare files, byte by byte and line by line. -/

namespace ExitParity

/-- How changed lines are shown. -/
inductive ChangeStyle where
  | plain
  | unified (lines : Nat)
  | context (lines : Nat)

/-- A text that is compared: its name and what stands for it in a heading. -/
structure Compared where
  name : Bytes
  heading : Bytes
  lines : List Bytes

namespace ChangeStyle

def missingEnd : Bytes := utf8 "\n\\ No newline at end of file\n"

/-- A line behind a sign. -/
def signed (sign : String) (line : Bytes) : Bytes :=
  utf8 sign ++ line ++ if line.getLast? == some 0x0a then [] else missingEnd

/-- A range of lines, counted from one. One that is empty is named by the line in front of it. -/
def range (start count : Nat) : Bytes :=
  if count == 0 then Program.numeral start
  else if count == 1 then Program.numeral (start + 1)
  else Program.numeral (start + 1) ++ 0x2c :: Program.numeral (start + count)

def part (lines : List Bytes) (start count : Nat) : List Bytes := (lines.drop start).take count

def plainChange (old new : Compared) (change : Change) : Bytes :=
  let letter : UInt8 := if change.oldCount == 0 then 0x61 else if change.newCount == 0 then 0x64 else 0x63
  range change.oldStart change.oldCount ++ letter :: range change.newStart change.newCount ++ 0x0a ::
    (part old.lines change.oldStart change.oldCount).flatMap (signed "< ") ++
    (if letter == 0x63 then utf8 "---\n" else []) ++
    (part new.lines change.newStart change.newCount).flatMap (signed "> ")

/-- Put changes together that stand so near that their contexts meet. -/
def grouped (context : Nat) : List Change → List (List Change)
  | [] => []
  | change :: rest =>
    match grouped context rest with
    | (next :: others) :: groups =>
      if next.oldStart - (change.oldStart + change.oldCount) ≤ 2 * context then (change :: next :: others) :: groups
      else [change] :: (next :: others) :: groups
    | groups => [change] :: groups

/-- The lines that a group of changes is shown with. -/
def bounds (context : Nat) (old new : Compared) (group : List Change) : Change :=
  let first := group.head?.getD ⟨0, 0, 0, 0⟩
  let last := group.getLast?.getD first
  let before := min context first.oldStart
  let oldStop := last.oldStart + last.oldCount
  let newStop := last.newStart + last.newCount
  let after := min context (min (old.lines.length - oldStop) (new.lines.length - newStop))
  ⟨first.oldStart - before, oldStop + after - (first.oldStart - before), first.newStart - before,
    newStop + after - (first.newStart - before)⟩

def unifiedRange (start count : Nat) : Bytes :=
  if count == 1 then Program.numeral (start + 1)
  else Program.numeral (if count == 0 then start else start + 1) ++ 0x2c :: Program.numeral count

def unifiedGroup (context : Nat) (old new : Compared) (group : List Change) : Bytes :=
  let whole := bounds context old new group
  let (text, place) := group.foldl (fun ((text, place) : Bytes × Nat) change =>
    (text ++ (part old.lines place (change.oldStart - place)).flatMap (signed " ") ++
      (part old.lines change.oldStart change.oldCount).flatMap (signed "-") ++
      (part new.lines change.newStart change.newCount).flatMap (signed "+"), change.oldStart + change.oldCount))
    ([], whole.oldStart)
  utf8 "@@ -" ++ unifiedRange whole.oldStart whole.oldCount ++ utf8 " +" ++
    unifiedRange whole.newStart whole.newCount ++ utf8 " @@\n" ++ text ++
    (part old.lines place (whole.oldStart + whole.oldCount - place)).flatMap (signed " ")

/-- One side of a group of changes with its context. -/
def side (lines : List Bytes) (start count : Nat) (changes : List (Nat × Nat × String)) : Bytes :=
  let (text, place) := changes.foldl (fun ((text, place) : Bytes × Nat) (first, length, sign) =>
    (text ++ (part lines place (first - place)).flatMap (signed "  ") ++ (part lines first length).flatMap (signed sign),
      first + length)) ([], start)
  text ++ (part lines place (start + count - place)).flatMap (signed "  ")

def contextRange (start count : Nat) : Bytes :=
  if count ≤ 1 then Program.numeral (start + count)
  else Program.numeral (start + 1) ++ 0x2c :: Program.numeral (start + count)

def contextGroup (context : Nat) (old new : Compared) (group : List Change) : Bytes :=
  let whole := bounds context old new group
  let olds := group.map fun change => (change.oldStart, change.oldCount, if change.newCount == 0 then "- " else "! ")
  let news := group.map fun change => (change.newStart, change.newCount, if change.oldCount == 0 then "+ " else "! ")
  utf8 "***************\n*** " ++ contextRange whole.oldStart whole.oldCount ++ utf8 " ****\n" ++
    (if group.any (·.oldCount > 0) then side old.lines whole.oldStart whole.oldCount olds else []) ++
    utf8 "--- " ++ contextRange whole.newStart whole.newCount ++ utf8 " ----\n" ++
    (if group.any (·.newCount > 0) then side new.lines whole.newStart whole.newCount news else [])

/-- Show the changes that make one text another one. -/
def show_ (style : ChangeStyle) (old new : Compared) (changes : List Change) : Bytes :=
  match style with
  | .plain => changes.flatMap (plainChange old new)
  | .unified lines =>
    utf8 "--- " ++ old.heading ++ utf8 "\n+++ " ++ new.heading ++ 0x0a ::
      (grouped lines changes).flatMap (unifiedGroup lines old new)
  | .context lines =>
    utf8 "*** " ++ old.heading ++ utf8 "\n--- " ++ new.heading ++ 0x0a ::
      (grouped lines changes).flatMap (contextGroup lines old new)

end ChangeStyle

namespace Program

/-- Complain that the program was called wrongly, and name the program twice. -/
def refuseTwice (program : Program) (text : Bytes) : Deed Unit := do
  program.complain text
  program.complain (utf8 "Try '" ++ program.name ++ utf8 " --help' for more information.")

/-- Where two texts differ first: the byte, its line, and the two bytes. -/
def firstDifference : Nat → Nat → Bytes → Bytes → Option (Nat × Nat × Option (UInt8 × UInt8))
  | _, _, [], [] => none
  | byte, line, x :: xs, y :: ys =>
    if x == y then firstDifference (byte + 1) (if x == 0x0a then line + 1 else line) xs ys
    else some (byte, line, some (x, y))
  | byte, line, _, _ => some (byte, line, none)

/-- A byte as it is shown where nothing may stay hidden. -/
def visibleByte (byte : UInt8) : Bytes :=
  let (mark, byte) : Bytes × UInt8 := if byte ≥ 0x80 then (utf8 "M-", byte - 0x80) else ([], byte)
  mark ++ if byte < 0x20 then [0x5e, byte + 0x40] else if byte == 0x7f then utf8 "^?" else [byte]

/-- The octal digits of a byte, right aligned. -/
def octalColumn (byte : UInt8) : Bytes := rightAligned 3 (Printing.toDigits 8 byte.toNat)

/-- Compare two files byte by byte. -/
def compareBytes (program : Program) : Deed Nat := do
  let grammar : OptionGrammar := ⟨"bci:ln:sv", [("print-bytes", .flag, "b"), ("ignore-initial", .valued, "i"),
    ("verbose", .flag, "l"), ("bytes", .valued, "n"), ("silent", .flag, "s"), ("quiet", .flag, "s")], true⟩
  let options := grammar.read program.args
  if options.has "version" then
    program.print program.versionText
    return 0
  if options.has "help" then
    program.print program.usageText
    return 0
  if let some fault := options.fault then
    program.refuseTwice fault.message
    return 2
  let number (text : Bytes) (name : String) : Deed Nat := do
    match amount? text with
    | some value => return value
    | none =>
      program.refuseTwice (utf8 s!"invalid --{name} value '" ++ text ++ utf8 "'")
      program.exit 2
  match options.operands with
  | [] =>
    program.refuseTwice (utf8 "missing operand after '" ++ program.name ++ utf8 "'")
    return 2
  | first :: others =>
    if let extra :: _ := others.drop 3 then
      program.refuseTwice (utf8 "extra operand '" ++ extra ++ utf8 "'")
      return 2
    let second := others.head?.getD ownInput
    let given := match options.value? "i" with
      | some text => Bytes.split 0x3a text
      | none => others.drop 1
    let skips ← given.mapM fun (text : Bytes) => number text "ignore-initial"
    let skip := skips.head?.getD 0
    let skipSecond := if (options.value? "i").isSome then (skips[1]?).getD skip else (skips[1]?).getD 0
    let most ← (options.value? "n").mapM fun (text : Bytes) => number text "bytes"
    let read (path : Bytes) (skip : Nat) : Deed Bytes := do
      match ← program.inputOf path with
      | .error fault =>
        program.complain (path ++ utf8 s!": {fault.errno.text}")
        program.exit 2
      | .ok text =>
        let text := text.drop skip
        return match most with
          | some count => text.take count
          | none => text
    if first == second && first != ownInput then
      let _ ← read first skip
      return 0
    let x ← read first skip
    let y ← read second skipSecond
    match firstDifference 1 1 x y with
    | none => return 0
    | some (byte, line, bytes) =>
      if options.has "s" then return 1
      let short := if x.length < y.length then (first, x) else (second, y)
      let shared := min x.length y.length
      let tellEnd (place : Bytes) : Deed Unit :=
        program.complain (utf8 "EOF on " ++ short.1 ++ if short.2.isEmpty then utf8 " which is empty"
          else utf8 s!" after byte {shared}" ++ place)
      if options.has "l" then
        let width := (numeral (max 1 shared)).length
        if x.length != y.length then
          tellEnd []
        for ((x, y), index) in (x.zip y).zipIdx do
          if x != y then
            let shown := if options.has "b" then
                octalColumn x ++ 0x20 :: visibleByte x ++ List.replicate (5 - (visibleByte x).length) 0x20 ++ octalColumn y ++
                  0x20 :: visibleByte y
              else octalColumn x ++ 0x20 :: octalColumn y
            program.print (rightAligned width (numeral (index + 1)) ++ 0x20 :: shown ++ [0x0a])
      else match bytes with
        | some (x, y) =>
          let shown := if options.has "b" then
              utf8 " is " ++ octalColumn x ++ 0x20 :: visibleByte x ++ 0x20 :: octalColumn y ++ 0x20 :: visibleByte y
            else []
          program.print (first ++ 0x20 :: second ++ utf8 s!" differ: byte {byte}, line {line}" ++ shown ++ [0x0a])
        | none =>
          let endsLine := short.2.getLast? == some 0x0a
          tellEnd (utf8 (if endsLine then s!", line {line - 1}" else s!", in line {line}"))
      return 1

/-! ### Lines -/

/-- What differences are looked for and how they are told. -/
structure ComparingLines where
  options : Options
  style : ChangeStyle
  labels : List Bytes
  briefly : Bool
  tellsSame : Bool
  recursive : Bool
  absentToo : Bool

namespace ComparingLines

/-- A line as it is compared. -/
def key (comparing : ComparingLines) (line : Bytes) : Bytes :=
  let isBlank (byte : UInt8) : Bool := byte == 0x20 || (0x09 ≤ byte && byte ≤ 0x0d)
  let line := if comparing.options.has "i" then line.map Printing.lower else line
  if comparing.options.has "w" then line.filter (!isBlank ·)
  else if comparing.options.has "b" then
    let (text, _) := line.foldl (fun ((text, blank) : Bytes × Bool) byte =>
      if isBlank byte then (text, true) else (byte :: (if blank then [0x20] else []) ++ text, false)) ([], false)
    text.reverse
  else line

end ComparingLines

/-- What stands for a file in a heading. -/
def headingOf (program : Program) (path : Bytes) : Deed Bytes := do
  let tree ← program.tree
  let time := match tree.number ⟨path⟩ with
    | .ok number => if path == ownInput then tree.now else tree.timeOf number
    | .error _ => if path == ownInput then tree.now else 0
  return path ++ 0x09 :: (Moment.ofNanoseconds time).show_ (utf8 "%Y-%m-%d %H:%M:%S.%N %z")

/-- Compare two texts, and tell whether they are the same. -/
def compareTexts (program : Program) (comparing : ComparingLines) (title : Bytes) (old new : Bytes × Bytes) : Deed Nat := do
  if old.2 == new.2 then
    if comparing.tellsSame then
      program.print (utf8 "Files " ++ old.1 ++ utf8 " and " ++ new.1 ++ utf8 " are identical\n")
    return 0
  let isBinary (text : Bytes) : Bool := (text.take 4096).elem 0
  let asText := comparing.options.has "a" || !(isBinary old.2 || isBinary new.2)
  if !asText && !comparing.briefly then
    program.print (title ++ utf8 "Binary files " ++ old.1 ++ utf8 " and " ++ new.1 ++ utf8 " differ\n")
    return 1
  let lines (text : Bytes) : List Bytes := records 0x0a text
  let keys (text : Bytes) : List Bytes := (lines text).map comparing.key
  let changes := Difference.changes (keys old.2) (keys new.2)
  if changes.isEmpty then
    if comparing.tellsSame then
      program.print (utf8 "Files " ++ old.1 ++ utf8 " and " ++ new.1 ++ utf8 " are identical\n")
    return 0
  if comparing.briefly then
    program.print (utf8 "Files " ++ old.1 ++ utf8 " and " ++ new.1 ++ utf8 " differ\n")
    return 1
  let heading (label : Option Bytes) (path : Bytes) : Deed Bytes := do
    match label with
    | some label => return label
    | none => program.headingOf path
  let oldHeading ← heading comparing.labels.head? old.1
  let newHeading ← heading comparing.labels[1]? new.1
  program.print (title ++ comparing.style.show_ ⟨old.1, oldHeading, lines old.2⟩ ⟨new.1, newHeading, lines new.2⟩ changes)
  return 1

/-- Read a text that is compared. An absent one can count as empty. -/
def comparedText (program : Program) (absent : Bool) (path : Bytes) : Deed (Option Bytes) := do
  match ← program.inputOf path with
  | .ok text => return some text
  | .error (.unopened .noEntry) =>
    if absent then return some []
    program.complain (path ++ utf8 s!": {Errno.noEntry.text}")
    return none
  | .error fault =>
    program.complain (path ++ utf8 s!": {fault.errno.text}")
    return none

def folderOf? (program : Program) (path : Bytes) : Deed (Option (List Bytes)) := do
  let tree ← program.tree
  if path == ownInput || !tree.isDirectory ⟨path⟩ then return none
  return ((tree.list ⟨path⟩).toOption).map fun entries => (entries.map (·.1)).mergeSort Bytes.precedes

/-- Compare two files or directories, at most so deep. -/
def comparePaths (program : Program) (comparing : ComparingLines) (title : Bytes) : Nat → Bool → Bytes → Bytes → Deed Nat
  | 0, _, _, _ => return 0
  | fuel + 1, isInner, old, new => do
    match ← program.folderOf? old, ← program.folderOf? new with
    | some olds, some news =>
      if isInner && !comparing.recursive then
        program.print (utf8 "Common subdirectories: " ++ old ++ utf8 " and " ++ new ++ [0x0a])
        return 0
      let names := (olds ++ news).eraseDups.mergeSort Bytes.precedes
      let mut code := 0
      for name in names do
        let lacksOld := !olds.contains name
        let lacksNew := !news.contains name
        if (lacksOld || lacksNew) && !comparing.absentToo then
          program.print (utf8 "Only in " ++ (if lacksOld then new else old) ++ utf8 ": " ++ name ++ [0x0a])
          code := max code 1
        else
          let found ← program.comparePaths comparing title fuel true (inside old name) (inside new name)
          code := max code found
      return code
    | some _, none => mismatch (old, "a directory") (new, "a regular file")
    | none, some _ => mismatch (old, "a regular file") (new, "a directory")
    | none, none =>
      let absent := comparing.absentToo
      match ← program.comparedText absent old, ← program.comparedText absent new with
      | some x, some y => program.compareTexts comparing (if isInner then title ++ old ++ 0x20 :: new ++ [0x0a] else []) (old, x) (new, y)
      | _, _ => return 2
where
  mismatch (old new : Bytes × String) : Deed Nat := do
    program.print (utf8 "File " ++ old.1 ++ utf8 s!" is {old.2} while file " ++ new.1 ++ utf8 s!" is {new.2}\n")
    return 1

/-- Compare two files line by line. -/
def compareLines (program : Program) : Deed Nat := do
  let grammar : OptionGrammar := ⟨"abBcC:dEeiL:lnNpqrstTuU:wyZ", [("text", .flag, "a"), ("ignore-space-change", .flag, "b"),
    ("context", .perhapsValued, "C"), ("unified", .perhapsValued, "U"), ("ignore-case", .flag, "i"), ("label", .valued, "L"),
    ("new-file", .flag, "N"), ("brief", .flag, "q"), ("recursive", .flag, "r"), ("report-identical-files", .flag, "s"),
    ("ignore-all-space", .flag, "w"), ("normal", .flag, "normal"), ("minimal", .flag, "d"), ("color", .perhapsValued, "color")],
    true⟩
  let options := grammar.read program.args
  if options.has "version" then
    program.print program.versionText
    return 0
  if options.has "help" then
    program.print program.usageText
    return 0
  if let some fault := options.fault then
    program.refuseTwice fault.message
    return 2
  let context := ((options.value? "U").or (options.value? "C")).map fun text =>
    if text.isEmpty then 3 else Printing.digits 10 (text.takeWhile Printing.isDecimal)
  let style : ChangeStyle := match options.last? ["u", "U", "c", "C", "normal"] with
    | some "u" | some "U" => .unified (context.getD 3)
    | some "c" | some "C" => .context (context.getD 3)
    | _ => .plain
  let comparing : ComparingLines := {
    options
    style
    labels := options.values "L"
    briefly := options.has "q"
    tellsSame := options.has "s"
    recursive := options.has "r"
    absentToo := options.has "N" }
  match options.operands with
  | [old, new] =>
    let switches := program.args.filter fun arg => arg.head? == some 0x2d && arg.length > 1
    let title := (utf8 "diff " ++ switches.flatMap (· ++ [0x20]))
    let (old, new) := match ← program.folderOf? old, ← program.folderOf? new with
      | some _, none => (inside old (nameOf new), new)
      | none, some _ => (old, inside new (nameOf old))
      | _, _ => (old, new)
    program.comparePaths comparing title depthLimit false old new
  | _ :: _ :: extra :: _ =>
    program.refuseTwice (utf8 "extra operand '" ++ extra ++ utf8 "'")
    return 2
  | operands =>
    program.refuseTwice (utf8 "missing operand after '" ++ operands.head?.getD program.name ++ utf8 "'")
    return 2

end Program
end ExitParity
