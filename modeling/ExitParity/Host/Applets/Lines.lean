import ExitParity.Host.Applets.Inputs
import ExitParity.Host.Letters

/-! The programs that turn lines round, number them, fold them and put them side by side. -/

namespace ExitParity.Program

def reverseLines (program : Program) : Deed Nat :=
  program.withOptions ⟨"brs:", [("before", .flag, "b"), ("regex", .flag, "r"), ("separator", .valued, "s")], true⟩ 1
    fun options => do
  let separator := ((options.value? "s").bind (·.head?)).getD 0x0a
  forEach (fun path => do
    match ← program.inputOf path with
    | .ok text =>
      program.print (records separator text).reverse.flatten
      return true
    | .error (.unopened errno) =>
      program.complainOf (utf8 "failed to open " ++ Quoting.always path ++ utf8 " for reading") errno
      return false
    | .error (.unread errno) =>
      program.complainOf (Quoting.whenNeeded path ++ utf8 ": read error") errno
      return false) (inputs options.operands)

def reverseLetters (program : Program) : Deed Nat :=
  program.withOptions ⟨"hV", [], true⟩ 1 fun options => do
  forEach (fun path => do
    match ← program.inputOf path with
    | .ok text =>
      program.print ((records 0x0a text).flatMap fun record =>
        let (body, ending) := if record.getLast? == some 0x0a then (record.dropLast, [0x0a]) else (record, [])
        Letters.toBytes true (Letters.ofBytes true body).reverse ++ ending)
      return true
    | .error fault =>
      let _ ← program.write 2 (utf8 "rev: cannot open " ++ path ++ utf8 s!": {fault.errno.text}\n")
      return false) (inputs options.operands)

def numberLines (program : Program) : Deed Nat :=
  program.withOptions ⟨"b:d:f:h:i:l:n:ps:v:w:", [("body-numbering", .valued, "b"), ("number-format", .valued, "n"),
    ("number-separator", .valued, "s"), ("starting-line-number", .valued, "v"), ("line-increment", .valued, "i"),
    ("number-width", .valued, "w"), ("join-blank-lines", .valued, "l"), ("no-renumber", .flag, "p")], true⟩ 1
    fun options => do
  let start ← program.countOption options "v" "starting line number" 1
  let increment ← program.countOption options "i" "line number increment" 1
  let width ← program.countOption options "w" "line number field width" 6
  let separator := (options.value? "s").getD [0x09]
  let style := (options.value? "b").getD (utf8 "t")
  let layout := (options.value? "n").getD (utf8 "rn")
  let show_ (number : Nat) : Bytes :=
    let digits := numeral number
    if layout == utf8 "ln" then digits ++ List.replicate (width - digits.length) 0x20
    else if layout == utf8 "rz" then List.replicate (width - digits.length) 0x30 ++ digits
    else rightAligned width digits
  let mut number := start
  let mut code := 0
  for path in inputs options.operands do
    match ← program.plainInput path with
    | none => code := 1
    | some text =>
      let mut shown : List Bytes := []
      for line in Bytes.lines 0x0a text do
        let counted := style == utf8 "a" || (style == utf8 "t" && !line.isEmpty)
        if counted then
          shown := (show_ number ++ separator ++ line ++ [0x0a]) :: shown
          number := number + increment
        else shown := (List.replicate (width + separator.length) 0x20 ++ line ++ [0x0a]) :: shown
      program.print shown.reverse.flatten
  return code

/-- Fold one line at a width. With `atBlanks` it is broken behind a blank if
there is one. -/
def foldLine (width : Nat) (byColumns atBlanks : Bool) : Nat → Bytes → List Bytes → List Bytes
  | 0, line, before => (line :: before).reverse
  | fuel + 1, line, before =>
    let fitting := fit 0 0 line
    if fitting ≥ line.length then (line :: before).reverse
    else
      let part := line.take (max fitting 1)
      let cut := if atBlanks then
          let blank := part.reverse.dropWhile fun byte => byte != 0x20 && byte != 0x09
          if blank.isEmpty then part.length else blank.length
        else part.length
      foldLine width byColumns atBlanks fuel (line.drop cut) (line.take cut :: before)
where
  /-- How many bytes fit into the width. -/
  fit (column count : Nat) : Bytes → Nat
    | [] => count
    | byte :: rest =>
      let after :=
        if !byColumns then column + 1
        else if byte == 0x09 then column + (8 - column % 8)
        else if byte == 0x08 then column - 1
        else if byte == 0x0d then 0
        else column + 1
      if after > width then count else fit after (count + 1) rest

def fold (program : Program) : Deed Nat :=
  program.withOptions ⟨"bsw:", [("bytes", .flag, "b"), ("spaces", .flag, "s"), ("width", .valued, "w")], true⟩ 1
    fun options => do
  let width ← program.countOption options "w" "number of columns" 80
  if width == 0 then
    program.complain (utf8 "invalid number of columns: " ++ Quoting.curly (utf8 "0") ++
      utf8 ": Numerical result out of range")
    return 1
  program.eachText (inputs options.operands) fun text =>
    program.print ((records 0x0a text).flatMap fun record =>
      let (body, ending) := if record.getLast? == some 0x0a then (record.dropLast, [0x0a]) else (record, [])
      Bytes.joinWith [0x0a] (foldLine width (!options.has "b") (options.has "s") body.length body []) ++ ending)

/-- The next stop behind a column: at multiples of a width, or the first of a
list that is behind it. -/
def nextStop (stops : List Nat) (column : Nat) : Nat :=
  match stops with
  | [] => column + (8 - column % 8)
  | [width] => column + (width - column % width)
  | stops => (stops.find? (column < ·)).getD (column + 1)

/-- The stops of an option such as `4` or `4,8,20`. -/
def stopsOf (options : Options) : List Nat :=
  match options.value? "t" with
  | none => []
  | some text =>
    ((text.foldr (fun byte (parts : List Bytes) =>
      if byte == 0x2c || byte == 0x20 then [] :: parts
      else match parts with
        | part :: parts => (byte :: part) :: parts
        | [] => [[byte]]) [[]]).map (Printing.digits 10)).filter (0 < ·)

def expandTabs (program : Program) : Deed Nat :=
  program.withOptions ⟨"it:", [("initial", .flag, "i"), ("tabs", .valued, "t")], true⟩ 1 fun options => do
  let stops := stopsOf options
  program.eachText (inputs options.operands) fun text =>
    let (shown, _) := text.foldl (fun ((shown, column, begins) : List Bytes × Nat × Bool) byte =>
      if byte == 0x0a then ([byte] :: shown, 0, true)
      else if byte == 0x09 && (begins || !options.has "i") then
        let stop := nextStop stops column
        (List.replicate (stop - column) 0x20 :: shown, stop, begins)
      else if byte == 0x08 then ([byte] :: shown, column - 1, begins)
      else ([byte] :: shown, column + 1, begins && (byte == 0x20 || byte == 0x09))) ([], 0, true)
    program.print shown.reverse.flatten

def contractBlanks (program : Program) : Deed Nat :=
  program.withOptions ⟨"at:", [("all", .flag, "a"), ("tabs", .valued, "t"), ("first-only", .flag, "f")], true⟩ 1
    fun options => do
  let stops := stopsOf options
  let everywhere := options.any ["a", "t"] && !options.has "f"
  let line (text : Bytes) : Bytes :=
    let finish (blanks : Nat) : Bytes := List.replicate blanks 0x20
    let (shown, _, blanks, _) := text.foldl
      (fun ((shown, column, blanks, begins) : List Bytes × Nat × Nat × Bool) byte =>
        if !(begins || everywhere) then ([byte] :: shown, column + 1, 0, begins)
        else if byte == 0x20 then
          let column := column + 1
          if nextStop stops (column - 1) == column then
            ((if blanks == 0 && !begins then [0x20] else [0x09]) :: shown, column, 0, begins)
          else (shown, column, blanks + 1, begins)
        else if byte == 0x09 then ([0x09] :: shown, nextStop stops column, 0, begins)
        else ([byte] :: finish blanks :: shown, column + 1, 0, false)) ([], 0, 0, true)
    (finish blanks :: shown).reverse.flatten
  program.eachText (inputs options.operands) fun text =>
    program.print ((records 0x0a text).flatMap fun record =>
      if record.getLast? == some 0x0a then line record.dropLast ++ [0x0a] else line record)

/-- The separators of a list in which some stand behind a backslash. -/
def separatorsOf : Bytes → List Bytes
  | [] => []
  | 0x5c :: letter :: rest =>
    (if letter == 0x6e then [0x0a] else if letter == 0x74 then [0x09] else if letter == 0x30 then [] else [letter]) ::
      separatorsOf rest
  | byte :: rest => [byte] :: separatorsOf rest

/-- Join parts with separators that come round again. -/
def joinRound (separators : List Bytes) (parts : List Bytes) : Bytes :=
  let rec go : List Bytes → List Bytes → Bytes
    | _, [] => []
    | _, [part] => part
    | [], part :: parts => part ++ go separators parts
    | separator :: others, part :: parts => part ++ separator ++ go (if others.isEmpty then separators else others) parts
  go separators parts

/-- The lines of texts side by side, as long as one of them has a line left. -/
def besides : Nat → List (List Bytes) → List (List Bytes)
  | 0, _ => []
  | fuel + 1, columns =>
    if columns.all (·.isEmpty) then []
    else columns.map (fun column => column.head?.getD []) :: besides fuel (columns.map (·.drop 1))

/-- Deal lines out to the columns that share an input. -/
def dealt (lines : List Bytes) (count place : Nat) : List Bytes :=
  (lines.zipIdx.filter fun (_, index) => index % count == place).map (·.1)

def paste (program : Program) : Deed Nat :=
  program.withOptions ⟨"d:sz", [("delimiters", .valued, "d"), ("serial", .flag, "s"), ("zero-terminated", .flag, "z")], true⟩
    1 fun options => do
  let separators := separatorsOf ((options.value? "d").getD [0x09])
  let separators := if separators.isEmpty then [[]] else separators
  let paths := inputs options.operands
  let mut columns : List (Bytes × List Bytes) := []
  let mut code := 0
  let own := paths.filter (· == ownInput)
  let ownLines ← if own.isEmpty then pure (some []) else do
    pure ((← program.plainInput ownInput).map (Bytes.lines 0x0a))
  let mut place := 0
  for path in paths do
    if path == ownInput then
      let lines := ownLines.getD []
      columns := columns ++ [(path, if options.has "s" then if place == 0 then lines else [] else
        dealt lines own.length place)]
      place := place + 1
    else match ← program.plainInput path with
      | some text => columns := columns ++ [(path, Bytes.lines 0x0a text)]
      | none =>
        if !options.has "s" then return 1
        code := 1
  if options.has "s" then
    program.print (columns.flatMap fun (_, lines) => joinRound separators lines ++ [0x0a])
  else
    let longest := (columns.map (·.2.length)).foldl max 0
    program.print ((besides longest (columns.map (·.2))).flatMap fun row => joinRound separators row ++ [0x0a])
  return code

end ExitParity.Program
