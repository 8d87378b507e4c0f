import ExitParity.Host.Applets.Modes
import ExitParity.Pattern

/-! The programs that list files and tell what is known about them. -/

namespace ExitParity

/-- What is known about a node. -/
structure FileFacts where
  number : Nat
  node : Node
  mode : Nat
  size : Nat
  links : Nat
  time : Nat
  /-- The target, if it is a link. -/
  target : Option Bytes

namespace FileFacts

/-- The size of a directory, and that of a program of the system. -/
def directorySize : Nat := 4096

def programSize : Nat := 65536

def sizeOf : Node → Nat
  | .file _ (.data bytes) => bytes.length
  | .file _ (.applet _) => programSize
  | .link target => target.length
  | .directory .. => directorySize
  | .device _ | .pipe .. => 0

/-- How many names a node has. -/
def linksOf (tree : FileTree) (number : Nat) : Node → Nat
  | .directory _ _ _ entries =>
    2 + entries.countP fun (_, child) => match tree.nodes[child]? with
      | some (.directory ..) => true
      | _ => false
  | _ => (tree.nodes.toList.map fun node => match node with
      | .directory _ _ _ entries => entries.countP (·.2 == number)
      | _ => 0).foldl (· + ·) 0

def of (tree : FileTree) (number : Nat) (node : Node) : FileFacts where
  number := number
  node := node
  mode := Program.modeOf node
  size := sizeOf node
  links := linksOf tree number node
  time := tree.timeOf number
  target := match node with
    | .link target => some target
    | _ => none

/-- What is known about the node that a path leads to. -/
def ofPath (tree : FileTree) (follows : Bool) (path : Bytes) : Except Errno FileFacts :=
  match if follows then tree.locate ⟨path⟩ else tree.locateEntry ⟨path⟩ with
  | .error errno => .error errno
  | .ok (.vacant ..) => .error .noEntry
  | .ok (.found number _) => (tree.nodes[number]?).elim (.error .noEntry) fun node => .ok (of tree number node)

def isDirectory (facts : FileFacts) : Bool :=
  match facts.node with
  | .directory .. => true
  | _ => false

/-- The letter of the kind of a node. -/
def kindLetter (facts : FileFacts) : UInt8 :=
  match facts.node with
  | .file .. => 0x2d
  | .link _ => 0x6c
  | .device _ => 0x63
  | .pipe .. => 0x70
  | .directory .. => 0x64

def kindName (facts : FileFacts) : String :=
  match facts.node with
  | .file _ (.data []) => "regular empty file"
  | .file .. => "regular file"
  | .link _ => "symbolic link"
  | .device _ => "character special file"
  | .pipe .. => "fifo"
  | .directory .. => "directory"

/-- The kind in the bits that stand in front of the permissions. -/
def kindBits (facts : FileFacts) : Nat :=
  match facts.node with
  | .file .. => 0o100000
  | .link _ => 0o120000
  | .device _ => 0o020000
  | .pipe .. => 0o010000
  | .directory .. => 0o040000

/-- The room that a node takes, in blocks of 512 bytes. -/
def blocks (facts : FileFacts) : Nat :=
  match facts.node with
  | .link _ | .device _ | .pipe .. => 0
  | _ => (facts.size + 4095) / 4096 * 8

def letters (facts : FileFacts) : Bytes := facts.kindLetter :: Program.modeLetters facts.mode

end FileFacts

namespace Program

/-- A size in the unit that makes it short, rounded up. -/
def humanSize (base size : Nat) : Bytes :=
  let rec go : Nat → List String → Nat → Bytes
    | _, [], _ => numeral size
    | 0, _, _ => numeral size
    | fuel + 1, unit :: units, scale =>
      if size < scale * base && !units.isEmpty then
        let tenths := (size * 10 + scale - 1) / scale
        if tenths < 100 then utf8 s!"{tenths / 10}.{tenths % 10}{unit}"
        else
          let whole := (size + scale - 1) / scale
          if whole ≥ base then go fuel units (scale * base) else utf8 s!"{whole}{unit}"
      else go fuel units (scale * base)
  if size < base then numeral size else go 10 ["K", "M", "G", "T", "P"] base

/-! ### Lists -/

/-- The mark behind a name that tells what kind of node it is. -/
def kindMark (all : Bool) (facts : FileFacts) : Bytes :=
  match facts.node with
  | .directory .. => [0x2f]
  | .link _ => if all then [0x40] else []
  | .file mode _ => if all && mode &&& 0o111 != 0 then [0x2a] else []
  | .device _ => []
  | .pipe .. => if all then [0x7c] else []

/-- Names in columns of a line, filled down or across. -/
def inColumns (across : Bool) (width : Nat) (names : List Bytes) : Bytes :=
  let names := names.toArray
  let lengthOf (index : Nat) : Nat := (names[index]?.map fun name => (Utf8.units name).length).getD 0
  let rowsFor (columns : Nat) : Nat := (names.size + columns - 1) / columns
  let indexOf (columns row column : Nat) : Nat :=
    if across then row * columns + column else column * rowsFor columns + row
  let widths (columns : Nat) : List Nat := (List.range columns).map fun column =>
    let longest := ((List.range (rowsFor columns)).map fun row => lengthOf (indexOf columns row column)).foldl max 0
    longest + if column + 1 == columns then 0 else 2
  let fits (columns : Nat) : Bool :=
    (widths columns).foldl (· + ·) 0 < width && (across || columns ≤ 1 || (columns - 1) * rowsFor columns < names.size)
  let columns := (((List.range names.size).map (· + 1)).reverse.find? fits).getD 1
  let starts := (widths columns).foldl (fun (starts, at_) width => (starts ++ [at_], at_ + width)) (([] : List Nat), 0) |>.1
  (List.range (rowsFor columns)).flatMap fun row =>
    let cells := (List.range columns).filterMap fun column =>
      let index := indexOf columns row column
      (names[index]?).map fun name => (starts[column]?.getD 0, name)
    let (line, _) := cells.foldl (fun (line, at_) (start, name) =>
      (line ++ advance at_ start (start + 1) ++ name, start + (Utf8.units name).length)) (([] : Bytes), 0)
    line ++ [0x0a]
where
  /-- The blanks from a column to another one, tabs where they reach. -/
  advance (at_ stop : Nat) : Nat → Bytes
    | 0 => []
    | fuel + 1 =>
      if at_ ≥ stop then []
      else if stop / 8 > (at_ + 1) / 8 then 0x09 :: advance (at_ / 8 * 8 + 8) stop fuel
      else 0x20 :: advance (at_ + 1) stop fuel

/-- The time of a list: the time of day for the last half year, else the year. -/
def listedTime (options : Options) (now time : Nat) : Bytes :=
  let moment := Moment.ofNanoseconds time
  let halfYear := 31556952 / 2 * 10 ^ 9
  if options.has "full-time" then moment.show_ (utf8 "%Y-%m-%d %H:%M:%S.%N +0000")
  else match options.value? "time-style" with
    | some (0x2b :: layout) => moment.show_ layout
    | some style =>
      if style == utf8 "full-iso" then moment.show_ (utf8 "%Y-%m-%d %H:%M:%S.%N +0000")
      else if style == utf8 "long-iso" then moment.show_ (utf8 "%Y-%m-%d %H:%M")
      else if style == utf8 "iso" then moment.show_ (utf8 (if time + halfYear > now then "%m-%d %H:%M" else "%Y-%m-%d "))
      else recent moment
    | none => recent moment
where
  recent (moment : Moment) : Bytes :=
    let halfYear := 31556952 / 2 * 10 ^ 9
    moment.show_ (utf8 (if time + halfYear > now && time ≤ now then "%b %e %H:%M" else "%b %e  %Y"))

/-- A name with what is known about it. -/
structure Listed where
  name : Bytes
  facts : FileFacts

/-- The number of bytes of a field, as wide as the widest. -/
def widest (texts : List Bytes) : Nat := (texts.map (·.length)).foldl max 0

/-- The lines of a long list. -/
def longLines (options : Options) (tree : FileTree) (show_ : Listed → Bytes) (listed : List Listed) : Bytes :=
  let sizes := listed.map fun entry => sizeText entry.facts
  let links := listed.map fun entry => numeral entry.facts.links
  let owner := utf8 (if options.has "n" then "0" else "root")
  (listed.zip (sizes.zip links)).flatMap fun (entry, size, link) =>
    front options (listed.map (·.facts)) entry.facts ++ entry.facts.letters ++ 0x20 :: rightAligned (widest links) link ++ 0x20 ::
      (if options.has "g" then [] else owner ++ [0x20]) ++
      (if options.any ["o", "G"] then [] else owner ++ [0x20]) ++
      rightAligned (widest sizes) size ++ 0x20 :: listedTime options tree.now entry.facts.time ++ 0x20 :: show_ entry ++
      (match entry.facts.target with
        | some target => utf8 " -> " ++ target
        | none => []) ++ [0x0a]
where
  sizeText (facts : FileFacts) : Bytes :=
    match facts.node with
    | .device _ => utf8 "1, 3"
    | _ => if options.has "h" then humanSize 1024 facts.size else numeral facts.size
  /-- The number of a node and the room that it takes. -/
  front (options : Options) (all : List FileFacts) (facts : FileFacts) : Bytes :=
    let room (facts : FileFacts) : Bytes :=
      if options.has "h" then humanSize 1024 (facts.blocks * 512) else numeral (facts.blocks / 2)
    (if options.has "i" then rightAligned (widest (all.map fun facts => numeral facts.number)) (numeral facts.number) ++ [0x20]
      else []) ++
    (if options.has "s" then rightAligned (widest (all.map room)) (room facts) ++ [0x20] else [])

/-- The text behind the last dot of a name. -/
def extension (name : Bytes) : Bytes :=
  match name.reverse.span (· != 0x2e) with
  | (_, []) => []
  | (tail, _ :: _) => 0x2e :: tail.reverse

/-- The order of a list. -/
def ordered (options : Options) (listed : List Listed) : List Listed :=
  let byName := listed.mergeSort fun one other => Bytes.precedes one.name other.name
  let sorted := match options.last? ["t", "S", "X", "U", "f", "v", "c", "u"] with
    | some "t" => byName.mergeSort fun one other => one.facts.time ≥ other.facts.time
    | some "S" => byName.mergeSort fun one other => one.facts.size ≥ other.facts.size
    | some "X" => byName.mergeSort fun one other => Bytes.precedes (extension one.name) (extension other.name)
    | some "U" | some "f" => listed
    | _ => byName
  let sorted := if options.has "r" && !options.any ["U", "f"] then sorted.reverse else sorted
  if options.has "directories-first" then
    sorted.filter (·.facts.isDirectory) ++ sorted.filter fun entry => !entry.facts.isDirectory
  else sorted

/-- The text of a list of names. -/
def listText (options : Options) (tree : FileTree) (listed : List Listed) (totalled : Bool) : Bytes :=
  let long := options.any ["l", "n", "o", "g", "full-time"]
  let quoted (name : Bytes) : Bytes :=
    if options.has "Q" then 0x22 :: name.flatMap (fun byte =>
      if byte == 0x22 || byte == 0x5c then [0x5c, byte] else if byte == 0x0a then utf8 "\\n" else [byte]) ++ [0x22]
    else if options.has "b" then name.flatMap fun byte =>
      if byte == 0x20 then utf8 "\\ " else if byte == 0x5c then utf8 "\\\\" else
        match Quoting.controlLetter? byte with
        | some letter => [0x5c, letter]
        | none => [byte]
    else if options.has "q" then name.map fun byte => if byte < 0x20 || byte == 0x7f then 0x3f else byte
    else name
  let mark (facts : FileFacts) : Bytes :=
    if options.has "F" then if long && facts.target.isSome then [] else kindMark true facts
    else if options.has "p" then kindMark false facts else []
  let show_ (entry : Listed) : Bytes := quoted entry.name ++ mark entry.facts
  let shown := listed.map fun entry => longLines.front options (listed.map (·.facts)) entry.facts ++ show_ entry
  let total := (listed.map (·.facts.blocks)).foldl (· + ·) 0
  let heading := if totalled && (long || options.has "s") then
      utf8 "total " ++ (if options.has "h" then humanSize 1024 (total * 512) else numeral (total / 2)) ++ [0x0a] else []
  let width := (options.value? "w").elim 80 (Printing.digits 10)
  heading ++ match options.last? ["l", "n", "o", "g", "full-time", "C", "x", "m", "1"] with
    | some "C" => if listed.isEmpty then [] else inColumns false width shown
    | some "x" => if listed.isEmpty then [] else inColumns true width shown
    | some "m" => if listed.isEmpty then [] else Bytes.joinWith (utf8 ", ") shown ++ [0x0a]
    | _ => if long then longLines options tree show_ listed else Bytes.unlines shown

/-- Whether a name is shown in a list. -/
def isShown (options : Options) (name : Bytes) : Bool :=
  let matchesAny (key : String) : Bool := (options.values key).any fun pattern =>
    Pattern.accepts (Pattern.ofText pattern) name
  (options.any ["a", "A", "f"] || name.head? != some 0x2e) &&
    !(options.has "B" && name.getLast? == some 0x7e) && !matchesAny "I" &&
    !(matchesAny "hide" && !options.any ["a", "A"])

/-- List a directory, and those below it. -/
def listFolder (program : Program) (options : Options) (headed : Bool) : Nat → Bool → Bytes → Deed Bool
  | 0, _, _ => return false
  | fuel + 1, isFirst, folder => do
    let tree ← program.tree
    match tree.list ⟨folder⟩ with
    | .error errno =>
      program.complainOf (utf8 "cannot open directory " ++ Quoting.always folder) errno
      return false
    | .ok entries =>
      let known := entries.filterMap fun (name, number) => (tree.nodes[number]?).map fun node =>
        ({ name, facts := match node with
          | .link _ => if options.has "L" then (FileFacts.ofPath tree true (inside folder name)).toOption.getD (.of tree number node)
            else .of tree number node
          | node => .of tree number node } : Listed)
      let dots := if options.any ["a", "f"] then [Path.dot, Path.dotdot].filterMap fun name =>
          (FileFacts.ofPath tree true (inside folder name)).toOption.map (⟨name, ·⟩ : FileFacts → Listed) else []
      let listed := ordered options (dots ++ known.filter fun entry => isShown options entry.name)
      let heading := if headed then (if isFirst then [] else [0x0a]) ++ folder ++ utf8 ":\n" else []
      program.print (heading ++ listText options tree listed true)
      if !options.has "R" then return true
      let code ← forEach (fun entry => do
          program.listFolder options headed fuel false (inside folder entry))
        ((listed.filter fun entry => entry.facts.isDirectory && entry.name != Path.dot && entry.name != Path.dotdot).map (·.name))
      return code == 0

def listGrammar : OptionGrammar where
  letters := "aAbBcCdfFgGhHiI:klLmnNopqQrRsStT:uUvw:xXZ1"
  long := [("all", .flag, "a"), ("almost-all", .flag, "A"), ("escape", .flag, "b"), ("ignore-backups", .flag, "B"),
    ("directory", .flag, "d"), ("classify", .perhapsValued, "F"), ("no-group", .flag, "G"), ("human-readable", .flag, "h"),
    ("inode", .flag, "i"), ("ignore", .valued, "I"), ("hide", .valued, "hide"), ("kibibytes", .flag, "k"),
    ("dereference", .flag, "L"), ("numeric-uid-gid", .flag, "n"), ("literal", .flag, "N"), ("hide-control-chars", .flag, "q"),
    ("quote-name", .flag, "Q"), ("reverse", .flag, "r"), ("recursive", .flag, "R"), ("size", .flag, "s"), ("width", .valued, "w"),
    ("color", .perhapsValued, "color"), ("full-time", .flag, "full-time"), ("time-style", .valued, "time-style"),
    ("group-directories-first", .flag, "directories-first"), ("format", .valued, "format"), ("sort", .valued, "sort"),
    ("time", .valued, "time"), ("file-type", .flag, "F"), ("dereference-command-line", .flag, "H"), ("si", .flag, "h"),
    ("tabsize", .valued, "T"), ("show-control-chars", .flag, "N"), ("author", .flag, "author"),
    ("quoting-style", .valued, "quoting"), ("block-size", .valued, "block"), ("indicator-style", .valued, "indicator")]
  permuted := true

/-- The letters that stand for the values of two long options. -/
def listKey (key : String) (value : Bytes) : String :=
  match key, Utf8.display value with
  | "format", "long" | "format", "verbose" => "l"
  | "format", "single-column" => "1"
  | "format", "commas" => "m"
  | "format", "across" | "format", "horizontal" => "x"
  | "format", "vertical" => "C"
  | "sort", "none" => "U"
  | "sort", "size" => "S"
  | "sort", "time" => "t"
  | "sort", "extension" => "X"
  | key, _ => key

def list (program : Program) : Deed Nat :=
  program.withOptions listGrammar 2 fun options => do
  let options := { options with given := options.given.map fun (key, value) => (listKey key value, value) }
  let operands := if options.operands.isEmpty then [Path.dot] else options.operands
  let tree ← program.tree
  let asItIs := options.has "d" || options.any ["l", "F", "n", "o", "g"]
  let follows (path : Bytes) : Bool := options.any ["L", "H"] || !asItIs || path.getLast? == some Path.slash
  let found := operands.map fun path =>
    (path, match FileFacts.ofPath tree (follows path) path with
      | .error .noEntry => FileFacts.ofPath tree false path
      | result => result)
  for (path, result) in found do
    match result with
    | .error errno => program.complainOf (utf8 "cannot access " ++ Quoting.always path) errno
    | .ok _ => pure ()
  let present := found.filterMap fun (path, result) => result.toOption.map (⟨path, ·⟩ : FileFacts → Listed)
  let isFolder (entry : Listed) : Bool := entry.facts.isDirectory && !options.has "d"
  let files := ordered options (present.filter (!isFolder ·))
  let folders := ordered options (present.filter isFolder)
  if !files.isEmpty then program.print (listText options tree files false)
  let headed := operands.length > 1 || options.has "R"
  let mut sound := true
  let mut isFirst := files.isEmpty
  for folder in folders do
    if !(← program.listFolder options headed depthLimit isFirst folder.name) then sound := false
    isFirst := false
  return if present.length < operands.length || (!sound && operands.length ≤ 1) then 2 else if sound then 0 else 1

/-! ### Facts in a format -/

/-- Fill a fact up to the width of its directive. -/
def padFact (flags : Bytes) (width : Nat) (text : Bytes) : Bytes :=
  let isNumber := text.all Printing.isDecimal
  if flags.elem 0x2d then text ++ List.replicate (width - text.length) 0x20
  else List.replicate (width - text.length) (if flags.elem 0x30 && isNumber then 0x30 else 0x20) ++ text

/-- What a letter of a format of `stat` stands for. -/
def factOf (path : Bytes) (facts : FileFacts) (letter : UInt8) : Option Bytes :=
  let moment := Moment.ofNanoseconds facts.time
  match Char.ofNat letter.toNat with
  | 'a' => some (Printing.toDigits 8 facts.mode)
  | 'A' => some facts.letters
  | 'b' => some (numeral facts.blocks)
  | 'B' => some (utf8 "512")
  | 'd' | 'D' => some (utf8 "64")
  | 'f' => some (Printing.toDigits 16 (facts.kindBits ||| facts.mode))
  | 'F' => some (utf8 facts.kindName)
  | 'g' | 'u' | 'W' => some (utf8 "0")
  | 'G' | 'U' => some (utf8 "root")
  | 'h' => some (numeral facts.links)
  | 'i' => some (numeral (facts.number + 1000))
  | 'm' => some (utf8 "/")
  | 'n' => some path
  | 'N' => some (Quoting.always path ++ (match facts.target with
      | some target => utf8 " -> " ++ Quoting.always target
      | none => []))
  | 'o' => some (utf8 "4096")
  | 's' => some (numeral facts.size)
  | 't' => some (utf8 (if facts.kindLetter == 0x63 then "1" else "0"))
  | 'T' => some (utf8 (if facts.kindLetter == 0x63 then "3" else "0"))
  | 'w' => some (utf8 "-")
  | 'x' | 'y' | 'z' => some (moment.show_ (utf8 "%Y-%m-%d %H:%M:%S.%N +0000"))
  | 'X' | 'Y' | 'Z' => some (numeral (facts.time / 10 ^ 9))
  | _ => none

/-- Write the facts about a file as a format says. -/
def factText (escapes : Bool) (path : Bytes) (facts : FileFacts) : Nat → Bytes → Bytes
  | fuel + 1, 0x25 :: rest =>
    let flags := rest.takeWhile fun byte => (utf8 "#-+ 0").elem byte
    let width := (rest.drop flags.length).takeWhile Printing.isDecimal
    let after := rest.drop (flags.length + width.length)
    let precision := if after.head? == some 0x2e then 0x2e :: (after.drop 1).takeWhile Printing.isDecimal else []
    match after.drop precision.length with
    | [] => 0x25 :: rest
    | 0x25 :: rest => 0x25 :: factText escapes path facts fuel rest
    | letter :: rest =>
      (match factOf path facts letter with
        | some text => padFact flags (Printing.digits 10 width) text
        | none => [0x3f]) ++ factText escapes path facts fuel rest
  | fuel + 1, 0x5c :: rest =>
    if escapes then
      let (value, rest) := Printing.escape rest
      value :: factText escapes path facts fuel rest
    else 0x5c :: factText escapes path facts fuel rest
  | fuel + 1, byte :: rest => byte :: factText escapes path facts fuel rest
  | _, _ => []

/-- What `stat` tells when it is not told what to tell. -/
def usualFacts (facts : FileFacts) : Bytes :=
  utf8 ("  File: %N\n  Size: %-10s\tBlocks: %-10b IO Block: %-6o %F\nDevice: 0,%d\tInode: %-11i Links: %h" ++
    (if facts.kindLetter == 0x63 then "     Device type: %t,%T\n" else "\n") ++
    "Access: (%04a/%10.10A)  Uid: (%5u/%8U)   Gid: (%5g/%8G)\nAccess: %x\nModify: %y\nChange: %z\n Birth: %w\n")

def tellFacts (program : Program) : Deed Nat :=
  program.withOptions ⟨"c:fLt", [("format", .valued, "c"), ("printf", .valued, "printf"), ("dereference", .flag, "L"),
    ("file-system", .flag, "f"), ("terse", .flag, "t"), ("cached", .valued, "cached")], true⟩ 1 fun options => do
  if options.operands.isEmpty then
    program.refuse (utf8 "missing operand")
    return 1
  let tree ← program.tree
  forEach (fun path => do
    match FileFacts.ofPath tree (options.has "L") path with
    | .error errno =>
      program.complainOf (utf8 "cannot statx " ++ Quoting.always path) errno
      return false
    | .ok facts =>
      let write (escapes : Bool) (layout ending : Bytes) : Deed Unit :=
        program.print (factText escapes path facts (layout.length + 1) layout ++ ending)
      match options.last? ["c", "printf"] with
      | some "c" => write false ((options.value? "c").getD []) [0x0a]
      | some _ => write true ((options.value? "printf").getD []) []
      | none =>
        -- the name is quoted here only where a link is shown
        let layout := usualFacts facts
        let layout := if facts.target.isSome then layout else utf8 "  File: %n" ++ layout.drop 10
        write false layout []
      return true) options.operands

/-! ### The room that files take -/

/-- How the room is told. -/
structure RoomStyle where
  all : Bool
  totalsOnly : Bool
  apparent : Bool
  unit : Nat
  human : Bool
  depth : Option Nat
  ending : UInt8

def RoomStyle.show_ (style : RoomStyle) (room : Nat) (path : Bytes) : Bytes :=
  (if style.human then humanSize 1024 room else numeral ((room + style.unit - 1) / style.unit)) ++ 0x09 :: path ++ [style.ending]

def RoomStyle.roomOf (style : RoomStyle) (facts : FileFacts) : Nat :=
  if style.apparent then
    match facts.node with
    | .file .. | .link _ => facts.size
    | _ => 0
  else facts.blocks * 512

/-- Tell the room that a path takes with all below it. Nodes met before do not
count again. -/
def tellRoom (program : Program) (style : RoomStyle) : Nat → Nat → List Nat → Bytes → Deed (Option (Nat × List Nat) × Bool)
  | 0, _, seen, _ => return (some (0, seen), true)
  | fuel + 1, level, seen, path => do
    let tree ← program.tree
    match FileFacts.ofPath tree false path with
    | .error errno =>
      program.complainOf (utf8 "cannot access " ++ Quoting.always path) errno
      return (none, false)
    | .ok facts =>
      if seen.contains facts.number then return (none, true)
      let mut seen := facts.number :: seen
      let mut room := style.roomOf facts
      let mut sound := true
      if facts.isDirectory then
        match tree.list ⟨path⟩ with
        | .error errno =>
          program.complainOf (utf8 "cannot read directory " ++ Quoting.always path) errno
          sound := false
        | .ok entries =>
          for (name, _) in entries do
            let (result, well) ← program.tellRoom style fuel (level + 1) seen (inside path name)
            sound := sound && well
            if let some (below, known) := result then
              room := room + below
              seen := known
      let isDeep := style.depth.any (· < level)
      if level == 0 || (!style.totalsOnly && !isDeep && (facts.isDirectory || style.all)) then
        program.print (style.show_ room path)
      return (some (room, seen), sound)

def tellRooms (program : Program) : Deed Nat :=
  program.withOptions ⟨"0abcd:DhHklLmPsStxX:B:", [("null", .flag, "0"), ("all", .flag, "a"), ("bytes", .flag, "b"),
    ("total", .flag, "c"), ("max-depth", .valued, "d"), ("human-readable", .flag, "h"), ("kilobytes", .flag, "k"),
    ("summarize", .flag, "s"), ("apparent-size", .flag, "apparent"), ("block-size", .valued, "B"),
    ("dereference", .flag, "L"), ("one-file-system", .flag, "x"), ("exclude", .valued, "X"), ("count-links", .flag, "l")], true⟩ 1
    fun options => do
  let style : RoomStyle := {
    all := options.has "a"
    totalsOnly := options.has "s"
    apparent := options.any ["b", "apparent"]
    unit := if options.has "b" then 1 else if options.has "m" then 1048576 else
      ((options.value? "B").bind amount?).getD 1024
    human := options.has "h"
    depth := (options.value? "d").map (Printing.digits 10)
    ending := if options.has "0" then 0 else 0x0a }
  let mut seen : List Nat := []
  let mut total := 0
  let mut code := 0
  for path in if options.operands.isEmpty then [Path.dot] else options.operands do
    let (result, sound) ← program.tellRoom style depthLimit 0 seen path
    if !sound then code := 1
    if let some (room, known) := result then
      total := total + room
      seen := known
  if options.has "c" then program.print (style.show_ total (utf8 "total"))
  return code

end Program
end ExitParity
