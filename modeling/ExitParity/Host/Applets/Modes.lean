import ExitParity.Host.Applets.Paths
import ExitParity.Host.Calendar

/-! The programs that make files and directories and change their permissions,
times and lengths. -/

namespace ExitParity

/-- One change of permissions: an operator, the bits it may touch, and the
letters behind it. -/
structure ModeClause where
  /-- Whose permissions are meant; nobody being named, the mask counts. -/
  who : Bytes
  operator : UInt8
  letters : Bytes

/-- A description of permissions. -/
inductive ModeChange where
  | exactly (mode : Nat)
  | stepwise (clauses : List ModeClause)

namespace ModeClause

def isOperator (byte : UInt8) : Bool := byte == 0x2b || byte == 0x2d || byte == 0x3d

/-- The clauses of a part between commas, such as `u+x-w`. -/
def ofText? (who : Bytes) : Nat → Bytes → Option (List ModeClause)
  | 0, _ => none
  | _, [] => some []
  | fuel + 1, operator :: rest =>
    if !isOperator operator then none
    else
      let letters := rest.takeWhile (!isOperator ·)
      let isCopy := letters.length == 1 && (utf8 "ugo").elem (letters.head?.getD 0)
      if !isCopy && !letters.all (fun letter => (utf8 "rwxXst").elem letter) then none
      else (ofText? who fuel (rest.drop letters.length)).map (⟨who, operator, letters⟩ :: ·)

/-- The bits of a class of users. -/
def scope (who : Bytes) : Nat :=
  if who.isEmpty || who.elem 0x61 then 0o7777
  else (if who.elem 0x75 then 0o4700 else 0) ||| (if who.elem 0x67 then 0o2070 else 0) |||
    (if who.elem 0x6f then 0o1007 else 0)

/-- The bits that a letter stands for. -/
def bits (mode : Nat) (isDirectory : Bool) (letter : UInt8) : Nat :=
  let copied (shift : Nat) : Nat := (mode >>> shift) % 8 * 0o111
  match Char.ofNat letter.toNat with
  | 'r' => 0o444
  | 'w' => 0o222
  | 'x' => 0o111
  | 'X' => if isDirectory || mode &&& 0o111 != 0 then 0o111 else 0
  | 's' => 0o6000
  | 't' => 0o1000
  | 'u' => copied 6
  | 'g' => copied 3
  | 'o' => copied 0
  | _ => 0

def apply (mode : Nat) (isDirectory : Bool) (mask : Nat) (clause : ModeClause) : Nat :=
  let scope := scope clause.who
  let all := clause.letters.foldl (fun all letter => all ||| bits mode isDirectory letter) 0 &&& scope
  let all := if clause.who.isEmpty then all &&& (0o7777 ^^^ mask) else all
  if clause.operator == 0x2b then mode ||| all
  else if clause.operator == 0x2d then mode &&& (0o7777 ^^^ all)
  else
    let kept := if isDirectory then 0o6000 else 0
    (mode &&& ((0o7777 ^^^ scope) ||| kept)) ||| all

end ModeClause

namespace ModeChange

/-- Read a description such as `755` or `u+x,go-w`. -/
def ofText? (text : Bytes) : Option ModeChange :=
  if !text.isEmpty && text.all Printing.isOctal then
    let mode := Printing.digits 8 text
    if mode ≤ 0o7777 then some (.exactly mode) else none
  else
    ((Bytes.split 0x2c text).mapM fun (part : Bytes) =>
      let who := part.takeWhile fun byte => (utf8 "ugoa").elem byte
      let body := part.drop who.length
      if body.isEmpty then none else ModeClause.ofText? who (body.length + 1) body).map fun clauses =>
        .stepwise clauses.flatten

/-- What a description makes of permissions. -/
def apply (mode : Nat) (isDirectory : Bool) (mask : Nat) : ModeChange → Nat
  | .exactly wanted => wanted
  | .stepwise clauses => clauses.foldl (fun mode clause => clause.apply mode isDirectory mask) mode

end ModeChange

namespace Program

def modeOf : Node → Nat
  | .file mode _ | .directory mode .. | .pipe mode _ => mode
  | .link _ => 0o777
  | .device _ => 0o666

/-- The letters of permissions. -/
def modeLetters (mode : Nat) : Bytes :=
  let part (shift special : Nat) (low high : UInt8) : Bytes :=
    let has (bit : Nat) : Bool := (mode >>> shift) &&& bit != 0
    let isSpecial := mode &&& special != 0
    [if has 4 then 0x72 else 0x2d, if has 2 then 0x77 else 0x2d,
      if isSpecial then if has 1 then low else high else if has 1 then 0x78 else 0x2d]
  part 6 0o4000 0x73 0x53 ++ part 3 0o2000 0x73 0x53 ++ part 0 0o1000 0x74 0x54

def modeDigits (mode : Nat) : Bytes :=
  let digits := Printing.toDigits 8 mode
  List.replicate (4 - digits.length) 0x30 ++ digits

/-- Change the permissions of a file, and of all below it. -/
def changeModeOf (program : Program) (options : Options) (wanted : Node → Nat) : Nat → Bytes → Deed Bool
  | 0, _ => return false
  | fuel + 1, target => do
    let quiet := options.has "f"
    match (← program.tree).node ⟨target⟩ with
    | .error errno =>
      if !quiet then program.complainOf (utf8 "cannot access " ++ Quoting.always target) errno
      return false
    | .ok node =>
      let former := modeOf node &&& 0o7777
      let mode := wanted node
      match ← program.change (·.setMode ⟨target⟩ mode) with
      | .error errno =>
        if !quiet then program.complainOf (utf8 "changing permissions of " ++ Quoting.always target) errno
        return false
      | .ok () =>
        let described (mode : Nat) : Bytes := modeDigits mode ++ utf8 " (" ++ modeLetters mode ++ utf8 ")"
        if options.has "v" || (options.has "c" && mode != former) then
          program.print (utf8 "mode of " ++ Quoting.always target ++ (if mode == former then
            utf8 " retained as " ++ described mode else utf8 " changed from " ++ described former ++ utf8 " to " ++ described mode) ++
            [0x0a])
        match node with
        | .directory .. =>
          if options.has "R" then
            match (← program.tree).list ⟨target⟩ with
            | .error errno =>
              if !quiet then program.complainOf (utf8 "cannot read directory " ++ Quoting.always target) errno
              return false
            | .ok entries =>
              let code ← forEach (fun name => do
                let path := inside target name
                match (← program.tree).entryNode ⟨path⟩ with
                | .ok (.link _) => return true
                | _ => program.changeModeOf options wanted fuel path) (entries.map (·.1))
              return code == 0
          else return true
        | _ => return true

/-- Take a description such as `-x` for no option. -/
def guardModes (args : List Bytes) : List Bytes :=
  match args.findIdx? fun arg => arg.head? == some 0x2d && (arg.drop 1).head?.any (fun byte => (utf8 "rwxXstugo=+,").elem byte) &&
      (ModeChange.ofText? arg).isSome with
  | some index => args.take index ++ utf8 "--" :: args.drop index
  | none => args

def changeMode (program : Program) : Deed Nat :=
  let program := { program with argv := program.name :: guardModes program.args }
  program.withOptions ⟨"Rcfv", [("recursive", .flag, "R"), ("changes", .flag, "c"), ("silent", .flag, "f"),
    ("quiet", .flag, "f"), ("verbose", .flag, "v"), ("reference", .valued, "reference"),
    ("preserve-root", .flag, "root"), ("no-preserve-root", .flag, "root")], true⟩ 1 fun options => do
  let refuse (text : Bytes) : Deed Nat := do
    program.refuse text
    return 1
  let mask ← .look (·.maskOf program.process)
  match options.value? "reference", options.operands with
  | some path, targets =>
    match (← program.tree).node ⟨path⟩ with
    | .error errno =>
      program.complainOf (utf8 "failed to get attributes of " ++ Quoting.always path) errno
      return 1
    | .ok node =>
      if targets.isEmpty then refuse (utf8 "missing operand")
      else forEach (program.changeModeOf options (fun _ => modeOf node) depthLimit) targets
  | none, [] => refuse (utf8 "missing operand")
  | none, [mode] => refuse (utf8 "missing operand after " ++ Quoting.curly mode)
  | none, mode :: targets =>
    match ModeChange.ofText? mode with
    | none => refuse (utf8 "invalid mode: " ++ Quoting.curly mode)
    | some change =>
      forEach (program.changeModeOf options (fun node =>
        let isFolder := match node with
          | .directory .. => true
          | _ => false
        change.apply (modeOf node) isFolder mask) depthLimit) targets

/-- Whose file something is makes no difference to the only user. -/
def changeOwner (program : Program) : Deed Nat :=
  program.withOptions ⟨"RcfvhHLP", [("recursive", .flag, "R"), ("changes", .flag, "c"), ("verbose", .flag, "v"),
    ("silent", .flag, "f"), ("quiet", .flag, "f"), ("no-dereference", .flag, "h"), ("reference", .valued, "reference")], true⟩ 1
    fun options => do
  match if options.has "reference" then [] :: options.operands else options.operands with
  | [] =>
    program.refuse (utf8 "missing operand")
    return 1
  | [owner] =>
    program.refuse (utf8 "missing operand after " ++ Quoting.curly owner)
    return 1
  | _ :: targets =>
    forEach (fun target => do
      match (← program.tree).entryNode ⟨target⟩ with
      | .ok _ => return true
      | .error errno =>
        program.complainOf (utf8 "cannot access " ++ Quoting.always target) errno
        return false) targets

/-- The directories on the way to a path that are missing, and the path itself. -/
def missingPlaces (tree : FileTree) (path : Bytes) : List Bytes :=
  ((FileTree.waypoints ⟨path⟩).filter fun place => !tree.isDirectory place).map (·.bytes)

def makeDirectory (program : Program) : Deed Nat :=
  program.withOptions ⟨"m:pvZ", [("mode", .valued, "m"), ("parents", .flag, "p"), ("verbose", .flag, "v")], true⟩ 1
    fun options => do
  if options.operands.isEmpty then
    program.refuse (utf8 "missing operand")
    return 1
  let mask ← .look (·.maskOf program.process)
  match (options.value? "m").mapM ModeChange.ofText? with
  | none =>
    program.complain (utf8 "invalid mode " ++ Quoting.curly ((options.value? "m").getD []))
    return 1
  | some change? =>
    let usual ← program.allowed 0o777
    let mode := change?.elim usual (·.apply 0o777 true mask)
    let make (path : Bytes) (mode : Nat) : Deed Bool := do
      match ← program.change (·.makeDirectory ⟨path⟩ mode) with
      | .ok () =>
        if options.has "v" then
          program.print (program.name ++ utf8 ": created directory " ++ Quoting.always path ++ [0x0a])
        return true
      | .error errno =>
        program.complainOf (utf8 "cannot create directory " ++ Quoting.curly path) errno
        return false
    forEach (fun target => do
      if !options.has "p" then make target mode
      else
        let missing := missingPlaces (← program.tree) target
        let rec makeAll : List Bytes → Deed Bool
          | [] => return true
          | [path] => make path mode
          | path :: rest => do
            -- a file in the way is no directory to go on in
            match (← program.tree).node ⟨path⟩ with
            | .ok _ =>
              program.complainOf (utf8 "cannot create directory " ++ Quoting.curly path) .notDirectory
              return false
            | .error _ => if ← make path (usual ||| 0o300) then makeAll rest else return false
        makeAll missing) options.operands

def touch (program : Program) : Deed Nat :=
  program.withOptions ⟨"acd:fhmr:t:", [("time", .valued, "time"), ("no-create", .flag, "c"), ("date", .valued, "d"),
    ("reference", .valued, "r"), ("no-dereference", .flag, "h")], true⟩ 1 fun options => do
  let present : Int ← .look fun machine => ((machine.began + machine.clock : Nat) : Int)
  let wrong (text : Bytes) : Except Bytes (Option Int) := .error (utf8 "invalid date format " ++ Quoting.curly text)
  let time : Except Bytes (Option Int) ← match options.value? "d", options.value? "t", options.value? "r" with
    | some text, _, _ => pure ((Moment.ofText? present text).elim (wrong text) (.ok ∘ some))
    | _, some text, _ => pure ((Moment.ofStamp? present text).elim (wrong text) (.ok ∘ some))
    | _, _, some path => do
      let tree ← program.tree
      pure (match tree.number ⟨path⟩ with
        | .ok number => .ok (some ((tree.timeOf number : Nat) : Int))
        | .error errno => .error (utf8 "failed to get attributes of " ++ Quoting.always path ++ utf8 s!": {errno.text}"))
    | none, none, none => pure (.ok none)
  match time with
  | .error complaint =>
    program.complain complaint
    return 1
  | .ok time =>
    if options.operands.isEmpty then
      program.refuse (utf8 "missing file operand")
      return 1
    let mode ← program.allowed 0o666
    forEach (fun target => do
      let touched ← program.change fun tree => do
        let tree ← match tree.node ⟨target⟩ with
          | .ok _ => pure tree
          | .error _ =>
            if options.has "c" then return tree
            else pure (← tree.openForWriting ⟨target⟩ ⟨true, false, false, mode⟩).2
        let number ← tree.number ⟨target⟩
        return if options.has "a" && !options.has "m" then tree else tree.setTime number (time.elim tree.now (·.toNat))
      match touched with
      | .ok () => return true
      | .error errno =>
        program.complainOf (utf8 "cannot touch " ++ Quoting.always target) errno
        return false) options.operands

/-- A size such as `+10` or `%4K`: how it is meant, and how much it is. -/
def sizeChange? (text : Bytes) : Option (Option UInt8 × Nat) :=
  let text := text.dropWhile Printing.isSpace
  match text with
  | sign :: rest =>
    if (utf8 "+-<>/%").elem sign then (amount? rest).map (some sign, ·) else (amount? text).map (none, ·)
  | [] => none

/-- The length that a size makes of a length. -/
def newLength (former : Nat) : Option UInt8 × Nat → Nat
  | (some 0x2b, size) => former + size
  | (some 0x2d, size) => former - size
  | (some 0x3c, size) => min former size
  | (some 0x3e, size) => max former size
  | (some 0x2f, size) => if size == 0 then former else former / size * size
  | (some 0x25, size) => if size == 0 then former else (former + size - 1) / size * size
  | (_, size) => size

def truncate (program : Program) : Deed Nat :=
  program.withOptions ⟨"cor:s:", [("no-create", .flag, "c"), ("io-blocks", .flag, "o"), ("reference", .valued, "r"),
    ("size", .valued, "s")], true⟩ 1 fun options => do
  let refuse (text : Bytes) : Deed Nat := do
    program.refuse text
    return 1
  if !options.any ["s", "r"] then
    return ← refuse (utf8 "you must specify either " ++ Quoting.curly (utf8 "--size") ++ utf8 " or " ++
      Quoting.curly (utf8 "--reference"))
  match (options.value? "s").mapM sizeChange? with
  | none =>
    program.complain (utf8 "Invalid number: " ++ Quoting.curly ((options.value? "s").getD []))
    return 1
  | some size? =>
    if options.operands.isEmpty then return ← refuse (utf8 "missing file operand")
    let reference ← match options.value? "r" with
      | none => pure (.ok 0)
      | some path => do
        pure (match (← program.tree).node ⟨path⟩ with
          | .ok (.file _ (.data bytes)) => Except.ok bytes.length
          | .ok _ => .ok 0
          | .error errno => .error (path, errno))
    match reference with
    | .error (path, errno) =>
      program.complainOf (utf8 "cannot stat " ++ Quoting.always path) errno
      return 1
    | .ok reference =>
      let mode ← program.allowed 0o666
      forEach (fun target => do
        let cut ← program.change fun tree => do
          if options.has "c" && (tree.node ⟨target⟩).toOption.isNone then return tree
          match ← tree.openForWriting ⟨target⟩ ⟨true, false, false, mode⟩ with
          | (.store number, tree) =>
            match tree.nodes[number]? with
            | some (.file mode (.data bytes)) =>
              let length := size?.elim reference (newLength (if options.has "r" then reference else bytes.length))
              let content := bytes.take length ++ List.replicate (length - bytes.length) 0
              return tree.set number (.file mode (.data content))
            | _ => return tree
          | (.device _, _) | (.pipe _, _) => throw .invalid
        match cut with
        | .ok () => return true
        | .error errno =>
          program.complainOf (utf8 "cannot open " ++ Quoting.always target ++ utf8 " for writing") errno
          return false) options.operands

/-- A name in which every X at the end is another character. -/
def filledIn (tree : FileTree) (template : Bytes) (count : Nat) : Nat → Nat → Bytes
  | 0, _ => template
  | fuel + 1, seed =>
    let letters := (utf8 "abcdefghijklmnopqrstuvwxyzABCDEFGHIJKLMNOPQRSTUVWXYZ0123456789").toArray
    let filling := (List.range count).map fun place => letters[seed / 62 ^ place % 62]?.getD 0x61
    let path := template.take (template.length - count) ++ filling
    match tree.locateEntry ⟨path⟩ with
    | .ok (.found ..) => filledIn tree template count fuel (seed * 31 + 7)
    | _ => path

def makeTemporary (program : Program) : Deed Nat :=
  program.withOptions ⟨"dp:qtuV", [("directory", .flag, "d"), ("dry-run", .flag, "u"), ("quiet", .flag, "q"),
    ("tmpdir", .perhapsValued, "p"), ("suffix", .valued, "suffix")], true⟩ 1 fun options => do
  let usual := (program.valueOf? (utf8 "TMPDIR")).filter (!·.isEmpty) |>.getD (utf8 "/tmp")
  let template := options.operands.head?.getD (utf8 "tmp.XXXXXXXXXX")
  match options.operands.drop 1 with
  | _ :: _ =>
    program.refuse (utf8 "too many templates")
    return 1
  | [] =>
    let suffix := (options.value? "suffix").getD []
    let (stem, suffix) := if options.has "suffix" then (template, suffix) else
      let tail := (template.reverse.takeWhile (· != 0x58)).reverse
      if tail.elem Path.slash then (template, []) else (template.take (template.length - tail.length), tail)
    let count := (stem.reverse.takeWhile (· == 0x58)).length
    if count < 3 then
      program.complain (utf8 "too few X's in template " ++ Quoting.curly template)
      return 1
    let folder := match options.value? "p" with
      | some folder => if folder.isEmpty then some usual else some folder
      | none => if options.operands.isEmpty || options.has "t" then some usual else none
    let stem := folder.elim stem (inside · stem)
    let seed ← .look fun machine => machine.clock * 7919 + program.process * 104729 + 12345
    let path := filledIn (← program.tree) stem count 64 seed ++ suffix
    let made ← if options.has "u" then pure (Except.ok ())
      else if options.has "d" then program.change (·.makeDirectory ⟨path⟩ 0o700)
      else program.change fun tree => do return (← tree.openForWriting ⟨path⟩ ⟨true, true, false, 0o600⟩).2
    match made with
    | .ok () =>
      program.print (path ++ [0x0a])
      return 0
    | .error errno =>
      if !options.has "q" then
        let what := if options.has "d" then "failed to create directory via template " else "failed to create file via template "
        program.complainOf (utf8 what ++ Quoting.curly (stem ++ suffix)) errno
      return 1

end Program
end ExitParity
