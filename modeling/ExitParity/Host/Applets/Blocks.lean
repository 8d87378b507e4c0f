import ExitParity.Host.Applets.Copies
import ExitParity.Host.Digest

/-! The programs that copy and cut files by blocks. -/

namespace ExitParity

/-- What a copy by blocks was asked to do. -/
structure BlockCopy where
  input : Option Bytes
  output : Option Bytes
  inputSize : Nat
  outputSize : Nat
  /-- Whether blocks are written as they were read. -/
  direct : Bool
  count : Option Nat
  skip : Nat
  seek : Nat
  conversions : List String
  inputFlags : List String
  outputFlags : List String
  status : String

/-- How far a copy by blocks got: what was read, the blocks by whether they were
full, and why it could not go on. -/
structure BlockProgress where
  pieces : List Bytes
  full : Nat
  short : Nat
  fault : Option Errno

namespace BlockCopy

def conversionNames : List String :=
  ["notrunc", "ucase", "lcase", "sync", "swab", "noerror", "excl", "nocreat", "fsync", "fdatasync", "sparse"]

def flagNames : List String :=
  ["append", "direct", "directory", "dsync", "sync", "fullblock", "nonblock", "noatime", "nocache", "noctty", "nofollow",
    "count_bytes", "skip_bytes", "seek_bytes"]

/-- Bytes with every two neighbours exchanged. -/
def swapped : Bytes → Bytes
  | x :: y :: rest => y :: x :: swapped rest
  | rest => rest

/-- What becomes of a block. -/
def convert (copy : BlockCopy) (block : Bytes) : Bytes :=
  let block := if copy.conversions.contains "sync" then block ++ List.replicate (copy.inputSize - block.length) 0 else block
  let block := if copy.conversions.contains "swab" then swapped block else block
  if copy.conversions.contains "ucase" then block.map Printing.upper
  else if copy.conversions.contains "lcase" then block.map Printing.lower
  else block

/-- A number of blocks, or a product of numbers. -/
def number? (text : Bytes) : Option Nat :=
  (Bytes.split 0x78 text).foldlM (fun product part => (Program.amount? part).map (product * ·)) 1

/-- Read one operand. The fault tells whether the usage is hinted at. -/
def operand (copy : BlockCopy) (text : Bytes) : Except (Bytes × Bool) BlockCopy := do
  let some (key, value) := Bytes.cutAt? 0x3d text
    | throw (utf8 "unrecognized operand " ++ Quoting.always text, true)
  let number : Except (Bytes × Bool) Nat := match number? value with
    | some number => .ok number
    | none => .error (utf8 "invalid number: " ++ Quoting.always value, false)
  let size : Except (Bytes × Bool) Nat := do
    let number ← number
    if number == 0 then throw (utf8 "invalid number: " ++ Quoting.always value, false)
    return number
  let names (known : List String) (what : String) : Except (Bytes × Bool) (List String) :=
    (Bytes.split 0x2c value).mapM fun (name : Bytes) =>
      match known.find? (utf8 · == name) with
      | some name => .ok name
      | none => .error (utf8 s!"invalid {what}: " ++ Quoting.curly name, true)
  match Utf8.display key with
  | "if" => return { copy with input := some value }
  | "of" => return { copy with output := some value }
  | "bs" =>
    let size ← size
    return { copy with inputSize := size, outputSize := size, direct := true }
  | "ibs" => return { copy with inputSize := ← size }
  | "obs" => return { copy with outputSize := ← size }
  | "cbs" =>
    let _ ← size
    return copy
  | "count" => return { copy with count := some (← number) }
  | "skip" | "iseek" => return { copy with skip := ← number }
  | "seek" | "oseek" => return { copy with seek := ← number }
  | "conv" => return { copy with conversions := copy.conversions ++ (← names conversionNames "conversion") }
  | "iflag" => return { copy with inputFlags := copy.inputFlags ++ (← names flagNames "input flag") }
  | "oflag" => return { copy with outputFlags := copy.outputFlags ++ (← names flagNames "output flag") }
  | "status" =>
    match ["none", "noxfer", "progress"].find? (utf8 · == value) with
    | some status => return { copy with status }
    | none => throw (utf8 "invalid status level: " ++ Quoting.curly value, true)
  | _ => throw (utf8 "unrecognized operand " ++ Quoting.always text, true)

end BlockCopy

namespace Program

/-- Read one block; a full one when only full ones count. -/
def readBlock (program : Program) (descriptor : Nat) (whole : Bool) : Nat → Nat → Bytes → Deed (Except Errno Bytes)
  | 0, _, before => return .ok before
  | fuel + 1, size, before => do
    match ← program.read descriptor size with
    | .error errno => return .error errno
    | .ok piece =>
      if piece.isEmpty || !whole || piece.length == size then return .ok (before ++ piece)
      else program.readBlock descriptor whole fuel (size - piece.length) (before ++ piece)

/-- Read blocks up to the end or a number of them, or of bytes. -/
def readBlocks (program : Program) (descriptor : Nat) (copy : BlockCopy) (step : Bytes → Deed Unit) :
    Nat → Option Nat → BlockProgress → Deed BlockProgress
  | 0, _, progress => return progress
  | fuel + 1, left, progress => do
    if left == some 0 then return progress
    let ofBytes := copy.inputFlags.contains "count_bytes"
    let size := if ofBytes then min copy.inputSize (left.getD copy.inputSize) else copy.inputSize
    match ← program.readBlock descriptor (copy.inputFlags.contains "fullblock") size size [] with
    | .error errno => return { progress with fault := some errno }
    | .ok block =>
      if block.isEmpty then return progress
      let isFull := block.length == copy.inputSize
      let block_ := copy.convert block
      step block_
      program.readBlocks descriptor copy step fuel (left.map fun left => left - if ofBytes then block.length else 1)
        { progress with
          pieces := block_ :: progress.pieces
          full := progress.full + if isFull then 1 else 0
          short := progress.short + if isFull then 0 else 1 }

/-- Cut an open file, or fill it up with zero bytes. -/
def resizeOpen (program : Program) (descriptor size : Nat) : Deed Unit :=
  .act fun machine => ((), match machine.file? program.process descriptor with
    | some { handle := .store node _ _, .. } =>
      match machine.tree.nodes[node]? with
      | some (.file mode (.data bytes)) =>
        let bytes := bytes.take size ++ List.replicate (size - bytes.length) 0
        { machine with tree := machine.tree.adjust node (.file mode (.data bytes)) }
      | _ => machine
    | _ => machine)

/-- Go to a place in an open file. -/
def moveTo (program : Program) (descriptor place : Nat) : Deed Unit :=
  .act fun machine => ((), match machine.opened? program.process descriptor with
    | some opened =>
      match machine.openFiles[opened]? with
      | some { handle := .store node _ appends, readable, writable } =>
        { machine with openFiles := machine.openFiles.setIfInBounds opened ⟨.store node place appends, readable, writable⟩ }
      | _ => machine
    | none => machine)

/-- Copy a file by blocks. -/
def copyBlocks (program : Program) : Deed Nat :=
  program.answering do
    let start : BlockCopy := {
      input := none
      output := none
      inputSize := 512
      outputSize := 512
      direct := false
      count := none
      skip := 0
      seek := 0
      conversions := []
      inputFlags := []
      outputFlags := []
      status := "" }
    match program.args.foldlM BlockCopy.operand start with
    | .error (fault, hints) =>
      if hints then program.refuse fault else program.complain fault
      return 1
    | .ok copy =>
      let descriptor ← match copy.input with
        | none => pure 0
        | some path =>
          match ← program.openFile ⟨path⟩ with
          | .ok descriptor => pure descriptor
          | .error errno =>
            program.complainOf (utf8 "failed to open " ++ Quoting.always path) errno
            program.exit 1
      let seekBytes := if copy.outputFlags.contains "seek_bytes" then copy.seek else copy.seek * copy.outputSize
      let appends := copy.outputFlags.contains "append"
      let keeps := copy.conversions.contains "notrunc" || seekBytes > 0 || appends
      let target ← match copy.output with
        | none => pure none
        | some path =>
          let opening : FileTree.Opening :=
            ⟨!copy.conversions.contains "nocreat", copy.conversions.contains "excl", !keeps, ← program.allowed 0o666⟩
          match ← program.openTarget path opening appends with
          | .ok descriptor => pure (some (path, descriptor))
          | .error errno =>
            program.complainOf (utf8 "failed to open " ++ Quoting.always path) errno
            program.exit 1
      if copy.output.isSome && !copy.conversions.contains "notrunc" && seekBytes > 0 then
        program.resizeOpen ((target.map (·.2)).getD 1) seekBytes
      if seekBytes > 0 then program.moveTo ((target.map (·.2)).getD 1) seekBytes
      let skipped := if copy.inputFlags.contains "skip_bytes" then copy.skip else copy.skip * copy.inputSize
      if skipped > 0 then
        let name := (copy.input.map Quoting.whenNeeded).getD (utf8 "'standard input'")
        match ← program.readBlock descriptor true skipped skipped [] with
        | .ok bytes =>
          if bytes.length < skipped && copy.status != "none" then
            program.complain (name ++ utf8 ": cannot skip to specified offset")
        | .error _ => pure ()
      let output := (target.map (·.2)).getD 1
      let directly := copy.direct && !copy.conversions.contains "swab"
      let progress ← program.readBlocks descriptor copy (fun block => do
        if directly then
          match ← program.write output block with
          | .ok () => return ()
          | .error errno =>
            program.complainOf (utf8 "error writing " ++ Quoting.always ((target.map (·.1)).getD (utf8 "standard output"))) errno
            program.exit 1) endless copy.count ⟨[], 0, 0, none⟩
      let text := progress.pieces.reverse.flatten
      if !directly then
        for block in Digest.blocks (if copy.direct then max 1 text.length else copy.outputSize) text.length text do
          match ← program.write output block with
          | .ok () => pure ()
          | .error errno =>
            program.complainOf (utf8 "error writing " ++ Quoting.always ((target.map (·.1)).getD (utf8 "standard output"))) errno
            program.exit 1
      if let some errno := progress.fault then
        program.complainOf (utf8 "error reading " ++ Quoting.always (copy.input.getD (utf8 "standard input"))) errno
      let (full, short) := if copy.direct then
          (if copy.conversions.contains "sync" then (progress.full + progress.short, 0) else (progress.full, progress.short))
        else (text.length / copy.outputSize, if text.length % copy.outputSize == 0 then 0 else 1)
      if copy.status != "none" then
        let counts := s!"{progress.full}+{progress.short} records in\n{full}+{short} records out\n"
        let size := text.length
        let sum := if copy.status == "noxfer" then "" else s!"{size} bytes copied, 0.0001 s, {size * 10} B/s\n"
        let _ ← program.write 2 (utf8 (counts ++ sum))
      return if progress.fault.isSome then 1 else 0

/-! ### Cutting into files -/

/-- The letters of the number of a file, in an alphabet and with a width. A
width that is not fixed grows before the last letter would come first. -/
def suffix? (alphabet : Bytes) (fixed : Bool) : Nat → Nat → Nat → Option Bytes
  | 0, _, _ => none
  | fuel + 1, width, number =>
    let base := alphabet.length
    let last := alphabet.getLast?.getD 0
    let digits (width number : Nat) : Bytes :=
      (List.range width).map fun place => (alphabet[number / base ^ (width - 1 - place) % base]?).getD 0
    if fixed then if number < base ^ width then some (digits width number) else none
    else
      let room := (base - 1) * base ^ (width - 1)
      if number < room then some (digits width number)
      else (suffix? alphabet fixed fuel (width + 1) (number - room)).map (last :: ·)

/-- Cut a text into pieces of whole lines that are not longer than a size. -/
def linePieces (size : Nat) : Nat → Bytes → List Bytes → List Bytes
  | 0, piece, _ => if piece.isEmpty then [] else [piece]
  | _, piece, [] => if piece.isEmpty then [] else [piece]
  | fuel + 1, piece, line :: rest =>
    if piece.length + line.length ≤ size then linePieces size fuel (piece ++ line) rest
    else if !piece.isEmpty then piece :: linePieces size fuel [] (line :: rest)
    else if line.length ≤ size then linePieces size fuel line rest
    else line.take size :: linePieces size fuel [] (line.drop size :: rest)

/-- Groups of so many items. -/
def groupsOf {α : Type} (count : Nat) : Nat → List α → List (List α)
  | 0, _ => []
  | fuel + 1, items => if items.isEmpty then [] else items.take count :: groupsOf count fuel (items.drop count)

/-- Where each of so many parts of a size begins and ends. -/
def portions (count size : Nat) : List (Nat × Nat) :=
  (List.range count).map fun place =>
    let start (place : Nat) : Nat := place * (size / count) + min place (size % count)
    (start place, start (place + 1))

/-- Cut a text into parts of one size, or of the lines that begin in them. -/
def parts (byLines : Bool) (count : Nat) (text : Bytes) : List Bytes :=
  if byLines then
    let (lines, _) := (records 0x0a text).foldl (fun ((lines, place) : List (Nat × Bytes) × Nat) line =>
      ((place, line) :: lines, place + line.length)) ([], 0)
    (portions count text.length).map fun (start, stop) =>
      (lines.reverse.filter fun (place, _) => start ≤ place && place < stop).flatMap (·.2)
  else (portions count text.length).map fun (start, stop) => (text.drop start).take (stop - start)

/-- Cut a file into files. -/
def split (program : Program) : Deed Nat :=
  program.withOptions ⟨"a:b:C:del:n:t:ux", [("suffix-length", .valued, "a"), ("additional-suffix", .valued, "additional"),
    ("bytes", .valued, "b"), ("line-bytes", .valued, "C"), ("numeric-suffixes", .perhapsValued, "d"),
    ("hex-suffixes", .perhapsValued, "x"), ("elide-empty-files", .flag, "e"), ("lines", .valued, "l"), ("number", .valued, "n"),
    ("unbuffered", .flag, "u"), ("verbose", .flag, "verbose")], true⟩ 1 fun options => do
  let size (key what : String) : Deed (Option Nat) := do
    match options.value? key with
    | none => return none
    | some text =>
      match amount? text with
      | some value =>
        if value > 0 then return some value
        program.complain (utf8 s!"invalid number of {what}: " ++ Quoting.curly text)
        program.exit 1
      | none =>
        program.complain (utf8 s!"invalid number of {what}: " ++ Quoting.curly text)
        program.exit 1
  if let extra :: _ := options.operands.drop 2 then
    program.refuse (utf8 "extra operand " ++ Quoting.curly extra)
    return 1
  let lines ← size "l" "lines"
  let bytes ← size "b" "bytes"
  let lineBytes ← size "C" "bytes"
  let path := options.operands.head?.getD ownInput
  let stem := (options.operands[1]?).getD (utf8 "x")
  let text ← match ← program.inputOf path with
    | .ok text => pure text
    | .error (.unopened errno) =>
      program.complain (utf8 "cannot open " ++ Quoting.always path ++ utf8 s!" for reading: {errno.text}")
      program.exit 1
    | .error (.unread errno) =>
      program.complainOf (Quoting.whenNeeded path) errno
      program.exit 1
  let chunk := (options.value? "n").map fun text => Bytes.split 0x2f text
  let (pieces, chosen) : List Bytes × Option Nat := match chunk with
    | some fields =>
      let byLines := fields.head? == some (utf8 "l")
      let fields := if byLines then fields.drop 1 else fields
      let numbers := fields.map (Printing.digits 10)
      (parts byLines (max 1 (numbers.getLast?.getD 1)) text, if numbers.length > 1 then numbers.head? else none)
    | none =>
      match bytes, lineBytes with
      | some size, _ => (Digest.blocks size text.length text, none)
      | none, some size => (linePieces size (2 * text.length + 2) [] (records 0x0a text), none)
      | none, none =>
        let all := records 0x0a text
        ((groupsOf (lines.getD 1000) all.length all).map List.flatten, none)
  match chosen with
  | some number =>
    program.print ((pieces[number - 1]?).getD [])
    return 0
  | none =>
    let pieces := if options.has "e" then pieces.filter (!·.isEmpty) else pieces
    let alphabet := match options.last? ["d", "x"] with
      | some "d" => utf8 "0123456789"
      | some _ => utf8 "0123456789abcdef"
      | none => utf8 "abcdefghijklmnopqrstuvwxyz"
    let start := match options.last? ["d", "x"] with
      | some key => Printing.digits 10 ((options.value? key).getD [])
      | none => 0
    let width := (options.value? "a").map (Printing.digits 10)
    for (piece, index) in pieces.zipIdx do
      match suffix? alphabet (width.any (· > 0)) 64 (width.getD 2) (start + index) with
      | none =>
        program.complain (utf8 "output file suffixes exhausted")
        program.exit 1
      | some ending =>
        let name := stem ++ ending ++ (options.value? "additional").getD []
        if options.has "verbose" then program.print (utf8 "creating file " ++ Quoting.always name ++ [0x0a])
        match ← program.writeFile name (← program.allowed 0o666) piece with
        | .ok () => pure ()
        | .error fault =>
          program.complainOf (Quoting.whenNeeded name) fault.errno
          program.exit 1
    return 0

end Program
end ExitParity
