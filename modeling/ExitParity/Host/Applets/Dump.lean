import ExitParity.Host.Applets.Inputs
import ExitParity.Host.Digest

/-! The program that shows the bytes of files as numbers. -/

namespace ExitParity

/-- How the parts of a block are shown. -/
inductive DumpKind where
  | named
  | letter
  | signed
  | unsigned
  | octal
  | hexadecimal
  deriving DecidableEq

structure DumpFormat where
  kind : DumpKind
  size : Nat
  /-- Whether the bytes are shown as a text too. -/
  trailer : Bool

namespace DumpFormat

/-- The width of what shows one part. -/
def width (format : DumpFormat) : Nat :=
  match format.kind with
  | .named | .letter => 3
  | .octal => [(1, 3), (2, 6), (4, 11), (8, 22)].lookup format.size |>.getD 3
  | .hexadecimal => 2 * format.size
  | .signed => [(1, 4), (2, 6), (4, 11), (8, 20)].lookup format.size |>.getD 4
  | .unsigned => [(1, 3), (2, 5), (4, 10), (8, 20)].lookup format.size |>.getD 3

/-- The names of the first bytes. -/
def names : List String :=
  ["nul", "soh", "stx", "etx", "eot", "enq", "ack", "bel", "bs", "ht", "nl", "vt", "ff", "cr", "so", "si", "dle", "dc1", "dc2",
    "dc3", "dc4", "nak", "syn", "etb", "can", "em", "sub", "esc", "fs", "gs", "rs", "us", "sp"]

def nameOf (byte : UInt8) : Bytes :=
  let low := byte % 128
  if low == 127 then utf8 "del" else match names[low.toNat]? with
    | some name => utf8 name
    | none => [low]

def letterOf (byte : UInt8) : Bytes :=
  if byte == 0 then utf8 "\\0"
  else match [(0x07, 0x61), (0x08, 0x62), (0x0c, 0x66), (0x0a, 0x6e), (0x0d, 0x72), (0x09, 0x74), (0x0b, 0x76)].lookup byte with
    | some letter => [0x5c, letter]
    | none =>
      if 0x20 ≤ byte && byte < 0x7f then [byte]
      else (Quoting.octal byte).drop 1

def zeroPadded (width : Nat) (digits : Bytes) : Bytes := List.replicate (width - digits.length) 0x30 ++ digits

/-- What shows one part of a block. -/
def show_ (format : DumpFormat) (part : Bytes) : Bytes :=
  let value := Digest.ofBigEndian part.reverse
  match format.kind with
  | .named => nameOf (part.head?.getD 0)
  | .letter => letterOf (part.head?.getD 0)
  | .octal => zeroPadded format.width (Printing.toDigits 8 value)
  | .hexadecimal => zeroPadded format.width (Printing.toDigits 16 value)
  | .unsigned => Program.numeral value
  | .signed =>
    let half := 2 ^ (8 * format.size - 1)
    if value < half then Program.numeral value else 0x2d :: Program.numeral (2 * half - value)

/-- Put fields in a row that is so wide in all. Room that is left is spread. -/
def fields (width : Nat) : Nat → Nat → Nat → List Bytes → Bytes
  | _, _, _, [] => []
  | total, room, left, text :: rest =>
    let next := room * (left - 1) / total
    let here := width + (room * left / total) - next
    List.replicate (here - text.length) 0x20 ++ text ++ fields width total room (left - 1) rest

/-- The row for a block that may be shorter than the others. -/
def row (format : DumpFormat) (blockSize rowWidth : Nat) (block : Bytes) : Bytes :=
  let total := blockSize / format.size
  let room := rowWidth - total * format.width
  let whole := block ++ List.replicate (blockSize - block.length) 0
  let count := (block.length + format.size - 1) / format.size
  let parts := (Digest.blocks format.size whole.length whole).take count
  let shown := fields format.width total room total (parts.map format.show_)
  if format.trailer then
    let printable := block.map fun byte => if 0x20 ≤ byte && byte < 0x7f then byte else 0x2e
    shown ++ List.replicate (rowWidth - shown.length) 0x20 ++ utf8 "  >" ++ printable ++ utf8 "<"
  else shown

/-- Read the size behind a letter: a number or a letter of its own. -/
def sizeOf (text : Bytes) : Nat × Bytes :=
  let digits := text.takeWhile Printing.isDecimal
  if !digits.isEmpty then (Printing.digits 10 digits, text.drop digits.length)
  else match text with
    | 0x43 :: rest => (1, rest)
    | 0x53 :: rest => (2, rest)
    | 0x49 :: rest => (4, rest)
    | 0x4c :: rest => (8, rest)
    | rest => (4, rest)

/-- Read the formats that a text names. -/
def ofText : Nat → Bytes → Except Bytes (List DumpFormat)
  | 0, _ | _, [] => .ok []
  | fuel + 1, letter :: rest => do
    let kind ← match Char.ofNat letter.toNat with
      | 'a' => pure DumpKind.named
      | 'c' => pure .letter
      | 'd' => pure .signed
      | 'u' => pure .unsigned
      | 'o' => pure .octal
      | 'x' => pure .hexadecimal
      | _ => throw (utf8 "invalid character " ++ Quoting.curly [letter])
    let (size, rest) := if kind == .named || kind == .letter then (1, rest) else sizeOf rest
    if !(size == 1 || size == 2 || size == 4 || size == 8) then
      throw (utf8 "invalid type string; this system doesn't provide a " ++ utf8 s!"{size}-byte integral type")
    let trailer := rest.head? == some 0x7a
    return ⟨kind, size, trailer⟩ :: (← ofText fuel (if trailer then rest.drop 1 else rest))

/-- The formats of the letters that are options of their own. -/
def shortcuts : List (String × String) := [
  ("a", "a"), ("b", "o1"), ("c", "c"), ("d", "u2"), ("h", "x2"), ("i", "dI"), ("l", "dL"), ("o", "o2"), ("s", "d2"), ("x", "x2"),
  ("B", "o2")]

end DumpFormat

/-- How a dump is laid out. -/
structure DumpLayout where
  formats : List DumpFormat
  blockSize : Nat
  radix : Option Nat
  all : Bool

namespace DumpLayout

def address (layout : DumpLayout) (offset : Nat) : Bytes :=
  match layout.radix with
  | none => []
  | some radix => DumpFormat.zeroPadded (if radix == 16 then 6 else 7) (Printing.toDigits radix offset)

def rows (layout : DumpLayout) (offset : Nat) (block : Bytes) : Bytes :=
  let rowWidth := layout.formats.foldl (fun widest format =>
    max widest ((format.width + 1) * (layout.blockSize / format.size))) 0
  let blank : Bytes := (layout.address 0).map fun _ => 0x20
  (layout.formats.zipIdx.map fun (format, index) =>
    (if index == 0 then layout.address offset else blank) ++ format.row layout.blockSize rowWidth block ++ [0x0a]).flatten

/-- Show blocks. Those like the one in front of them are left out. -/
def show_ (layout : DumpLayout) : Nat → Option Bytes → Bool → List Bytes → List Bytes
  | offset, _, _, [] => if layout.radix.isSome then [layout.address offset ++ [0x0a]] else []
  | offset, former, marked, block :: rest =>
    let next := offset + block.length
    if !layout.all && block.length == layout.blockSize && former == some block then
      (if marked then [] else [utf8 "*\n"]) ++ layout.show_ next former true rest
    else layout.rows offset block :: layout.show_ next (some block) false rest

end DumpLayout

namespace Program

def dumpGrammar : OptionGrammar :=
  ⟨"aA:bBcdDeFfhHiIj:lLN:oOsS:t:vw::xX", [("address-radix", .valued, "A"), ("skip-bytes", .valued, "j"),
    ("read-bytes", .valued, "N"), ("format", .valued, "t"), ("output-duplicates", .flag, "v"),
    ("width", .perhapsValued, "w"), ("strings", .perhapsValued, "S")], true⟩

/-- The number that an option gives, in the system that its first digits tell. -/
def dumpNumber? (text : Bytes) : Option Nat :=
  match text with
  | 0x30 :: 0x78 :: digits | 0x30 :: 0x58 :: digits =>
    if !digits.isEmpty && digits.all (Printing.digitValue · < 16) then some (Printing.digits 16 digits) else none
  | 0x30 :: digits =>
    if !digits.isEmpty && digits.all Printing.isOctal then some (Printing.digits 8 digits) else amount? text
  | _ => amount? text

def dump (program : Program) : Deed Nat :=
  program.withOptions dumpGrammar 1 fun options => do
  let number (key what : String) : Deed (Option Nat) := do
    match options.value? key with
    | none => return none
    | some text =>
      match dumpNumber? text with
      | some value => return some value
      | none =>
        program.complain (utf8 s!"invalid {what} argument " ++ Quoting.curly text)
        program.exit 1
  let skip := (← number "j" "-j").getD 0
  let most ← number "N" "-N"
  let radix ← match options.value? "A" with
    | none => pure (some 8)
    | some [0x64] => pure (some 10)
    | some [0x6f] => pure (some 8)
    | some [0x78] => pure (some 16)
    | some [0x6e] => pure none
    | some text =>
      program.complain (utf8 "invalid output address radix '" ++ text ++ utf8 "'; it must be one character from [doxn]")
      program.exit 1
  let named := options.given.filterMap fun (key, value) =>
    if key == "t" then some value else (DumpFormat.shortcuts.lookup key).map utf8
  let formats ← match named.mapM fun (text : Bytes) =>
      (DumpFormat.ofText (text.length + 1) text).mapError fun (fault : Bytes) =>
        fault ++ if fault.head? == some 0x69 && Bytes.contains (utf8 "character") fault then
          utf8 " in type string " ++ Quoting.curly text else [] with
    | .ok formats => pure formats.flatten
    | .error fault =>
      program.complain fault
      program.exit 1
  let formats := if formats.isEmpty then [⟨.octal, 2, false⟩] else formats
  let unit := formats.foldl (fun unit format => Nat.lcm unit format.size) 1
  let blockSize ← match options.value? "w" with
    | none => pure 16
    | some [] => pure 32
    | some text =>
      let size := (dumpNumber? text).getD 0
      pure (if size > 0 && size % unit == 0 then size else unit)
  let paths := inputs options.operands
  let mut text : List Bytes := []
  let mut sound := true
  for path in paths do
    match ← program.plainInput path with
    | some bytes => text := bytes :: text
    | none => sound := false
  let whole := text.reverse.flatten
  if text.isEmpty then return 1
  if skip > whole.length then
    if sound then program.complain (utf8 "cannot skip past end of combined input")
    return 1
  let shown := whole.drop skip
  let shown := match most with
    | some count => shown.take count
    | none => shown
  let layout : DumpLayout := ⟨formats, blockSize, radix, options.has "v"⟩
  for row in layout.show_ skip none false (Digest.blocks blockSize shown.length shown) do
    program.print row
  return if sound then 0 else 1

end Program
end ExitParity
