import ExitParity.Host.Applets.Inputs
import ExitParity.Host.Letters

/-! The program that counts lines, words and letters. -/

namespace ExitParity.Program

/-- What there is to count in a text. -/
structure Counts where
  lines : Nat
  words : Nat
  letters : Nat
  bytes : Nat
  widest : Nat

namespace Counts

def none : Counts := ⟨0, 0, 0, 0, 0⟩

/-- The lines and words, the last word perhaps unfinished, and how long the
current and the longest line are. -/
structure Tally where
  words : Nat
  inWord : Bool
  column : Nat
  widest : Nat

def Tally.pass (tally : Tally) (letter : Nat) : Tally :=
  if letter == 0x0a || letter == 0x0c || letter == 0x0d then ⟨tally.words, false, 0, tally.widest⟩
  else if letter == 0x09 then
    let column := tally.column + (8 - tally.column % 8)
    ⟨tally.words, false, column, max tally.widest column⟩
  else if letter == 0x20 then
    let column := tally.column + 1
    ⟨tally.words, false, column, max tally.widest column⟩
  else if letter == 0x0b then { tally with inWord := false }
  else if letter < 0x20 || letter == 0x7f || Letters.strayBase ≤ letter then tally
  else
    let column := tally.column + 1
    ⟨if tally.inWord then tally.words else tally.words + 1, true, column, max tally.widest column⟩

def of (text : Bytes) : Counts :=
  let letters := Letters.ofBytes true text
  let tally := letters.foldl Tally.pass ⟨0, false, 0, 0⟩
  ⟨text.count 0x0a, tally.words, letters.countP (· < Letters.strayBase), text.length, tally.widest⟩

def add (one other : Counts) : Counts :=
  ⟨one.lines + other.lines, one.words + other.words, one.letters + other.letters, one.bytes + other.bytes,
    max one.widest other.widest⟩

end Counts

def wordCount (program : Program) : Deed Nat :=
  program.withOptions ⟨"clLmw", [("bytes", .flag, "c"), ("chars", .flag, "m"), ("lines", .flag, "l"), ("words", .flag, "w"),
    ("max-line-length", .flag, "L")], true⟩ 1 fun options => do
  let plain := !options.any ["c", "l", "L", "m", "w"]
  let chosen (counts : Counts) : List Nat :=
    (if plain || options.has "l" then [counts.lines] else []) ++
    (if plain || options.has "w" then [counts.words] else []) ++
    (if options.has "m" then [counts.letters] else []) ++
    (if plain || options.has "c" then [counts.bytes] else []) ++
    (if options.has "L" then [counts.widest] else [])
  let paths := inputs options.operands
  -- the sizes of the files decide how wide the columns are
  let sizes ← paths.mapM fun path => .look fun machine =>
    let node := if path == ownInput then (machine.file? program.process 0).bind fun file => match file.handle with
        | .store number .. => machine.tree.nodes[number]?
        | _ => some (.device .null)
      else ((machine.treeOf program.process).node ⟨path⟩).toOption
    match node with
    | some (.file _ (.data bytes)) => some (some bytes.length)
    | some _ => some Option.none
    | none => Option.none
  let width :=
    if (chosen .none).length == 1 && paths.length == 1 then 1
    else max (if sizes.any (· == some none) then 7 else 1) (toString ((sizes.map fun size => (size.bind id).getD 0).foldl (· + ·) 0)).length
  let line (name : Bytes) (counts : Counts) : Bytes :=
    Bytes.joinWith [0x20] ((chosen counts).map fun count => rightAligned width (numeral count)) ++
      (if name.isEmpty then [] else 0x20 :: name) ++ [0x0a]
  let mut total := Counts.none
  let mut code := 0
  for path in paths do
    match ← program.inputOf path with
    | .ok text =>
      let counts := Counts.of text
      program.print (line (if options.operands.isEmpty then [] else path) counts)
      total := total.add counts
    | .error fault =>
      program.complainOf (Quoting.whenNeeded path) fault.errno
      code := 1
      match fault with
      | .unread _ => program.print (line (if options.operands.isEmpty then [] else path) .none)
      | .unopened _ => pure ()
  if paths.length > 1 then program.print (line (utf8 "total") total)
  return code

end ExitParity.Program
