import ExitParity.Host.Applets.Paths
import ExitParity.Host.Ordered
import ExitParity.Pattern

/-! The program that looks for expressions in lines. -/

namespace ExitParity

/-- What lines are searched for. -/
inductive Sought where
  | longest (expressions : List Expression)
  | ordered (expression : Ordered)

/-- How lines are searched and what is shown of them. -/
structure Searching where
  manner : Manner
  sought : Sought
  wholeLines : Bool
  wholeWords : Bool
  inverted : Bool
  counts : Bool
  namesOnly : Option Bool
  quiet : Bool
  numbers : Bool
  offsets : Bool
  partsOnly : Bool
  silent : Bool
  asText : Bool
  skipsBinary : Bool
  most : Option Nat
  before : Nat
  after : Nat
  separator : UInt8
  nameEnding : Option UInt8
  headed : Bool

namespace Searching

def isWordAt (text : Array Nat) (place : Nat) : Bool := (text[place]?).any Letters.isWord

/-- The parts of a line that an expression matches, from a place on. -/
def orderedParts (expression : Ordered) (text : Array Nat) : Nat → Nat → List (Nat × Nat)
  | 0, _ => []
  | fuel + 1, start =>
    match expression.search? text (text.size + 1 - start) start with
    | none => []
    | some (first, stop) =>
      (first, stop) :: orderedParts expression text fuel (if first == stop then stop + 1 else stop)

/-- The longest parts of a line that one of some expressions matches, from a place on. -/
def longestParts (searching : Searching) (expressions : List Expression) (text : Array Nat) : Nat → Nat → List (Nat × Nat)
  | 0, _ => []
  | fuel + 1, start =>
    let ends (place : Nat) : Option Nat :=
      let found := expressions.flatMap fun expression =>
        (expression.outcomes searching.manner text place []).map (·.stop)
      let found := found.filter fun stop =>
        (!searching.wholeLines || (place == 0 && stop == text.size)) &&
          (!searching.wholeWords || !((place > 0 && isWordAt text (place - 1)) || isWordAt text stop))
      found.foldl (fun best stop => some (max (best.getD 0) stop)) none
    let rec seek : Nat → Nat → Option (Nat × Nat)
      | 0, _ => none
      | more + 1, place =>
        match ends place with
        | some stop => some (place, stop)
        | none => seek more (place + 1)
    match seek (text.size + 1 - start) start with
    | none => []
    | some (place, stop) => (place, stop) :: longestParts searching expressions text fuel (max stop (place + 1))

/-- The parts of a line that match, at most so many. -/
def parts (searching : Searching) (text : Array Nat) (most : Nat) : List (Nat × Nat) :=
  match searching.sought with
  | .longest expressions => searching.longestParts expressions text most 0
  | .ordered expression => orderedParts expression text most 0

/-- Whether a line is one that is looked for. -/
def selects (searching : Searching) (line : Bytes) : Bool :=
  let text := (Letters.ofBytes true line).toArray
  (!(searching.parts text 1).isEmpty) != searching.inverted

end Searching

namespace Program

/-- What is put in front of a line. -/
def lineHeading (searching : Searching) (name : Bytes) (sign : UInt8) (number offset : Nat) : Bytes :=
  (if searching.headed then name ++ [searching.nameEnding.getD sign] else []) ++
  (if searching.numbers then numeral number ++ [sign] else []) ++
  (if searching.offsets then numeral offset ++ [sign] else [])

/-- Where a search through an input is: what was printed last, the lines that
may be printed as the context of the next one, and what is left of the context
behind the last one. -/
structure SearchState where
  selected : Nat
  printedUpTo : Nat
  held : List (Nat × Nat × Bytes)
  remaining : Nat
  stopped : Bool
  binary : Bool

/-- Print a line of the context. -/
def printContext (program : Program) (searching : Searching) (name : Bytes) (line : Nat × Nat × Bytes) : Deed Unit :=
  if searching.partsOnly then return ()
  else program.print (lineHeading searching name 0x2d line.1 line.2.1 ++ line.2.2 ++ [searching.separator])

/-- Deal with one line of an input. -/
def searchLine (program : Program) (searching : Searching) (name : Bytes) (binary : Bool) (state : SearchState)
    (number offset : Nat) (line : Bytes) : Deed SearchState := do
  if !searching.selects line then
    if state.remaining > 0 then
      program.printContext searching name (number, offset, line)
      return { state with remaining := state.remaining - 1, printedUpTo := number }
    else if searching.most.any (· ≤ state.selected) then return { state with stopped := true }
    else return { state with held := (state.held ++ [(number, offset, line)]).drop (state.held.length + 1 - searching.before) }
  if searching.most.any (· ≤ state.selected) then return { state with stopped := true }
  let state := { state with selected := state.selected + 1 }
  if searching.quiet || searching.namesOnly.isSome then return { state with stopped := true }
  if searching.counts then return state
  if !searching.asText && (binary || !Utf8.valid line) then return { state with stopped := true, binary := true }
  let hasContext := searching.before > 0 || searching.after > 0
  let first := (state.held.head?.map (·.1)).getD number
  if hasContext && state.printedUpTo > 0 && first > state.printedUpTo + 1 then program.print (utf8 "--\n")
  for held in state.held do
    program.printContext searching name held
  if searching.partsOnly then
    if !searching.inverted then
      let text := (Letters.ofBytes true line).toArray
      for (start, stop) in searching.parts text (text.size + 1) do
        if start < stop then
          let skipped := (Letters.toBytes true (text.extract 0 start).toList).length
          program.print (lineHeading searching name 0x3a number (offset + skipped) ++
            Letters.toBytes true (text.extract start stop).toList ++ [searching.separator])
  else program.print (lineHeading searching name 0x3a number offset ++ line ++ [searching.separator])
  return { state with held := [], remaining := searching.after, printedUpTo := number }

/-- Search the lines of an input. -/
def searchLines (program : Program) (searching : Searching) (name : Bytes) (binary : Bool) :
    List Bytes → Nat → Nat → SearchState → Deed SearchState
  | [], _, _, state => return state
  | line :: rest, number, offset, state => do
    if state.stopped then return state
    let state ← program.searchLine searching name binary state number offset line
    program.searchLines searching name binary rest (number + 1) (offset + line.length + 1) state

/-- Search an input, and tell whether something was found and whether all went
well. -/
def searchInput (program : Program) (searching : Searching) (name path : Bytes) : Deed (Bool × Bool) := do
  let complain (errno : Errno) : Deed (Bool × Bool) := do
    if !searching.silent then program.complainOf name errno
    return (false, false)
  match ← program.openInput path with
  | .error errno => complain errno
  | .ok descriptor =>
    let printsLines := !searching.quiet && searching.namesOnly.isNone && searching.most != some 0
    if printsLines && (← program.readsItsOutput true descriptor) then
      program.complain (name ++ utf8 ": input file is also the output")
      program.closeInput path descriptor
      return (false, false)
    let content ← program.readAll descriptor
    program.closeInput path descriptor
    match content with
    | .error errno => complain errno
    | .ok text =>
      let binary := !searching.asText && searching.separator != 0 && text.elem 0
      if binary && searching.skipsBinary then return (false, true)
      let state ← program.searchLines searching name binary (Bytes.lines searching.separator text) 1 0 ⟨0, 0, [], 0, false, false⟩
      let found := state.selected > 0
      if searching.counts then
        program.print ((if searching.headed then name ++ [searching.nameEnding.getD 0x3a] else []) ++ numeral state.selected ++
          [0x0a])
      match searching.namesOnly with
      | some wanted => if found == wanted then program.print (name ++ [searching.nameEnding.getD 0x0a])
      | none => pure ()
      if state.binary then program.print (program.name ++ utf8 ": " ++ name ++ utf8 ": binary file matches\n")
      return (found, true)

/-- The files at and below a path that are searched. -/
def searchedBelow (tree : FileTree) (isWanted : Bool → Bytes → Bool) (follows : Bool) : Nat → Bool → Bytes → List Bytes
  | 0, _, _ => []
  | fuel + 1, isOperand, path =>
    match if follows || isOperand then tree.node ⟨path⟩ else tree.entryNode ⟨path⟩ with
    | .ok (.directory _ _ _ entries) =>
      if !isOperand && !isWanted true (nameOf path) then []
      else entries.flatMap fun (name, _) => searchedBelow tree isWanted follows fuel false (if path.isEmpty then name else inside path name)
    | .ok (.file ..) => if isWanted false (nameOf path) then [path] else []
    | .ok _ => if isOperand then [path] else []
    | .error _ => if isOperand then [path] else []

def searchGrammar : OptionGrammar where
  letters := "0123456789A:B:C:D:EFGHILPTUVX:abcd:e:f:hiLlm:noqRrsuvwxyzZ"
  long := [("basic-regexp", .flag, "G"), ("extended-regexp", .flag, "E"), ("fixed-strings", .flag, "F"),
    ("perl-regexp", .flag, "P"), ("after-context", .valued, "A"), ("before-context", .valued, "B"), ("context", .valued, "C"),
    ("regexp", .valued, "e"), ("file", .valued, "f"), ("with-filename", .flag, "H"), ("no-filename", .flag, "h"),
    ("ignore-case", .flag, "i"), ("no-ignore-case", .flag, "no-i"), ("files-without-match", .flag, "L"),
    ("files-with-matches", .flag, "l"), ("max-count", .valued, "m"), ("line-number", .flag, "n"), ("only-matching", .flag, "o"),
    ("quiet", .flag, "q"), ("silent", .flag, "q"), ("recursive", .flag, "r"), ("dereference-recursive", .flag, "R"),
    ("no-messages", .flag, "s"), ("invert-match", .flag, "v"), ("word-regexp", .flag, "w"), ("line-regexp", .flag, "x"),
    ("null-data", .flag, "z"), ("null", .flag, "Z"), ("count", .flag, "c"), ("byte-offset", .flag, "b"), ("text", .flag, "a"),
    ("color", .perhapsValued, "color"), ("colour", .perhapsValued, "color"), ("line-buffered", .flag, "u"),
    ("include", .valued, "include"), ("exclude", .valued, "exclude"), ("exclude-dir", .valued, "exclude-dir"),
    ("exclude-from", .valued, "exclude-from"), ("label", .valued, "label"), ("binary-files", .valued, "binary"),
    ("initial-tab", .flag, "T"), ("directories", .valued, "d"), ("devices", .valued, "D")]
  permuted := true

/-- Complain that the program was called wrongly. -/
def refuseSearch (program : Program) (text : Option Bytes) : Deed Nat := do
  if let some text := text then program.complain text
  let _ ← program.write 2 (utf8 "Usage: " ++ program.name ++ utf8 " [OPTION]... PATTERNS [FILE]...\nTry '" ++ program.name ++
    utf8 " --help' for more information.\n")
  return 2

def grep (program : Program) : Deed Nat := do
  let options := searchGrammar.read program.args
  if options.has "V" || options.has "version" then
    program.print program.versionText
    return 0
  if options.has "help" then
    program.print program.usageText
    return 0
  if let some fault := options.fault then
    return ← program.refuseSearch (some fault.message)
  let stop (text : Bytes) : Deed Nat := do
    program.complain text
    return 2
  if options.has "P" && options.any ["E", "F", "G"] then
    return ← stop (utf8 "conflicting matchers specified")
  let called := program.shortName
  let kind := (options.last? ["E", "F", "G", "P"]).getD
    (if called == utf8 "egrep" then "E" else if called == utf8 "fgrep" then "F" else "G")
  let mut listed : List Bytes := []
  for (key, value) in options.given do
    if key == "e" then listed := listed ++ Bytes.split 0x0a value
    else if key == "f" then
      match ← program.inputOf value with
      | .ok text => listed := listed ++ Bytes.lines 0x0a text
      | .error fault => return ← stop (value ++ utf8 s!": {fault.errno.text}")
  let hasPatterns := options.any ["e", "f"]
  if !hasPatterns && options.operands.isEmpty then return ← program.refuseSearch none
  let operands := if hasPatterns then options.operands else options.operands.drop 1
  let patterns := if hasPatterns then listed else Bytes.split 0x0a (options.operands.head?.getD [])
  let digits := options.given.filter fun (key, _) => (utf8 key).all Printing.isDecimal
  let context (key : String) : Except Bytes Nat :=
    match (options.value? key).or (options.value? "C") with
    | some text =>
      if !text.isEmpty && text.all Printing.isDecimal then .ok (Printing.digits 10 text)
      else .error (text ++ utf8 ": invalid context length argument")
    | none => .ok (Printing.digits 10 (digits.flatMap fun (key, _) => utf8 key))
  let ignoresCase := options.last? ["i", "y", "no-i"] |>.any (· != "no-i")
  let manner : Manner := ⟨kind == "E", true, ignoresCase, false, false⟩
  let mut expressions : List Expression := []
  let mut ordered? : Option Ordered := none
  if kind == "P" then
    match patterns with
    | [pattern] =>
      match Ordered.ofLetters ignoresCase (Letters.ofBytes true pattern) with
      | .ok expression => ordered? := some (expression.confined (options.has "x") (options.has "w"))
      | .error fault => return ← stop (utf8 fault.message)
    | _ => return ← stop (utf8 "the -P option only supports a single pattern")
  for pattern in if kind == "P" then [] else patterns do
    let letters := Letters.ofBytes true pattern
    if kind == "F" then expressions := expressions ++ [Expression.ofText manner letters]
    else
      let bare := pattern.drop 1
      if pattern.head? == some 0x5b && bare.head? == some 0x3a && pattern.reverse.take 2 == utf8 "]:" &&
          !(bare.dropLast).elem 0x5d then
        return ← stop (utf8 "character class syntax is [[:space:]], not [:space:]")
      if manner.extended && pattern.head?.any (fun byte => [0x2a, 0x2b, 0x3f].elem byte) then
        program.complain (utf8 "warning: " ++ pattern.take 1 ++ utf8 " at start of expression")
      match Expression.ofLetters manner letters with
      | .ok (expression, _) => expressions := expressions ++ [expression]
      | .error fault => return ← stop (utf8 fault.message)
  let most? := options.value? "m"
  match context "B", context "A", most?.map fun (text : Bytes) => (!text.isEmpty && text.all Printing.isDecimal) with
  | .error complaint, _, _ | _, .error complaint, _ => stop complaint
  | _, _, some false => stop (utf8 "invalid max count")
  | .ok before, .ok after, _ =>
    let recursive := options.any ["r", "R"] || options.value? "d" == some (utf8 "recurse")
    let globs (key : String) : List (List PatternItem) := (options.values key).map Pattern.ofText
    let matchesAny (key : String) (name : Bytes) : Bool := (globs key).any (Pattern.accepts · name)
    let isWanted (folder : Bool) (name : Bytes) : Bool :=
      if folder then !matchesAny "exclude-dir" name
      else (!options.has "include" || matchesAny "include" name) && !matchesAny "exclude" name
    let tree ← program.tree
    let paths := if !recursive then inputs operands
      else if operands.isEmpty then (tree.list ⟨Path.dot⟩).toOption.getD [] |>.flatMap fun (name, _) =>
        searchedBelow tree isWanted (options.has "R") depthLimit false name
      else operands.flatMap fun path =>
        if path == ownInput then [path] else searchedBelow tree isWanted (options.has "R") depthLimit true path
    let headed := match options.last? ["H", "h"] with
      | some "H" => true
      | some _ => false
      | none => recursive && !(operands.length == 1 && !operands.all fun path => tree.isDirectory ⟨path⟩) || operands.length > 1
    let searching : Searching := {
      manner
      sought := ordered?.elim (.longest expressions) .ordered
      wholeLines := options.has "x"
      wholeWords := options.has "w"
      inverted := options.has "v"
      counts := options.has "c"
      namesOnly := (options.last? ["l", "L"]).map (· == "l")
      quiet := options.has "q"
      numbers := options.has "n"
      offsets := options.has "b"
      partsOnly := options.has "o"
      silent := options.has "s"
      asText := options.has "a" || options.value? "binary" == some (utf8 "text")
      skipsBinary := options.has "I" || options.value? "binary" == some (utf8 "without-match")
      most := most?.map (Printing.digits 10)
      before := if options.has "o" then 0 else before
      after := if options.has "o" then 0 else after
      separator := if options.has "z" then 0 else 0x0a
      nameEnding := if options.has "Z" then some 0 else none
      headed }
    let mut found := false
    let mut sound := true
    for path in paths do
      if !(searching.quiet && found) then
        let name := if path == ownInput then (options.value? "label").getD (utf8 "(standard input)") else path
        let skips := options.value? "d" == some (utf8 "skip") && tree.isDirectory ⟨path⟩
        if !skips then
          let (hit, well) ← program.searchInput searching name path
          found := found || hit
          sound := sound && well
    return if searching.quiet && found then 0 else if !sound then 2 else if found then 0 else 1

end Program
end ExitParity
