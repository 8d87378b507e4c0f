import ExitParity.Host.Applets.Inputs

/-! The programs that print the beginning or the end of a text. -/

namespace ExitParity.Program

/-- The arguments of `head` and `tail` with a bare count such as `-3` or `+3`
as an option. -/
def withCount (plusToo : Bool) : List Bytes → List Bytes
  | [] => []
  | arg :: rest =>
    match arg with
    | 0x2d :: digit :: digits =>
      let found := (digit :: digits).takeWhile Printing.isDecimal
      let letters := (digit :: digits).drop found.length
      if found.isEmpty then arg :: rest
      else if letters.isEmpty then utf8 "-n" :: found :: rest
      else if letters == utf8 "c" then utf8 "-c" :: found :: rest
      else arg :: rest
    | 0x2b :: digits =>
      if plusToo && !digits.isEmpty && digits.all Printing.isDecimal then utf8 "-n" :: arg :: rest else arg :: rest
    | _ => arg :: rest

/-- Print what an input begins with: so many lines or so many bytes. What a
file still holds is left to others. -/
def printBeginning (program : Program) (byLines : Bool) (descriptor : Nat) : Nat → Nat → Deed (Except Errno Unit)
  | 0, _ | _, 0 => return .ok ()
  | fuel + 1, count => do
    match ← program.read descriptor (if byLines then 8192 else min count 8192) with
    | .error errno => return .error errno
    | .ok piece =>
      if piece.isEmpty then return .ok ()
      if byLines then
        let (taken, left) := takeLines count piece []
        program.print taken
        match left with
        | (0, rest) =>
          program.giveBack ⟨descriptor, rest, false⟩
          return .ok ()
        | (count, _) => program.printBeginning byLines descriptor fuel count
      else
        program.print piece
        program.printBeginning byLines descriptor fuel (count - piece.length)
where
  /-- The first lines of a text, with how many are lacking and what is left. -/
  takeLines : Nat → Bytes → List Bytes → Bytes × Nat × Bytes
    | 0, text, before => (before.reverse.flatten, 0, text)
    | count + 1, text, before =>
      match Bytes.cutAt? 0x0a text with
      | some (line, rest) => takeLines count rest ([0x0a] :: line :: before)
      | none => ((text :: before).reverse.flatten, count + 1, [])

/-- Keep so many lines from the end. -/
def lastLines (count : Nat) (text : Bytes) : Bytes :=
  let reversed := text.reverse
  let body := if reversed.head? == some 0x0a then reversed.drop 1 else reversed
  let kept := go count body []
  (if reversed.head? == some 0x0a && count > 0 then kept.reverse.flatten ++ [0x0a] else kept.reverse.flatten)
where
  /-- The lines, of a reversed text. They come out with the first one last. -/
  go : Nat → Bytes → List Bytes → List Bytes
    | 0, _, before => before.reverse
    | count + 1, body, before =>
      match Bytes.cutAt? 0x0a body with
      | some (line, rest) =>
        if count == 0 then (line.reverse :: before).reverse
        else go count rest ([0x0a] :: line.reverse :: before)
      | none => (body.reverse :: before).reverse

/-- Leave so many lines out at the beginning. -/
def withoutLines : Nat → Bytes → Bytes
  | 0, text => text
  | count + 1, text =>
    match Bytes.cutAt? 0x0a text with
    | some (_, rest) => withoutLines count rest
    | none => []

/-- The number of lines, the last one counted too when it has no end. -/
def lineCount (text : Bytes) : Nat :=
  text.count 0x0a + if text.isEmpty || text.getLast? == some 0x0a then 0 else 1

/-- Do something with each input, with headings where there are several. -/
def withHeadings (program : Program) (quiet verbose : Bool) (paths : List Bytes)
    (step : Bytes → Nat → Deed Bool) : Deed Nat := do
  let heads := verbose || (paths.length > 1 && !quiet)
  let mut code := 0
  let mut isFirst := true
  for path in paths do
    let shown := if path == ownInput then utf8 "standard input" else path
    match ← program.openInput path with
    | .error errno =>
      program.complainOf (utf8 "cannot open " ++ Quoting.always shown ++ utf8 " for reading") errno
      code := 1
    | .ok descriptor =>
      if heads then program.print ((if isFirst then [] else [0x0a]) ++ utf8 "==> " ++ shown ++ utf8 " <==\n")
      isFirst := false
      if !(← step shown descriptor) then code := 1
      program.closeInput path descriptor
  return code

def unreadable (program : Program) (shown : Bytes) (errno : Errno) : Deed Bool := do
  program.complainOf (utf8 "error reading " ++ Quoting.always shown) errno
  return false

def head (program : Program) : Deed Nat :=
  let program := { program with argv := program.name :: withCount false program.args }
  program.withOptions ⟨"c:n:qvz", [("bytes", .valued, "c"), ("lines", .valued, "n"), ("quiet", .flag, "q"),
    ("silent", .flag, "q"), ("verbose", .flag, "v"), ("zero-terminated", .flag, "z")], true⟩ 1 fun options => do
  let byLines := options.last? ["n", "c"] != some "c"
  let wanted := (options.value? (if byLines then "n" else "c")).getD (utf8 "10")
  let (fromEnd, digits) := match wanted with
    | 0x2d :: digits => (true, digits)
    | 0x2b :: digits => (false, digits)
    | digits => (false, digits)
  match amount? digits with
  | none =>
    program.complain (utf8 (if byLines then "invalid number of lines: " else "invalid number of bytes: ") ++ Quoting.curly wanted)
    return 1
  | some count =>
    program.withHeadings (options.last? ["q", "v"] == some "q") (options.last? ["q", "v"] == some "v")
      (inputs options.operands) fun shown descriptor => do
      if fromEnd then
        match ← program.readAll descriptor with
        | .error errno => program.unreadable shown errno
        | .ok text =>
          let kept := if byLines then text.length - (lastLines count text).length else text.length - count
          program.print (text.take (if byLines && count == 0 then text.length else kept))
          return true
      else
        match ← program.printBeginning byLines descriptor endless count with
        | .error errno => program.unreadable shown errno
        | .ok () => return true

def tail (program : Program) : Deed Nat :=
  let program := { program with argv := program.name :: withCount true program.args }
  program.withOptions ⟨"c:n:fFqvs:z", [("bytes", .valued, "c"), ("lines", .valued, "n"), ("follow", .perhapsValued, "f"),
    ("quiet", .flag, "q"), ("silent", .flag, "q"), ("verbose", .flag, "v"), ("sleep-interval", .valued, "s"),
    ("zero-terminated", .flag, "z"), ("retry", .flag, "retry"), ("pid", .valued, "pid")], true⟩ 1 fun options => do
  let byLines := options.last? ["n", "c"] != some "c"
  let wanted := (options.value? (if byLines then "n" else "c")).getD (utf8 "10")
  let (fromStart, digits) := match wanted with
    | 0x2d :: digits => (false, digits)
    | 0x2b :: digits => (true, digits)
    | digits => (false, digits)
  match amount? digits with
  | none =>
    program.complain (utf8 (if byLines then "invalid number of lines: " else "invalid number of bytes: ") ++ Quoting.curly wanted)
    return 1
  | some count =>
    let code ← program.withHeadings (options.last? ["q", "v"] == some "q") (options.last? ["q", "v"] == some "v")
      (inputs options.operands) fun shown descriptor => do
      match ← program.readAll descriptor with
      | .error errno => program.unreadable shown errno
      | .ok text =>
        program.print (match byLines, fromStart with
          | true, true => withoutLines (count - 1) text
          | true, false => if count == 0 then [] else lastLines count text
          | false, true => text.drop (count - 1)
          | false, false => text.drop (text.length - count))
        return true
    if options.any ["f", "F"] then
      program.flush
      .wait fun _ => false
    return code

end ExitParity.Program
