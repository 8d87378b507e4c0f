import ExitParity.Host.Applets.Inputs

/-! The programs that pass texts on as they are. -/

namespace ExitParity.Program

/-- How `cat` shows what it passes on. -/
structure Showing where
  numbersAll : Bool
  numbersFull : Bool
  endsLines : Bool
  squeezes : Bool
  showsTabs : Bool
  showsHidden : Bool

/-- Where `cat` is in its output: the number of the next line, whether a line
begins, and how many empty lines there were just now. -/
structure ShowingState where
  number : Nat
  begins : Bool
  empties : Nat

/-- A byte as it is shown. -/
def Showing.byte (showing : Showing) (byte : UInt8) : Bytes :=
  if byte == 0x0a then if showing.endsLines then [0x24, 0x0a] else [0x0a]
  else if byte == 0x09 then if showing.showsTabs then utf8 "^I" else [byte]
  else if !showing.showsHidden then [byte]
  else
    let (mark, low) := if byte ≥ 0x80 then (utf8 "M-", byte - 0x80) else ([], byte)
    mark ++ (if low < 0x20 then [0x5e, low + 0x40] else if low == 0x7f then utf8 "^?" else [low])

/-- Pass a byte on, with the number of its line in front where one begins. -/
def Showing.pass (showing : Showing) (before : List Bytes × ShowingState) (byte : UInt8) : List Bytes × ShowingState :=
  let (shown, state) := before
  let isEmpty := state.begins && byte == 0x0a
  if isEmpty && showing.squeezes && state.empties > 0 then (shown, { state with empties := state.empties + 1 })
  else
    let numbered := state.begins && (showing.numbersAll && !showing.numbersFull || showing.numbersFull && !isEmpty)
    let heading := if numbered then rightAligned 6 (numeral state.number) ++ [0x09] else []
    let heading := if isEmpty && !numbered && showing.numbersFull && showing.endsLines then utf8 "      \t" else heading
    ((heading ++ showing.byte byte) :: shown,
      ⟨if numbered then state.number + 1 else state.number, byte == 0x0a, if isEmpty then state.empties + 1 else 0⟩)

/-- Write at once, and tell whether that went well. -/
def writeOut (program : Program) (bytes : Bytes) : Deed Bool := do
  match ← program.write 1 bytes with
  | .ok () => return true
  | .error errno =>
    program.complainOf (utf8 "write error") errno
    return false

def concatenate (program : Program) : Deed Nat :=
  program.withOptions ⟨"AbeEnstTuv", [("show-all", .flag, "A"), ("number-nonblank", .flag, "b"), ("show-ends", .flag, "E"),
    ("number", .flag, "n"), ("squeeze-blank", .flag, "s"), ("show-tabs", .flag, "T"),
    ("show-nonprinting", .flag, "v")], true⟩ 1 fun options => do
  let showing : Showing := {
    numbersAll := options.has "n"
    numbersFull := options.has "b"
    endsLines := options.any ["E", "A", "e"]
    squeezes := options.has "s"
    showsTabs := options.any ["T", "A", "t"]
    showsHidden := options.any ["v", "A", "e", "t"] }
  let plain := options.given.all (·.1 == "u")
  let mut state : ShowingState := ⟨1, true, 0⟩
  let mut code := 0
  for path in inputs options.operands do
    match ← program.openInput path with
    | .error errno =>
      program.complainOf (Quoting.whenNeeded path) errno
      code := 1
    | .ok descriptor =>
      if ← program.readsItsOutput false descriptor then
        program.complain (Quoting.whenNeeded path ++ utf8 ": input file is output file")
        code := 1
      else
        let result ← program.eachPiece descriptor (fun state piece => do
          let (shown, state) := if plain then ([piece], state) else piece.foldl showing.pass ([], state)
          if ← program.writeOut shown.reverse.flatten then return some state else program.exit 1) endless state
        match result with
        | .ok after => state := after
        | .error errno =>
          program.complainOf (Quoting.whenNeeded path) errno
          code := 1
        program.closeInput path descriptor
  return code

def tee (program : Program) : Deed Nat :=
  program.withOptions ⟨"aip", [("append", .flag, "a"), ("ignore-interrupts", .flag, "i"),
    ("output-error", .perhapsValued, "p")], true⟩ 1 fun options => do
  let mode ← .look fun machine => 0o666 &&& (0o7777 ^^^ machine.maskOf program.process)
  let mut targets : List (Bytes × Nat) := []
  let mut code := 0
  for path in options.operands do
    let opened ← program.openBehind (·.freeDescriptor program.process)
      (·.openForWriting program.process ⟨path⟩ ⟨true, false, !options.has "a", mode⟩ (options.has "a") false)
    match opened with
    | .ok descriptor => targets := targets ++ [(path, descriptor)]
    | .error errno =>
      program.complainOf (Quoting.whenNeeded path) errno
      code := 1
  let all := (utf8 "standard output", 1) :: targets
  let result ← program.eachPiece 0 (fun (sound, live) piece => do
    let mut wrong : List Nat := []
    for (name, descriptor) in live do
      match ← program.write descriptor piece with
      | .ok () => pure ()
      | .error errno =>
        program.complainOf (if descriptor == 1 then Quoting.always name else Quoting.whenNeeded name) errno
        wrong := descriptor :: wrong
    return some (sound && wrong.isEmpty, live.filter fun target => !wrong.contains target.2)) endless (code == 0, all)
  match result with
  | .ok (sound, _) => return if sound then 0 else 1
  | .error errno =>
    program.complainOf (utf8 "read error") errno
    return 1

end ExitParity.Program
