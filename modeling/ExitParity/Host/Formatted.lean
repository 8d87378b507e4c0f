import ExitParity.Host.Floating
import ExitParity.Host.Quoting

/-! What `printf` makes of a format and its arguments. -/

namespace ExitParity.Printing

/-- How one of the programs named `printf` works. -/
structure Custom where
  precision : Precision
  /-- Resolves what stands behind a backslash: the bytes, and what is left. -/
  escape : Bytes → Bytes × Bytes
  /-- Resolves what stands behind a backslash in an argument. -/
  argumentEscape : Bytes → Bytes × Bytes
  notNumeric : Bytes → Bytes
  notConverted : Bytes → Bytes
  outOfRange : Bytes → Bytes
  invalidDirective : Bytes → Bytes
  missingLetter : Bytes
  /-- How a directive quotes its argument, where one can. -/
  quote? : Option (Bytes → Bytes)
  /-- What is said about arguments that no directive takes. -/
  excess : Bytes → Option Bytes

/-- What a format makes of its arguments: the text, the complaints about
arguments that are no numbers, a remark on arguments that nothing takes, what
broke the printing off, and whether an argument ended it. -/
structure Printed where
  text : Bytes
  args : List Bytes
  used : Bool
  complaints : List Bytes
  remark : Option Bytes
  fault : Option Bytes
  stopped : Bool

namespace Printed

def behind (printed : Printed) (text : Bytes) : Printed := { printed with text := text ++ printed.text }

end Printed

/-- Resolve the escapes of an argument. `\c` ends all output. -/
def resolve (escape : Bytes → Bytes × Bytes) : Nat → Bytes → Bytes × Bool
  | 0, _ => ([], false)
  | _, [] => ([], false)
  | fuel + 1, 0x5c :: rest =>
    if rest.head? == some 0x63 then ([], true)
    else
      let (value, rest) := escape rest
      let (more, stopped) := resolve escape fuel rest
      (value ++ more, stopped)
  | fuel + 1, byte :: rest =>
    let (more, stopped) := resolve escape fuel rest
    (byte :: more, stopped)

/-- A number argument, with a complaint when it is none. A quote stands before
a character whose code is meant. -/
def numberArgument (custom : Custom) (signed : Bool) (argument : Option Bytes) : Int × List Bytes :=
  match argument with
  | none => (0, [])
  | some (0x22 :: byte :: _) | some (0x27 :: byte :: _) => (byte.toNat, [])
  | some text =>
    match leadingNumber text with
    | none => (0, if text.isEmpty then [] else [custom.notNumeric text])
    | some (value, rest) =>
      let low : Int := if signed then -(2 ^ 63) else -(2 ^ 64 - 1)
      let high : Int := if signed then 2 ^ 63 - 1 else 2 ^ 64 - 1
      if value < low || value > high then (if value < low then low else high, [custom.outOfRange text])
      else if !rest.isEmpty then (value, [custom.notConverted text])
      else (value, [])

def floatingArgument (custom : Custom) (argument : Option Bytes) : Floating × List Bytes :=
  match argument with
  | none => (.finite false 0 0, [])
  | some (0x22 :: byte :: _) | some (0x27 :: byte :: _) => (.finite false byte.toNat 0, [])
  | some text =>
    match Floating.leading custom.precision text with
    | none => (.finite false 0 0, if text.isEmpty then [] else [custom.notNumeric text])
    | some (value, rest) => (value, if rest.isEmpty then [] else [custom.notConverted text])

/-- Read a directive from behind its percent sign. A star takes a number from
the arguments. -/
def readDirective (custom : Custom) (format : Bytes) (args : List Bytes) : Directive × Bytes × List Bytes :=
  let flags := format.takeWhile fun byte => [0x23, 0x2d, 0x2b, 0x20, 0x30].elem byte
  let format := format.drop flags.length
  let count (format : Bytes) (args : List Bytes) : Int × Bytes × List Bytes :=
    match format with
    | 0x2a :: rest => ((numberArgument custom true args.head?).1, rest, args.drop 1)
    | _ =>
      let found := format.takeWhile isDecimal
      (digits 10 found, format.drop found.length, args)
  let (width, format, args) := count format args
  let flags := if width < 0 then 0x2d :: flags else flags
  let (precision, format, args) := match format with
    | 0x2e :: rest =>
      let (precision, format, args) := count rest args
      (if precision < 0 then none else some precision.toNat, format, args)
    | _ => (none, format, args)
  (⟨flags, width.natAbs, precision, format.head?.getD 0⟩, format.drop 1, args)

/-- What a directive makes of a whole number. -/
def wholeNumber (directive : Directive) (value : Int) : Option Bytes :=
  let letter := directive.letter
  if letter == 0x64 || letter == 0x69 then
    let sign : Bytes :=
      if value < 0 then [0x2d] else if directive.has 0x2b then [0x2b] else if directive.has 0x20 then [0x20] else []
    some (directive.number sign (toDigits 10 value.natAbs))
  else
    let value := (value % (2 ^ 64)).toNat
    let marked := directive.has 0x23 && value != 0
    if letter == 0x75 then some (directive.number [] (toDigits 10 value))
    else if letter == 0x6f then
      some (directive.number [] ((if marked then [0x30] else []) ++ toDigits 8 value))
    else if letter == 0x78 then
      some (directive.number (if marked then utf8 "0x" else []) (toDigits 16 value))
    else if letter == 0x58 then
      some (directive.number (if marked then utf8 "0X" else []) ((toDigits 16 value).map upper))
    else none

/-- What a directive prints for its argument. -/
def convert (custom : Custom) (directive : Directive) (argument : Option Bytes) : Option (Bytes × List Bytes × Bool) :=
  let letter := directive.letter
  if letter == 0x73 then some (directive.text (argument.getD []), [], false)
  else if letter == 0x62 then
    let bytes := argument.getD []
    let (text, stopped) := resolve custom.argumentEscape (bytes.length + 1) bytes
    some (directive.text text, [], stopped)
  else if letter == 0x71 && custom.quote?.isSome then
    some (directive.text ((custom.quote?.getD id) (argument.getD [])), [], false)
  else if letter == 0x63 then some (directive.pad [(argument.getD []).head?.getD 0], [], false)
  else if [0x65, 0x66, 0x67, 0x61].elem (lower letter) then
    let (value, complaints) := floatingArgument custom argument
    some (value.format directive, complaints, false)
  else
    let (value, complaints) := numberArgument custom (letter == 0x64 || letter == 0x69) argument
    (wholeNumber directive value).map (·, complaints, false)

/-- Go through a format once. -/
def printOnce (custom : Custom) : Nat → Bytes → List Bytes → Printed
  | 0, _, args => ⟨[], args, false, [], none, none, false⟩
  | _, [], args => ⟨[], args, false, [], none, none, false⟩
  | fuel + 1, 0x25 :: 0x25 :: rest, args => (printOnce custom fuel rest args).behind [0x25]
  | fuel + 1, 0x25 :: rest, args =>
    let (directive, format, left) := readDirective custom rest args
    if directive.letter == 0 then ⟨[], left, true, [], none, some custom.missingLetter, false⟩
    else match convert custom directive left.head? with
      | none =>
        let seen := rest.take (rest.length - format.length)
        ⟨[], left, true, [], none, some (custom.invalidDirective (0x25 :: seen)), false⟩
      | some (text, complaints, stopped) =>
        if stopped then ⟨text, left.drop 1, true, complaints, none, none, true⟩
        else
          let more := printOnce custom fuel format (left.drop 1)
          { more with text := text ++ more.text, used := true, complaints := complaints ++ more.complaints }
  | fuel + 1, 0x5c :: rest, args =>
    let (value, rest) := custom.escape rest
    (printOnce custom fuel rest args).behind value
  | fuel + 1, byte :: rest, args => (printOnce custom fuel rest args).behind [byte]

/-- What `printf` prints. The format is gone through again while it takes
arguments and some are left. -/
def formatted (custom : Custom) (format : Bytes) : Nat → List Bytes → Printed
  | 0, args => ⟨[], args, false, [], none, none, false⟩
  | fuel + 1, args =>
    let printed := printOnce custom (format.length + 1) format args
    if printed.stopped || printed.fault.isSome then printed
    else match printed.args with
      | [] => printed
      | first :: _ =>
        if !printed.used then { printed with remark := custom.excess first }
        else
          let more := formatted custom format fuel printed.args
          { more with text := printed.text ++ more.text, complaints := printed.complaints ++ more.complaints }

/-- Resolve what stands behind a backslash as a shell does. -/
def shellEscape (text : Bytes) : Bytes × Bytes :=
  let (byte, rest) := escape text
  ([byte], rest)

/-- The same for an argument, where a zero can stand before octal digits. -/
def shellArgumentEscape (text : Bytes) : Bytes × Bytes :=
  let afterZero := (text.drop 1).head?.any isOctal && text.head? == some 0x30
  shellEscape (if afterZero then text.drop 1 else text)

/-- How the shell's own `printf` works. -/
def ofShell : Custom where
  precision := .double
  escape := shellEscape
  argumentEscape := shellArgumentEscape
  notNumeric text := text ++ utf8 ": expected numeric value"
  notConverted text := text ++ utf8 ": not completely converted"
  outOfRange text := text ++ utf8 ": Numerical result out of range"
  invalidDirective text := text ++ utf8 ": invalid directive"
  missingLetter := utf8 "missing format character"
  quote? := none
  excess _ := none

/-- The digits of a base at the beginning of a text, at most so many. -/
def fewDigits (base most : Nat) (text : Bytes) : Bytes := (text.take most).takeWhile (digitValue · < base)

/-- Resolve what stands behind a backslash as the system's programs do. -/
def systemEscape (zeroed : Bool) (text : Bytes) : Bytes × Bytes :=
  match text with
  | [] => ([0x5c], [])
  | byte :: rest =>
    if byte == 0x78 then
      let found := fewDigits 16 2 rest
      if found.isEmpty then ([0x5c, 0x78], rest) else ([(digits 16 found).toUInt8], rest.drop found.length)
    else if byte == 0x75 || byte == 0x55 then
      let found := fewDigits 16 (if byte == 0x75 then 4 else 8) rest
      if found.isEmpty then ([0x5c, byte], rest)
      else (utf8 (String.singleton (Char.ofNat (digits 16 found))), rest.drop found.length)
    else if byte == 0x65 then ([0x1b], rest)
    else if byte == 0x22 then ([0x22], rest)
    else
      let body := if zeroed && byte == 0x30 then rest else text
      let octal := fewDigits 8 3 body
      if isOctal byte then ([(digits 8 octal).toUInt8], body.drop octal.length)
      else match escaped? byte with
        | some value => ([value], rest)
        | none => ([0x5c, byte], rest)

/-- How the system's program named `printf` works. -/
def ofSystem : Custom where
  precision := .extended
  escape := systemEscape false
  argumentEscape := systemEscape true
  notNumeric text := Quoting.curly text ++ utf8 ": expected a numeric value"
  notConverted text := Quoting.curly text ++ utf8 ": value not completely converted"
  outOfRange text := Quoting.curly text ++ utf8 ": Numerical result out of range"
  invalidDirective text := text ++ utf8 ": invalid conversion specification"
  missingLetter := utf8 "%: invalid conversion specification"
  quote? := some Quoting.whenNeeded
  excess text := some (utf8 "warning: ignoring excess arguments, starting with " ++ Quoting.curly text)

/-- A text with a backslash in front of every byte that a shell takes for
something else. -/
def backslashed (text : Bytes) : Bytes :=
  if text.isEmpty then utf8 "''"
  else text.flatMap fun byte =>
    if (utf8 " \t!\"#$&'()*,;<>?[\\]^\x60\x7b|\x7d~").elem byte then [0x5c, byte]
    else if byte == 0x0a then utf8 "$'\\n'" else [byte]

/-- How `printf` works in a shell of the extended language. -/
def ofExtendedShell : Custom where
  precision := .extended
  escape := systemEscape false
  argumentEscape := systemEscape true
  notNumeric text := text ++ utf8 ": invalid number"
  notConverted text := text ++ utf8 ": invalid number"
  outOfRange text := utf8 "warning: " ++ text ++ utf8 ": Numerical result out of range"
  invalidDirective text := 0x60 :: text.drop (text.length - 1) ++ utf8 "': invalid format character"
  missingLetter := utf8 "\x60%': missing format character"
  quote? := some backslashed
  excess _ := none

/-- Resolve the escapes of one word of `echo`. `\c` ends all output. -/
def systemUnescape : Nat → Bytes → Bytes × Bool
  | 0, _ => ([], false)
  | _, [] => ([], false)
  | fuel + 1, 0x5c :: rest =>
    match rest with
    | [] => ([0x5c], false)
    | letter :: more =>
      if letter == 0x63 then ([], true)
      else
        let (value, rest) : Bytes × Bytes :=
          if letter == 0x22 || letter == 0x75 || letter == 0x55 then ([0x5c, letter], more)
          else systemEscape true rest
        let (others, stopped) := systemUnescape fuel rest
        (value ++ others, stopped)
  | fuel + 1, byte :: rest =>
    let (others, stopped) := systemUnescape fuel rest
    (byte :: others, stopped)

/-- What `echo` prints: escapes are resolved only where that is asked for. -/
def systemEchoed : Bool → Bool → List Bytes → Bytes
  | bare, escapes, args =>
    match args with
    | (0x2d :: letter :: letters) :: rest =>
      if (letter :: letters).all fun letter => [0x6e, 0x65, 0x45].elem letter then
        systemEchoed (bare || (letter :: letters).elem 0x6e)
          ((letter :: letters).foldl (fun escapes letter =>
            if letter == 0x65 then true else if letter == 0x45 then false else escapes) escapes) rest
      else finish bare escapes args
    | args => finish bare escapes args
where
  finish (bare escapes : Bool) (args : List Bytes) : Bytes :=
    if escapes then
      let joined := Bytes.joinWith [0x20] args
      let (text, stopped) := systemUnescape (joined.length + 1) joined
      if bare || stopped then text else text ++ [0x0a]
    else Bytes.joinWith [0x20] args ++ if bare then [] else [0x0a]

end ExitParity.Printing
