import ExitParity.Bytes

namespace ExitParity.Printing

def isOctal (byte : UInt8) : Bool := 0x30 ≤ byte && byte ≤ 0x37

def isDecimal (byte : UInt8) : Bool := 0x30 ≤ byte && byte ≤ 0x39

/-- The value of a digit in any base up to 36. -/
def digitValue (byte : UInt8) : Nat :=
  if isDecimal byte then byte.toNat - 0x30
  else if 0x61 ≤ byte && byte ≤ 0x7a then byte.toNat - 0x61 + 10
  else if 0x41 ≤ byte && byte ≤ 0x5a then byte.toNat - 0x41 + 10
  else 99

/-- The value of a string of digits. -/
def digits (base : Nat) (text : Bytes) : Nat :=
  text.foldl (fun value byte => value * base + digitValue byte) 0

def isSpace (byte : UInt8) : Bool := byte == 0x20 || (0x09 ≤ byte && byte ≤ 0x0d)

/-- The number at the beginning of a text, with what stands behind it. A
leading zero marks octal digits, and a leading `0x` hexadecimal ones. -/
def leadingNumber (text : Bytes) : Option (Int × Bytes) :=
  let text := text.dropWhile isSpace
  let (negative, text) := match text with
    | 0x2d :: rest => (true, rest)
    | 0x2b :: rest => (false, rest)
    | _ => (false, text)
  let (base, body) := match text with
    | 0x30 :: x :: next :: _ =>
      if (x == 0x78 || x == 0x58) && digitValue next < 16 then (16, text.drop 2) else (8, text)
    | 0x30 :: _ => (8, text)
    | _ => (10, text)
  let found := body.takeWhile (digitValue · < base)
  if found.isEmpty then none
  else some (if negative then -(digits base found : Int) else digits base found, body.drop found.length)

/-- The byte that a letter behind a backslash stands for. -/
def escaped? (byte : UInt8) : Option UInt8 :=
  match byte with
  | 0x5c => some 0x5c
  | 0x61 => some 0x07
  | 0x62 => some 0x08
  | 0x66 => some 0x0c
  | 0x6e => some 0x0a
  | 0x72 => some 0x0d
  | 0x74 => some 0x09
  | 0x76 => some 0x0b
  | _ => none

/-- What stands for an escape, from behind its backslash, and the text behind
it. A backslash that escapes nothing stands for itself. -/
def escape (text : Bytes) : UInt8 × Bytes :=
  match text with
  | [] => (0x5c, [])
  | byte :: rest =>
    let octal := (text.take 3).takeWhile isOctal
    if !octal.isEmpty then ((digits 8 octal).toUInt8, text.drop octal.length)
    else match escaped? byte with
      | some value => (value, rest)
      | none => (0x5c, text)

/-- Resolve the escapes of a printed argument. `\c` ends all output. -/
def unescape : Nat → Bytes → Bytes × Bool
  | 0, _ => ([], false)
  | _, [] => ([], false)
  | fuel + 1, 0x5c :: rest =>
    if rest.head? == some 0x63 then ([], true)
    else
      let afterZero := (rest.drop 1).head?.any isOctal && rest.head? == some 0x30
      let (value, rest) := escape (if afterZero then rest.drop 1 else rest)
      let (more, stopped) := unescape fuel rest
      (value :: more, stopped)
  | fuel + 1, byte :: rest =>
    let (more, stopped) := unescape fuel rest
    (byte :: more, stopped)

/-- What a shell's `echo` prints for its arguments. -/
def echoed (args : List Bytes) : Bytes :=
  let (bare, args) := match args with
    | [0x2d, 0x6e] :: rest => (true, rest)
    | _ => (false, args)
  let joined := Bytes.joinWith [0x20] args
  let (text, stopped) := unescape joined.length joined
  if bare || stopped then text else text ++ [0x0a]

/-- The digits of a number in a base, small letters for high digits. -/
def toDigits (base number : Nat) : Bytes :=
  utf8 (String.ofList (Nat.toDigits base number))

def upper (byte : UInt8) : UInt8 := if 0x61 ≤ byte && byte ≤ 0x7a then byte - 0x20 else byte

def lower (byte : UInt8) : UInt8 := if 0x41 ≤ byte && byte ≤ 0x5a then byte + 0x20 else byte

/-- A directive of a format: its flags, its width and its precision. -/
structure Directive where
  flags : Bytes
  width : Nat
  precision : Option Nat
  letter : UInt8

namespace Directive

def has (directive : Directive) (flag : UInt8) : Bool := directive.flags.elem flag

/-- Fill a text up to the width. -/
def pad (directive : Directive) (text : Bytes) : Bytes :=
  let fill := List.replicate (directive.width - text.length) 0x20
  if directive.has 0x2d then text ++ fill else fill ++ text

/-- A text, cut at the precision. -/
def text (directive : Directive) (bytes : Bytes) : Bytes :=
  directive.pad (directive.precision.elim bytes (bytes.take ·))

/-- A number with a sign or a mark of its base in front. The precision counts
digits, and without one zeros can fill the width. -/
def number (directive : Directive) (sign bare : Bytes) : Bytes :=
  let bare := if directive.precision == some 0 && bare == [0x30] then [] else bare
  let least := match directive.precision with
    | some precision => precision
    | none =>
      if directive.has 0x30 && !directive.has 0x2d then directive.width - sign.length else 0
  directive.pad (sign ++ List.replicate (least - bare.length) 0x30 ++ bare)

end Directive

end ExitParity.Printing
