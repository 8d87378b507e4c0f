import ExitParity.Utf8

/-! How names are shown in complaints: in the quotes of a shell, or in curly
quotes. -/

namespace ExitParity.Quoting

/-- What one character of a name asks for. -/
inductive Kind where
  /-- Stands for itself everywhere. -/
  | plain
  /-- Has to be in quotes, of either kind. -/
  | gentle
  /-- Has to be in single quotes. -/
  | special
  | singleQuote
  /-- Cannot be shown and is written as an escape. -/
  | hidden (escapes : Bytes)
  deriving DecidableEq

/-- A backslash with the digits of a byte. -/
def octal (byte : UInt8) : Bytes :=
  let digit (shift : Nat) : UInt8 := (0x30 + byte.toNat / 2 ^ shift % 8).toUInt8
  [0x5c, digit 6, digit 3, digit 0]

/-- The letters of the control bytes that have one. -/
def controlLetter? (byte : UInt8) : Option UInt8 :=
  [(0x07, 0x61), (0x08, 0x62), (0x09, 0x74), (0x0a, 0x6e), (0x0b, 0x76), (0x0c, 0x66), (0x0d, 0x72)].lookup byte

def isControl (byte : UInt8) : Bool := byte < 0x20 || byte == 0x7f

/-- The kind of an ASCII byte, by whether it stands first and alone. -/
def kindOf (first alone : Bool) (byte : UInt8) : Kind :=
  if isControl byte then
    .hidden (match controlLetter? byte with
      | some letter => [0x5c, letter]
      | none => octal byte)
  else if byte == 0x27 then .singleQuote
  else if byte == 0x20 then .gentle
  else if byte == 0x23 || byte == 0x7e then if first then .gentle else .plain
  else if byte == 0x7b || byte == 0x7d then if alone then .gentle else .plain
  else if (utf8 "!\"$&()*;<=>[^`|\\").elem byte then .special
  else .plain

/-- A name in its characters, each with what it asks for. -/
def characters (name : Bytes) : List (Bytes × Kind) :=
  let rec go : Bool → List (Option Char) → Bytes → List (Bytes × Kind)
    | _, [], _ => []
    | first, unit :: units, bytes =>
      match unit with
      | some char =>
        let written := bytes.take char.utf8Size
        let kind := match written with
          | [byte] => kindOf first (first && units.isEmpty) byte
          | _ => if char.toNat < 0xa0 then .hidden (written.flatMap octal) else .plain
        (written, kind) :: go false units (bytes.drop written.length)
      | none => (bytes.take 1, .hidden ((bytes.take 1).flatMap octal)) :: go false units (bytes.drop 1)
  go true (Utf8.units name) name

/-- The text between single quotes. What cannot be shown is put behind a
dollar sign in quotes of its own. -/
def between : Bool → List (Bytes × Kind) → Bytes
  | _, [] => []
  | escaping, (bytes, kind) :: rest =>
    let close : Bytes := if escaping then utf8 "''" else []
    match kind with
    | .hidden escapes => (if escaping then [] else utf8 "'$'") ++ escapes ++ between true rest
    | .singleQuote => utf8 "'\\''" ++ between false rest
    | _ => close ++ bytes ++ between false rest

/-- A name in the quotes of a shell. -/
def always (name : Bytes) : Bytes :=
  let parts := characters name
  let mild := parts.all fun part => part.2 == .plain || part.2 == .gentle || part.2 == .singleQuote
  if mild && parts.any (·.2 == .singleQuote) then utf8 "\"" ++ name ++ utf8 "\""
  else utf8 "'" ++ between false parts ++ utf8 "'"

/-- A name, in the quotes of a shell where it would need them. -/
def whenNeeded (name : Bytes) : Bytes :=
  if name.isEmpty || (characters name).any (·.2 != .plain) then always name else name

/-- A name in curly quotes. -/
def curly (name : Bytes) : Bytes :=
  utf8 "‘" ++ (characters name).flatMap (fun (bytes, kind) => match kind with
    | .hidden escapes => escapes
    | _ => if bytes == [0x5c] then utf8 "\\\\" else bytes) ++ utf8 "’"

end ExitParity.Quoting
