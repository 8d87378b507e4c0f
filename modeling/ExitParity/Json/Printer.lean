import ExitParity.Json.Value

namespace ExitParity.Json

/-- The hexadecimal digit of a number below sixteen. -/
def hexDigit (value : Nat) : Char :=
  if value < 10 then Char.ofNat (0x30 + value) else Char.ofNat (0x57 + value)

/-- How one character is written inside a string: quotes, backslashes and
control characters are escaped and nothing else is. -/
def escapeChar (c : Char) : List Char :=
  if c = '"' then ['\\', '"']
  else if c = '\\' then ['\\', '\\']
  else if c = '\x08' then ['\\', 'b']
  else if c = '\t' then ['\\', 't']
  else if c = '\n' then ['\\', 'n']
  else if c = '\x0c' then ['\\', 'f']
  else if c = '\r' then ['\\', 'r']
  else if c.toNat < 0x20 then ['\\', 'u', '0', '0', hexDigit (c.toNat / 16), hexDigit (c.toNat % 16)]
  else [c]

def quote (text : String) : List Char :=
  '"' :: text.toList.flatMap escapeChar ++ ['"']

/-- A natural number in decimal. Other numbers are read but never written, and
are shown with their significand. -/
def numberText : JsonNumber → List Char
  | .natural value => Nat.toDigits 10 value
  | .negative magnitude => '-' :: Nat.toDigits 10 magnitude
  | .real significand _ => Nat.toDigits 10 significand

def boolText (value : Bool) : List Char :=
  if value then "true".toList else "false".toList

def nullText : List Char := "null".toList

mutual

/-- The text without any space. -/
def compact : Json → List Char
  | .null => nullText
  | .bool value => boolText value
  | .number value => numberText value
  | .string text => quote (text.getD "")
  | .array items => '[' :: compactItems items ++ [']']
  | .object members => '{' :: compactMembers members ++ ['}']

def compactItems : List Json → List Char
  | [] => []
  | [item] => compact item
  | item :: rest => compact item ++ ',' :: compactItems rest

def compactMembers : List (Option String × Json) → List Char
  | [] => []
  | [(key, value)] => quote (key.getD "") ++ ':' :: compact value
  | (key, value) :: rest => quote (key.getD "") ++ ':' :: compact value ++ ',' :: compactMembers rest

end

/-- A line feed and two spaces for every level. -/
def newline (level : Nat) : List Char := '\n' :: List.replicate (2 * level) ' '

mutual

/-- The text with one item or member to a line, indented by level. An empty
array or object stays on one line. -/
def pretty (level : Nat) : Json → List Char
  | .null => nullText
  | .bool value => boolText value
  | .number value => numberText value
  | .string text => quote (text.getD "")
  | .array [] => ['[', ']']
  | .array (item :: rest) =>
    '[' :: newline (level + 1) ++ pretty (level + 1) item ++ prettyItems (level + 1) rest ++
      newline level ++ [']']
  | .object [] => ['{', '}']
  | .object ((key, value) :: rest) =>
    '{' :: newline (level + 1) ++ quote (key.getD "") ++ [':', ' '] ++ pretty (level + 1) value ++
      prettyMembers (level + 1) rest ++ newline level ++ ['}']

def prettyItems (level : Nat) : List Json → List Char
  | [] => []
  | item :: rest => ',' :: newline level ++ pretty level item ++ prettyItems level rest

def prettyMembers (level : Nat) : List (Option String × Json) → List Char
  | [] => []
  | (key, value) :: rest =>
    ',' :: newline level ++ quote (key.getD "") ++ [':', ' '] ++ pretty level value ++ prettyMembers level rest

end

end ExitParity.Json
