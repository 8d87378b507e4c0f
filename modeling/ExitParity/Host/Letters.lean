import ExitParity.Host.Printing
import ExitParity.Utf8

/-! Texts as the letters that programs count: characters or bytes. -/

namespace ExitParity

/-- The letters of a text by their numbers. A byte that is part of no character
has a number behind those of all characters. -/
abbrev Letters := List Nat

namespace Letters

def strayBase : Nat := 0x110000

/-- The characters of a text. -/
def ofUnits : List (Option Char) → Bytes → Letters → Letters
  | [], _, before => before.reverse
  | some char :: units, bytes, before => ofUnits units (bytes.drop char.utf8Size) (char.toNat :: before)
  | none :: units, bytes, before => ofUnits units (bytes.drop 1) ((strayBase + (bytes.head?.getD 0).toNat) :: before)

/-- The letters of a text: its characters, or its bytes. -/
def ofBytes (wide : Bool) (bytes : Bytes) : Letters :=
  if wide && bytes.any (0x80 ≤ ·) then ofUnits (Utf8.units bytes) bytes []
  else bytes.map (·.toNat)

def encode (wide : Bool) (letter : Nat) : Bytes :=
  if !wide || letter < 0x80 then [letter.toUInt8]
  else if strayBase ≤ letter then [(letter - strayBase).toUInt8]
  else utf8 (String.singleton (Char.ofNat letter))

def toBytes (wide : Bool) (letters : Letters) : Bytes := letters.flatMap (encode wide)

def isLower (letter : Nat) : Bool := 0x61 ≤ letter && letter ≤ 0x7a

def isUpper (letter : Nat) : Bool := 0x41 ≤ letter && letter ≤ 0x5a

def isDigit (letter : Nat) : Bool := 0x30 ≤ letter && letter ≤ 0x39

/-- A character that is no ASCII one but is shown. -/
def isForeign (letter : Nat) : Bool := 0xa0 ≤ letter && letter < strayBase

/-- The small and the capital letters beyond ASCII that stand 32 places apart. -/
def lower (letter : Nat) : Nat :=
  if isUpper letter || (0xc0 ≤ letter && letter ≤ 0xde && letter != 0xd7) || (0x391 ≤ letter && letter ≤ 0x3a9) ||
      (0x410 ≤ letter && letter ≤ 0x42f) then letter + 32
  else letter

def upper (letter : Nat) : Nat :=
  if isLower letter || (0xe0 ≤ letter && letter ≤ 0xfe && letter != 0xf7) || (0x3b1 ≤ letter && letter ≤ 0x3c9 && letter != 0x3c2) ||
      (0x430 ≤ letter && letter ≤ 0x44f) then letter - 32
  else letter

/-- A letter that words are made of. -/
def isWord (letter : Nat) : Bool :=
  letter == 0x5f || isLower letter || isUpper letter || isDigit letter ||
    (isForeign letter && letter != 0xd7 && letter != 0xf7 && 0xc0 ≤ letter)

/-- The classes of letters by their names. -/
def class? (name : String) : Option (Nat → Bool) :=
  let alpha (letter : Nat) : Bool := isWord letter && letter != 0x5f && !isDigit letter
  let graph (letter : Nat) : Bool := (0x21 ≤ letter && letter ≤ 0x7e) || isForeign letter
  let space (letter : Nat) : Bool := letter == 0x20 || (0x09 ≤ letter && letter ≤ 0x0d)
  match name with
  | "alpha" => some alpha
  | "digit" => some isDigit
  | "alnum" => some fun letter => alpha letter || isDigit letter
  | "upper" => some fun letter => isUpper letter || (0x80 ≤ letter && lower letter != letter)
  | "lower" => some fun letter => isLower letter || (0x80 ≤ letter && upper letter != letter)
  | "space" => some space
  | "blank" => some fun letter => letter == 0x20 || letter == 0x09
  | "punct" => some fun letter => graph letter && !alpha letter && !isDigit letter
  | "print" => some fun letter => graph letter || letter == 0x20
  | "graph" => some graph
  | "cntrl" => some fun letter => letter < 0x20 || letter == 0x7f || (0x80 ≤ letter && letter < 0xa0)
  | "xdigit" => some fun letter => isDigit letter || (0x41 ≤ letter && letter ≤ 0x46) || (0x61 ≤ letter && letter ≤ 0x66)
  | _ => none

end Letters
end ExitParity
