import ExitParity.Bytes

namespace ExitParity

/-- The bytes of an expanded word, each with whether it was quoted. -/
abbrev Marked := List (UInt8 × Bool)

/-- A part of a bracket: a range of bytes, or a class of them. -/
inductive Member where
  | range (low high : UInt8)
  | class_ (contains : UInt8 → Bool)

/-- One piece of a pattern. -/
inductive PatternItem where
  | anything
  | anyByte
  | exactly (byte : UInt8)
  | oneOf (inverted : Bool) (members : List Member)

namespace Member

def accepts (byte : UInt8) : Member → Bool
  | .range low high => low ≤ byte && byte ≤ high
  | .class_ contains => contains byte

def isLower (byte : UInt8) : Bool := 0x61 ≤ byte && byte ≤ 0x7a

def isUpper (byte : UInt8) : Bool := 0x41 ≤ byte && byte ≤ 0x5a

def isDigit (byte : UInt8) : Bool := 0x30 ≤ byte && byte ≤ 0x39

def isGraphic (byte : UInt8) : Bool := 0x21 ≤ byte && byte ≤ 0x7e

def isAlphanumeric (byte : UInt8) : Bool := isLower byte || isUpper byte || isDigit byte

/-- The classes of bytes as they are written behind an opening bracket. -/
def classes : List (Bytes × (UInt8 → Bool)) := [
  ("alnum", isAlphanumeric),
  ("alpha", fun byte => isLower byte || isUpper byte),
  ("blank", fun byte => byte == 0x20 || byte == 0x09),
  ("cntrl", fun byte => byte < 0x20 || byte == 0x7f),
  ("digit", isDigit),
  ("graph", isGraphic),
  ("lower", isLower),
  ("print", fun byte => isGraphic byte || byte == 0x20),
  ("punct", fun byte => isGraphic byte && !isAlphanumeric byte),
  ("space", fun byte => byte == 0x20 || (0x09 ≤ byte && byte ≤ 0x0d)),
  ("upper", isUpper),
  ("xdigit", fun byte => isDigit byte || (0x41 ≤ byte && byte ≤ 0x46) || (0x61 ≤ byte && byte ≤ 0x66))].map
  fun (name, contains) => (utf8 s!":{name}:]", contains)

/-- The class named between colons behind an opening bracket, with what is
behind its own closing bracket. -/
def class? (text : Bytes) : Option ((UInt8 → Bool) × Nat) :=
  classes.findSome? fun (written, contains) =>
    if written.isPrefixOf text then some (contains, written.length) else none

end Member

namespace Pattern

/-- The members of a bracket, read up to its closing sign. A closing sign
counts as a member when it stands first. -/
def members : Nat → Bool → Marked → Option (List Member × Marked)
  | 0, _, _ => none
  | _, _, [] => none
  | fuel + 1, first, (byte, quoted) :: rest =>
    if byte == 0x5d && !quoted && !first then some ([], rest)
    else match if byte == 0x5b && !quoted then Member.class? (rest.map (·.1)) else none with
    | some (contains, length) =>
      (members fuel false (rest.drop length)).map fun (more, left) => (.class_ contains :: more, left)
    | none =>
      match rest with
      | (0x2d, false) :: (high, highQuoted) :: after =>
        if high == 0x5d && !highQuoted then
          (members fuel false rest).map fun (more, left) => (.range byte byte :: more, left)
        else (members fuel false after).map fun (more, left) => (.range byte high :: more, left)
      | _ => (members fuel false rest).map fun (more, left) => (.range byte byte :: more, left)

/-- Read a pattern; only unquoted signs are special. -/
def items : Nat → Marked → List PatternItem
  | 0, _ => []
  | _, [] => []
  | fuel + 1, (byte, quoted) :: rest =>
    if quoted then .exactly byte :: items fuel rest
    else if byte == 0x2a then .anything :: items fuel rest
    else if byte == 0x3f then .anyByte :: items fuel rest
    else if byte == 0x5b then
      let inverted := rest.head? == some (0x21, false)
      match members (rest.length + 1) true (if inverted then rest.drop 1 else rest) with
      | some (found, left) => .oneOf inverted found :: items fuel left
      | none => .exactly byte :: items fuel rest
    else .exactly byte :: items fuel rest

def ofMarked (word : Marked) : List PatternItem := items word.length word

/-- The bytes of a text that is a pattern throughout: a backslash quotes the
byte behind it, and a roof inverts a bracket too. -/
def marked : Nat → Bytes → Marked
  | fuel + 1, 0x5c :: byte :: rest => (byte, true) :: marked fuel rest
  | fuel + 1, 0x5b :: 0x5e :: rest => (0x5b, false) :: (0x21, false) :: marked fuel rest
  | fuel + 1, byte :: rest => (byte, false) :: marked fuel rest
  | _, _ => []

def ofText (text : Bytes) : List PatternItem := ofMarked (marked text.length text)

/-- What can be left of a pattern before the next byte, a sign for anything
passed over or not. -/
def openings : List PatternItem → List (List PatternItem)
  | .anything :: items => (.anything :: items) :: openings items
  | items => [items]

/-- Keep one of the rests of a pattern of each length. -/
def distinct : List (List PatternItem) → List (List PatternItem)
  | [] => []
  | [only] => [only]
  | state :: states => state :: (distinct states).filter (·.length != state.length)

/-- What can be left of a pattern behind a byte. -/
def advance (byte : UInt8) : List PatternItem → List (List PatternItem)
  | [] => []
  | .anything :: items => openings (.anything :: items)
  | .anyByte :: items => openings items
  | .exactly expected :: items => if byte == expected then openings items else []
  | .oneOf inverted members :: items => if members.any (·.accepts byte) != inverted then openings items else []

/-- A pattern on its way along a byte string: what can be left of it, how many
bytes it has passed, and the lengths at which it matched, the longest first. -/
structure Progress where
  states : List (List PatternItem)
  passed : Nat
  matched : List Nat

namespace Progress

def note (progress : Progress) : Progress :=
  if progress.states.any (·.isEmpty) then { progress with matched := progress.passed :: progress.matched } else progress

def start (pattern : List PatternItem) : Progress := note ⟨openings pattern, 0, []⟩

def pass (progress : Progress) (byte : UInt8) : Progress :=
  if progress.states.isEmpty then progress
  else note { progress with
    states := distinct (progress.states.flatMap (advance byte))
    passed := progress.passed + 1 }

end Progress

/-- The lengths of the beginnings of a byte string that a pattern matches, the
longest first. -/
def lengths (pattern : List PatternItem) (bytes : Bytes) : List Nat :=
  (bytes.foldl Progress.pass (.start pattern)).matched

/-- Whether a pattern matches a whole byte string. -/
def accepts (pattern : List PatternItem) (bytes : Bytes) : Bool :=
  (bytes.foldl (fun states byte =>
    if states.isEmpty then [] else distinct (states.flatMap (advance byte))) (openings pattern)).any (·.isEmpty)

/-- Remove the shortest or the longest beginning that a pattern matches. -/
def trimStart (longest : Bool) (pattern : List PatternItem) (bytes : Bytes) : Bytes :=
  let found := lengths pattern bytes
  bytes.drop ((if longest then found.head? else found.getLast?).getD 0)

/-- Remove the shortest or the longest end that a pattern matches: it is a
beginning of the reversed string. -/
def trimEnd (longest : Bool) (pattern : List PatternItem) (bytes : Bytes) : Bytes :=
  (trimStart longest pattern.reverse bytes.reverse).reverse

/-- Whether a word is more than its own text. -/
def isSpecial : Marked → Bool
  | [] => false
  | (byte, quoted) :: rest =>
    (!quoted && (byte == 0x2a || byte == 0x3f || (byte == 0x5b && rest.contains (0x5d, false)))) || isSpecial rest

end Pattern
end ExitParity
