import ExitParity.Json.Value

namespace ExitParity.Json

def isBlank (c : Char) : Bool := c == ' ' || c == '\n' || c == '\t' || c == '\r'

def skipBlanks (text : List Char) : List Char := text.dropWhile isBlank

def digit? (c : Char) : Option Nat :=
  if '0' ≤ c && c ≤ '9' then some (c.toNat - 0x30) else none

def hexValue? (c : Char) : Option Nat :=
  if '0' ≤ c && c ≤ '9' then some (c.toNat - 0x30)
  else if 'a' ≤ c && c ≤ 'f' then some (c.toNat - 0x57)
  else if 'A' ≤ c && c ≤ 'F' then some (c.toNat - 0x37)
  else none

/-- The digits at the front of a text, and what follows them. -/
def digits : List Char → List Nat × List Char
  | [] => ([], [])
  | c :: rest => match digit? c with
    | none => ([], c :: rest)
    | some value => let (values, rest) := digits rest; (value :: values, rest)

/-- One more decimal digit, unless the number would then need a 65th bit. -/
def extend? (significand value : Nat) : Option Nat :=
  if significand * 10 + value < 2 ^ 64 then some (significand * 10 + value) else none

/-- Read the digits before the point. From the first digit that does not fit
on, digits only raise the exponent. -/
def wholePart : List Nat → Nat → Nat × Nat
  | [], significand => (significand, 0)
  | value :: rest, significand => match extend? significand value with
    | some significand => wholePart rest significand
    | none => (significand, rest.length + 1)

/-- Read the digits behind the point, as far as they fit. -/
def fractionPart : List Nat → Nat → Int → Nat × Int
  | [], significand, exponent => (significand, exponent)
  | value :: rest, significand, exponent => match extend? significand value with
    | some significand => fractionPart rest significand (exponent - 1)
    | none => (significand, exponent)

def natOfDigits (values : List Nat) : Nat := values.foldl (fun total value => total * 10 + value) 0

/-- The exponent behind an `e`, with an optional sign. -/
def exponentPart? (text : List Char) : Option (Int × List Char) :=
  let (negative, text) := match text with
    | '+' :: rest => (false, rest)
    | '-' :: rest => (true, rest)
    | _ => (false, text)
  match digits text with
  | ([], _) => none
  | (values, rest) => some (if negative then -(natOfDigits values : Int) else natOfDigits values, rest)

/-- A number without its sign: no superfluous zero in front, and at least one
digit on either side of a point. -/
def unsigned? (negative : Bool) (text : List Char) : Option (JsonNumber × List Char) :=
  match digits text with
  | ([], _) => none
  | (0 :: _ :: _, _) => none
  | (values, rest) =>
    let (significand, dropped) := wholePart values 0
    let tail (significand : Nat) (exponent : Int) (rest : List Char) : Option (JsonNumber × List Char) :=
      match rest with
      | 'e' :: rest | 'E' :: rest => do
        let (shift, rest) ← exponentPart? rest
        some (.real significand (exponent + shift), rest)
      | _ => some (.real significand exponent, rest)
    match rest with
    | '.' :: rest => match digits rest with
      | ([], _) => none
      | (values, rest) =>
        let (significand, exponent) := fractionPart values significand dropped
        tail significand exponent rest
    | 'e' :: _ | 'E' :: _ => tail significand dropped rest
    | _ =>
      if dropped ≠ 0 then some (.real significand dropped, rest)
      else if !negative then some (.natural significand, rest)
      else if 0 < significand && significand ≤ 2 ^ 63 then some (.negative significand, rest)
      else some (.real significand 0, rest)

/-- Four hexadecimal digits. -/
def unit? (a b c d : Char) : Option Nat := do
  let a ← hexValue? a
  let b ← hexValue? b
  let c ← hexValue? c
  let d ← hexValue? d
  some (a * 4096 + b * 256 + c * 16 + d)

def isHighHalf (unit : Nat) : Bool := 0xd800 ≤ unit && unit ≤ 0xdbff

def isLowHalf (unit : Nat) : Bool := 0xdc00 ≤ unit && unit ≤ 0xdfff

/-- The character behind a short escape. -/
def shortEscape? : Char → Option Char
  | '"' => some '"'
  | '\\' => some '\\'
  | '/' => some '/'
  | 'b' => some '\x08'
  | 'f' => some '\x0c'
  | 'n' => some '\n'
  | 'r' => some '\r'
  | 't' => some '\t'
  | _ => none

/-- A part of a string as it is written: a character, written plainly or as a
short escape, or a 16-bit unit written as four digits. -/
inductive Piece where
  | char (c : Char)
  | unit (value : Nat)

/-- The parts of a string behind its opening quote, and the text behind its
closing quote. Control characters have to be escaped. -/
def pieces? : List Char → Option (List Piece × List Char)
  | [] => none
  | '"' :: rest => some ([], rest)
  | '\\' :: 'u' :: a :: b :: c :: d :: rest => do
    let unit ← unit? a b c d
    let (pieces, rest) ← pieces? rest
    some (.unit unit :: pieces, rest)
  | '\\' :: c :: rest => do
    let escaped ← shortEscape? c
    let (pieces, rest) ← pieces? rest
    some (.char escaped :: pieces, rest)
  | c :: rest =>
    if c.toNat < 0x20 || c = '\\' then none
    else do
      let (pieces, rest) ← pieces? rest
      some (.char c :: pieces, rest)

/-- The characters of a string, unless half of a surrogate pair is left over. -/
def assemble? : List Piece → Option (List Char)
  | [] => some []
  | .char c :: rest => (assemble? rest).map (c :: ·)
  | .unit high :: .unit low :: rest =>
    if isHighHalf high then
      if isLowHalf low then
        (assemble? rest).map (Char.ofNat (0x10000 + (high - 0xd800) * 0x400 + (low - 0xdc00)) :: ·)
      else none
    else if isLowHalf high then none
    else (assemble? (.unit low :: rest)).map (Char.ofNat high :: ·)
  | .unit unit :: rest =>
    if isHighHalf unit || isLowHalf unit then none
    else (assemble? rest).map (Char.ofNat unit :: ·)

/-- The rest of a string behind its opening quote. -/
def string? (text : List Char) : Option (Option String × List Char) := do
  let (pieces, rest) ← pieces? text
  some ((assemble? pieces).map String.ofList, rest)

/-- A text that begins with `word` without it. -/
def word? (word : String) (text : List Char) : Option (List Char) :=
  if word.toList.isPrefixOf text then some (text.drop word.length) else none

mutual

/-- One value at the front of a text. `fuel` bounds the nesting; the length of
the text is always enough. -/
def value? : Nat → List Char → Option (Json × List Char)
  | 0, _ => none
  | fuel + 1, text =>
    match skipBlanks text with
    | 'n' :: rest => (word? "ull" rest).map (.null, ·)
    | 't' :: rest => (word? "rue" rest).map (.bool true, ·)
    | 'f' :: rest => (word? "alse" rest).map (.bool false, ·)
    | '"' :: rest => do
      let (text, rest) ← string? rest
      some (.string text, rest)
    | '-' :: rest => do
      let (value, rest) ← unsigned? true rest
      some (.number value, rest)
    | '[' :: rest =>
      match skipBlanks rest with
      | ']' :: rest => some (.array [], rest)
      | _ => do
        let (item, rest) ← value? fuel rest
        let (items, rest) ← items? fuel rest
        some (.array (item :: items), rest)
    | '{' :: rest =>
      match skipBlanks rest with
      | '}' :: rest => some (.object [], rest)
      | _ => do
        let (member, rest) ← member? fuel rest
        let (members, rest) ← members? fuel rest
        some (.object (member :: members), rest)
    | rest => do
      let (value, rest) ← unsigned? false rest
      some (.number value, rest)

/-- The items behind the first one, up to the closing bracket. -/
def items? : Nat → List Char → Option (List Json × List Char)
  | 0, _ => none
  | fuel + 1, text =>
    match skipBlanks text with
    | ']' :: rest => some ([], rest)
    | ',' :: rest => do
      let (item, rest) ← value? fuel rest
      let (items, rest) ← items? fuel rest
      some (item :: items, rest)
    | _ => none

def member? : Nat → List Char → Option ((Option String × Json) × List Char)
  | 0, _ => none
  | fuel + 1, text =>
    match skipBlanks text with
    | '"' :: rest => do
      let (key, rest) ← string? rest
      match skipBlanks rest with
      | ':' :: rest => do
        let (value, rest) ← value? fuel rest
        some ((key, value), rest)
      | _ => none
    | _ => none

/-- The members behind the first one, up to the closing brace. -/
def members? : Nat → List Char → Option (List (Option String × Json) × List Char)
  | 0, _ => none
  | fuel + 1, text =>
    match skipBlanks text with
    | '}' :: rest => some ([], rest)
    | ',' :: rest => do
      let (member, rest) ← member? fuel rest
      let (members, rest) ← members? fuel rest
      some (member :: members, rest)
    | _ => none

end

/-- Read a text that holds one value and nothing else but blanks. -/
def parse? (text : String) : Option Json :=
  let chars := text.toList
  match value? (2 * chars.length + 1) chars with
  | some (value, rest) => if (skipBlanks rest).isEmpty then some value else none
  | none => none

end ExitParity.Json
