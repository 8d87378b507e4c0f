import ExitParity.Host.Printing

/-! Numbers as machines keep them, read from texts and written in digits
without any further loss. -/

namespace ExitParity

/-- A number: a whole number of powers of two, no number, or beyond all numbers. -/
inductive Floating where
  | finite (negative : Bool) (mantissa : Nat) (exponent : Int)
  | infinite (negative : Bool)
  | undefined (negative : Bool)
  deriving DecidableEq

/-- How exactly numbers are kept: the bits of a mantissa, and the least and the
greatest power of two. -/
structure Precision where
  bits : Nat
  least : Int
  greatest : Int

namespace Precision

def double : Precision := ⟨53, -1074, 1024⟩

def extended : Precision := ⟨64, -16445, 16384⟩

end Precision

namespace Floating

/-- A quotient rounded to the nearest whole number, to the even one between two. -/
def roundedQuotient (numerator denominator : Nat) : Nat :=
  let quotient := numerator / denominator
  let rest := 2 * (numerator % denominator)
  if rest > denominator || (rest == denominator && quotient % 2 == 1) then quotient + 1 else quotient

/-- A quotient over a power of a base, rounded. -/
def scaledQuotient (base numerator denominator : Nat) (power : Int) : Nat :=
  if power ≥ 0 then roundedQuotient numerator (denominator * base ^ power.toNat)
  else roundedQuotient (numerator * base ^ power.natAbs) denominator

/-- The number nearest to a quotient. -/
def ofQuotient (precision : Precision) (negative : Bool) (numerator denominator : Nat) : Floating :=
  if numerator == 0 then .finite negative 0 0
  else
    let guess : Int := (Nat.log2 numerator : Int) - Nat.log2 denominator - precision.bits + 1
    let tooLow := if guess ≥ 0 then numerator < denominator * 2 ^ guess.toNat * 2 ^ (precision.bits - 1)
      else numerator * 2 ^ guess.natAbs < denominator * 2 ^ (precision.bits - 1)
    let exponent := max (if tooLow then guess - 1 else guess) precision.least
    let mantissa := scaledQuotient 2 numerator denominator exponent
    if mantissa > 0 && (Nat.log2 mantissa : Int) + exponent ≥ precision.greatest then .infinite negative
    else .finite negative mantissa exponent

/-- The decimal digits of a number with a mark and a power of a base: the
digits together, how many stand behind the mark, the power, and what is left. -/
def mantissaOf (base : Nat) (text : Bytes) : Option (Nat × Nat × Bytes) :=
  let isDigit (byte : UInt8) : Bool := Printing.digitValue byte < base
  let whole := text.takeWhile isDigit
  let rest := text.drop whole.length
  let fraction := match rest with
    | 0x2e :: after => after.takeWhile isDigit
    | _ => []
  if whole.isEmpty && fraction.isEmpty then none
  else
    let rest := if rest.head? == some 0x2e then rest.drop (fraction.length + 1) else rest
    some (Printing.digits base (whole ++ fraction), fraction.length, rest)

/-- The power behind a letter, if there is one, and what is left. -/
def powerOf (letter : UInt8) (text : Bytes) : Int × Bytes :=
  match text with
  | sign :: after =>
    if Printing.lower sign != letter then (0, text)
    else
      let (negative, unsigned) := match after with
        | 0x2d :: unsigned => (true, unsigned)
        | 0x2b :: unsigned => (false, unsigned)
        | unsigned => (false, unsigned)
      let found := unsigned.takeWhile Printing.isDecimal
      if found.isEmpty then (0, text)
      else
        let value := min (Printing.digits 10 (found.take 8)) 100000
        (if negative then -(value : Int) else value, unsigned.drop found.length)
  | [] => (0, [])

/-- The number at the beginning of a text, with what stands behind it. -/
def leading (precision : Precision) (text : Bytes) : Option (Floating × Bytes) :=
  let text := text.dropWhile Printing.isSpace
  let (negative, text) := match text with
    | 0x2d :: rest => (true, rest)
    | 0x2b :: rest => (false, rest)
    | _ => (false, text)
  let word := (text.take 8).map Printing.lower
  if (utf8 "infinity").isPrefixOf word then some (.infinite negative, text.drop 8)
  else if (utf8 "inf").isPrefixOf word then some (.infinite negative, text.drop 3)
  else if (utf8 "nan").isPrefixOf word then some (.undefined negative, text.drop 3)
  else
    let hexadecimal := match text with
      | 0x30 :: mark :: rest => if Printing.lower mark == 0x78 then mantissaOf 16 rest else none
      | _ => none
    match hexadecimal with
    | some (digits, behind, rest) =>
      let (power, rest) := powerOf 0x70 rest
      let power := power - 4 * behind
      some (if power ≥ 0 then ofQuotient precision negative (digits * 2 ^ power.toNat) 1
        else ofQuotient precision negative digits (2 ^ power.natAbs), rest)
    | none =>
      (mantissaOf 10 text).map fun (digits, behind, rest) =>
        let (power, rest) := powerOf 0x65 rest
        let power := power - behind
        let length : Int := (Nat.toDigits 10 digits).length
        if digits == 0 then (.finite negative 0 0, rest)
        else if power + length > 6000 then (.infinite negative, rest)
        else if power + length < -6000 then (.finite negative 0 0, rest)
        else if power ≥ 0 then (ofQuotient precision negative (digits * 10 ^ power.toNat) 1, rest)
        else (ofQuotient precision negative digits (10 ^ power.natAbs), rest)

/-- A number as a quotient, without its sign. -/
def quotient (mantissa : Nat) (exponent : Int) : Nat × Nat :=
  if exponent ≥ 0 then (mantissa * 2 ^ exponent.toNat, 1) else (mantissa, 2 ^ exponent.natAbs)

/-- The power of ten that a number lies above, from a guess at most so many off. -/
def powerOfTen (numerator denominator : Nat) : Nat → Int → Int
  | 0, guess => guess
  | fuel + 1, guess =>
    let isBelow (power : Int) : Bool :=
      if power ≥ 0 then numerator < denominator * 10 ^ power.toNat else numerator * 10 ^ power.natAbs < denominator
    if isBelow guess then powerOfTen numerator denominator fuel (guess - 1)
    else if isBelow (guess + 1) then guess
    else powerOfTen numerator denominator fuel (guess + 1)

/-- The first digits of a number, so many behind the first one, and the power of
ten of the first one. -/
def firstDigits (mantissa : Nat) (exponent : Int) (count : Nat) : Nat × Int :=
  if mantissa == 0 then (0, 0)
  else
    let (numerator, denominator) := quotient mantissa exponent
    let guess := ((Nat.log2 mantissa : Int) + exponent) * 30103 / 100000
    let power := powerOfTen numerator denominator 16 guess
    let digits := scaledQuotient 10 numerator denominator (power - count)
    if digits ≥ 10 ^ (count + 1) then (10 ^ count, power + 1) else (digits, power)

/-- Digits with a mark in front of the last ones. -/
def marked (keepsMark : Bool) (digits count : Nat) : Bytes :=
  let text := Printing.toDigits 10 digits
  let text := List.replicate (count + 1 - text.length) 0x30 ++ text
  let whole := text.take (text.length - count)
  let fraction := text.drop (text.length - count)
  whole ++ (if count > 0 || keepsMark then [0x2e] else []) ++ fraction

def fixed (keepsMark : Bool) (mantissa : Nat) (exponent : Int) (count : Nat) : Bytes :=
  let (numerator, denominator) := quotient mantissa exponent
  marked keepsMark (roundedQuotient (numerator * 10 ^ count) denominator) count

/-- A power of ten behind its letter, with two digits at least. -/
def power (letter : UInt8) (power : Int) : Bytes :=
  let digits := Printing.toDigits 10 power.natAbs
  letter :: (if power < 0 then 0x2d else 0x2b) :: List.replicate (2 - digits.length) 0x30 ++ digits

def scientific (keepsMark : Bool) (letter : UInt8) (mantissa : Nat) (exponent : Int) (count : Nat) : Bytes :=
  let (digits, ten) := firstDigits mantissa exponent count
  marked keepsMark digits count ++ power letter ten

/-- Remove the zeros at the end of a fraction. -/
def trimmed (text : Bytes) : Bytes :=
  if text.elem 0x2e then
    ((text.reverse.dropWhile (· == 0x30)).dropWhile (· == 0x2e)).reverse
  else text

/-- The shorter of the two ways to write a number, with so many digits. -/
def general (keepsMark : Bool) (letter : UInt8) (mantissa : Nat) (exponent : Int) (count : Nat) : Bytes :=
  let count := max count 1
  let (digits, ten) := firstDigits mantissa exponent (count - 1)
  let trim (text : Bytes) : Bytes := if keepsMark then text else trimmed text
  if -4 ≤ ten && ten < count then trim (fixed keepsMark mantissa exponent ((count : Int) - 1 - ten).toNat)
  else trim (marked keepsMark digits (count - 1)) ++ power letter ten

/-- A number in hexadecimal digits. -/
def hexadecimal (keepsMark : Bool) (mantissa : Nat) (exponent : Int) (count : Option Nat) : Bytes :=
  if mantissa == 0 then
    utf8 "0x0" ++ (if keepsMark || count.any (0 < ·) then [0x2e] else []) ++
      List.replicate (count.getD 0) 0x30 ++ utf8 "p+0"
  else
    let length := Nat.log2 mantissa
    let wanted := count.getD ((length + 3) / 4)
    let scaled := if 4 * wanted ≥ length then mantissa * 2 ^ (4 * wanted - length)
      else roundedQuotient mantissa (2 ^ (length - 4 * wanted))
    let text := Printing.toDigits 16 scaled
    let text := text.take 1 ++ (if wanted > 0 || keepsMark then [0x2e] else []) ++ text.drop 1
    let text := if count.isNone then trimmed text else text
    let power := (length : Int) + exponent
    utf8 "0x" ++ text ++ 0x70 :: (if power < 0 then 0x2d else 0x2b) :: Printing.toDigits 10 power.natAbs

/-- A number as a directive with one of the letters `e`, `f`, `g` and `a` says. -/
def format (directive : Printing.Directive) (value : Floating) : Bytes :=
  let letter := Printing.lower directive.letter
  let keepsMark := directive.has 0x23
  let count := directive.precision.getD 6
  let (negative, bare, isNumber) : Bool × Bytes × Bool := match value with
    | .finite negative mantissa exponent =>
      (negative,
        if letter == 0x65 then scientific keepsMark 0x65 mantissa exponent count
        else if letter == 0x66 then fixed keepsMark mantissa exponent count
        else if letter == 0x67 then general keepsMark 0x65 mantissa exponent count
        else hexadecimal keepsMark mantissa exponent directive.precision, true)
    | .infinite negative => (negative, utf8 "inf", false)
    | .undefined negative => (negative, utf8 "nan", false)
  let sign : Bytes :=
    if negative then [0x2d] else if directive.has 0x2b then [0x2b] else if directive.has 0x20 then [0x20] else []
  let bare := if directive.letter == letter then bare else bare.map Printing.upper
  if isNumber then { directive with precision := none }.number sign bare
  else { directive with flags := directive.flags.filter (· != 0x30) }.pad (sign ++ bare)

/-- A number of the machine. -/
def ofFloat (value : Float) : Floating :=
  let bits := value.toBits.toNat
  let negative := bits / 2 ^ 63 == 1
  let exponent : Nat := bits / 2 ^ 52 % 2048
  let fraction : Nat := bits % 2 ^ 52
  if exponent == 2047 then if fraction == 0 then .infinite negative else .undefined negative
  else if exponent == 0 then .finite negative fraction (-1074)
  else .finite negative (2 ^ 52 + fraction) ((exponent : Int) - 1075)

/-- The number of the machine that is nearest. -/
def toFloat (value : Floating) : Float :=
  let signed (negative : Bool) (bits : Nat) : Float := .ofBits ((if negative then 2 ^ 63 else 0) + bits).toUInt64
  match value with
  | .infinite negative => signed negative (2047 * 2 ^ 52)
  | .undefined negative => signed negative (2047 * 2 ^ 52 + 2 ^ 51)
  | .finite negative mantissa exponent =>
    let (numerator, denominator) := quotient mantissa exponent
    match ofQuotient .double negative numerator denominator with
    | .finite _ mantissa exponent =>
      if mantissa < 2 ^ 52 then signed negative mantissa
      else signed negative ((exponent + 1075).toNat * 2 ^ 52 + (mantissa - 2 ^ 52))
    | _ => signed negative (2047 * 2 ^ 52)

end Floating
end ExitParity
