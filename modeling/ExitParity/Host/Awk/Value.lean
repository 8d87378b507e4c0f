import ExitParity.Host.Awk.Syntax
import ExitParity.Host.Floating
import ExitParity.Host.Formatted

/-! What the terms of a program are worth: numbers and texts, and how one
becomes the other. -/

namespace ExitParity.Awk

inductive Value where
  | unset
  | number (value : Float)
  | text (bytes : Bytes)
  /-- A text from outside, which may stand for a number. -/
  | input (bytes : Bytes)

namespace Value

/-- The number that a text begins with, and whether it is nothing else. -/
def numberIn (text : Bytes) : Float × Bool :=
  match Floating.leading .double text with
  | none => (0, false)
  | some (value, rest) => (value.toFloat, rest.all Printing.isSpace)

def toNumber : Value → Float
  | .unset => 0
  | .number value => value
  | .text bytes | .input bytes => (numberIn bytes).1

/-- A number without its fraction. Those beyond all bounds are cut. -/
def whole (value : Float) : Int :=
  match Floating.ofFloat value with
  | .undefined _ => 0
  | .infinite negative => if negative then -(2 ^ 63 - 1) else 2 ^ 63 - 1
  | .finite negative mantissa exponent =>
    let size := if exponent ≥ 0 then mantissa * 2 ^ exponent.toNat else mantissa / 2 ^ exponent.natAbs
    if size ≥ 2 ^ 63 then if negative then -(2 ^ 63 - 1) else 2 ^ 63 - 1
    else if negative then -(size : Int) else size

def toWhole (value : Value) : Int := whole value.toNumber

/-- The whole number that a number is, if it is one. -/
def asWhole? (value : Float) : Option Int :=
  match Floating.ofFloat value with
  | .finite negative mantissa exponent =>
    let size := if exponent ≥ 0 then mantissa * 2 ^ (min exponent.toNat 1100) else mantissa / 2 ^ exponent.natAbs
    if exponent < 0 && mantissa % 2 ^ exponent.natAbs != 0 then none
    else some (if negative then -(size : Int) else size)
  | _ => none

def ofWhole (value : Int) : Value := .number (Float.ofInt value)

def ofBool (value : Bool) : Value := .number (if value then 1 else 0)

/-- The number as the machine prints it by a directive. -/
def floatingText (directive : Printing.Directive) (value : Float) : Bytes :=
  match Floating.ofFloat value with
  | .undefined _ => (Floating.undefined true).format directive
  | sound => sound.format directive

/-- A number as a directive for whole numbers takes it. -/
def clipped (value : Float) : Int :=
  match asWhole? value with
  | some exact =>
    if 0 ≤ exact && exact < 2 ^ 64 then exact
    else if exact == 2 ^ 64 then 2 ^ 64 - 1
    else whole value
  | none => whole value

end Value

/-- What a format made of values: the text, and why there is no more of it. -/
structure Formatted where
  text : Bytes
  fault : Option (Option Nat)

namespace Formatted

/-- Read a directive from behind its percent sign. A star takes a number. -/
def directive (format : Bytes) (values : List Value) : Printing.Directive × Bytes × List Value :=
  let flags := format.takeWhile fun byte => [0x23, 0x2d, 0x2b, 0x20, 0x30].elem byte
  let format := format.drop flags.length
  let count (format : Bytes) (values : List Value) : Int × Bytes × List Value :=
    match format with
    | 0x2a :: rest => ((values.head?.getD .unset).toWhole, rest, values.drop 1)
    | _ =>
      let found := format.takeWhile Printing.isDecimal
      (Printing.digits 10 found, format.drop found.length, values)
  let (width, format, values) := count format values
  let flags := if width < 0 then 0x2d :: flags else flags
  let (precision, format, values) : Option Nat × Bytes × List Value := match format with
    | 0x2e :: rest =>
      let (precision, format, values) := count rest values
      (if precision < 0 then none else some precision.toNat, format, values)
    | _ => (none, format, values)
  let format := format.dropWhile fun byte => byte == 0x68 || byte == 0x6c
  (⟨flags, min width.natAbs 1000000, precision, format.head?.getD 0⟩, format.drop 1, values)

end Formatted

mutual

/-- The text of a number: all digits of a whole one, a format for others. -/
def numberText : Nat → Bytes → Float → Bytes
  | 0, _, _ => []
  | fuel + 1, format, value =>
    match Value.asWhole? value with
    | some exact =>
      if -(2 ^ 63) ≤ exact && exact < 2 ^ 64 then utf8 (toString exact)
      else if exact == 2 ^ 64 then utf8 (toString (2 ^ 64 - 1))
      else (formatted fuel format format [.number value] 1).text
    | none => (formatted fuel format format [.number value] 1).text

def valueText : Nat → Bytes → Value → Bytes
  | 0, _, _ => []
  | fuel + 1, format, value =>
    match value with
    | .unset => []
    | .number value => numberText fuel format value
    | .text bytes | .input bytes => bytes

/-- Put values into a format. Numbers become texts by another one. -/
def formatted : Nat → Bytes → Bytes → List Value → Nat → Formatted
  | 0, _, _, _, _ => ⟨[], none⟩
  | fuel + 1, numbers, format, values, place =>
    match format with
    | [] => ⟨[], none⟩
    | 0x25 :: 0x25 :: rest =>
      let more := formatted fuel numbers rest values place
      { more with text := 0x25 :: more.text }
    | 0x25 :: rest =>
      let (directive, rest, values) := Formatted.directive rest values
      match values with
      | [] => ⟨[], some none⟩
      | value :: values =>
        let letter := directive.letter
        let plain := { directive with flags := directive.flags.filter (· == 0x2d) }
        let printed : Option Bytes :=
          if letter == 0x73 then some (plain.text (valueText fuel numbers value))
          else if letter == 0x63 then
            some (plain.pad (match value with
              | .number number => [(Value.whole number % 256).toNat.toUInt8]
              | value => ((valueText fuel numbers value).head?.getD 0) :: []))
          else if letter == 0x64 || letter == 0x69 || letter == 0x75 || letter == 0x6f || letter == 0x78 || letter == 0x58 then
            Printing.wholeNumber directive (Value.clipped value.toNumber)
          else if letter == 0x65 || letter == 0x66 || letter == 0x67 || letter == 0x45 || letter == 0x46 || letter == 0x47 then
            some (Value.floatingText directive value.toNumber)
          else none
        match printed with
        | none => ⟨[], some (some place)⟩
        | some text =>
          let more := formatted fuel numbers rest values (place + 1)
          { more with text := text ++ more.text }
    | byte :: rest =>
      let more := formatted fuel numbers rest values place
      { more with text := byte :: more.text }

end

namespace Value

/-- The text of a value, with a format for numbers. -/
def toText (format : Bytes) (value : Value) : Bytes :=
  match value with
  | .unset => []
  | .text bytes | .input bytes => bytes
  | .number value => numberText (2 * format.length + 8) format value

/-- The number that a value is, if it is to be taken for one. -/
def asNumber? : Value → Option Float
  | .unset => some 0
  | .number value => some value
  | .text _ => none
  | .input bytes =>
    let (value, isNumber) := numberIn bytes
    if isNumber then some value else none

def isTrue : Value → Bool
  | .unset => false
  | .number value => value != 0
  | .text bytes => !bytes.isEmpty
  | .input bytes =>
    let (value, isNumber) := numberIn bytes
    if isNumber then value != 0 else !bytes.isEmpty

/-- The order of two values: as numbers if both are, or else as texts. -/
def order (format : Bytes) (first second : Value) : Ordering :=
  match first.asNumber?, second.asNumber? with
  | some first, some second => if first < second then .lt else if first > second then .gt else .eq
  | _, _ =>
    let first := first.toText format
    let second := second.toText format
    if first == second then .eq else if Bytes.precedes first second then .lt else .gt

end Value

def Relation.holds : Relation → Ordering → Bool
  | .equal, order => order == .eq
  | .unequal, order => order != .eq
  | .less, order => order == .lt
  | .atMost, order => order != .gt
  | .greater, order => order == .gt
  | .atLeast, order => order != .lt

/-- What is left of a division of numbers. -/
def Operation.rest (first second : Float) : Float :=
  match Floating.ofFloat first, Floating.ofFloat second with
  | .finite negative dividend exponent, .finite _ divisor exponent' =>
    if divisor == 0 then 0 / 0
    else
      let least := min exponent exponent'
      let dividend := dividend * 2 ^ (exponent - least).toNat
      let divisor := divisor * 2 ^ (exponent' - least).toNat
      (Floating.finite negative (dividend % divisor) least).toFloat
  | .finite .., .infinite _ => first
  | _, _ => 0 / 0

def Operation.apply : Operation → Float → Float → Float
  | .add, first, second => first + second
  | .subtract, first, second => first - second
  | .multiply, first, second => first * second
  | .divide, first, second => first / second
  | .remainder, first, second => rest first second
  | .power, first, second => first ^ second

end ExitParity.Awk
