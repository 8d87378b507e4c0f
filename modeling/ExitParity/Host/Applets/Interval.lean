import ExitParity.Host.Printing

namespace ExitParity

/-- How long a waiting takes. -/
inductive Interval where
  | finite (nanoseconds : Nat)
  | endless

namespace Interval

/-- The unit behind the digits of an interval, in seconds. -/
def unit? : Bytes → Option Nat
  | [] | [0x73] => some 1
  | [0x6d] => some 60
  | [0x68] => some 3600
  | [0x64] => some 86400
  | _ => none

/-- An interval such as `5`, `0.25`, `1e-3` or `2m`. -/
def ofText? (text : Bytes) : Option Interval :=
  let text : Bytes := match text with
    | 0x2b :: rest => rest
    | text => text
  let word := text.map Printing.lower
  if word == utf8 "inf" || word == utf8 "infinity" then some .endless
  else
    let whole := text.takeWhile Printing.isDecimal
    let rest := text.drop whole.length
    let fraction := match rest with
      | 0x2e :: after => after.takeWhile Printing.isDecimal
      | _ => []
    let rest := if rest.head? == some 0x2e then rest.drop (fraction.length + 1) else rest
    if whole.isEmpty && fraction.isEmpty then none
    else
      let (exponent, rest) : Int × Bytes := match rest with
        | letter :: after =>
          let (negative, digits) := match after with
            | 0x2d :: digits => (true, digits)
            | 0x2b :: digits => (false, digits)
            | digits => (false, digits)
          let found := digits.takeWhile Printing.isDecimal
          if Printing.lower letter == 0x65 && !found.isEmpty then
            let value := Printing.digits 10 found
            (if negative then -(value : Int) else value, digits.drop found.length)
          else (0, rest)
        | [] => (0, [])
      (unit? rest).map fun unit =>
        let scale := exponent + 9 - fraction.length
        let value := Printing.digits 10 (whole ++ fraction) * unit
        if scale > 60 then .endless
        else if scale ≥ 0 then .finite (value * 10 ^ scale.toNat)
        else .finite (value / 10 ^ (min scale.natAbs 400))

end Interval
end ExitParity
