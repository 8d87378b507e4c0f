import ExitParity.Host.Applets.Inputs

/-! The program that takes numbers apart into prime factors. -/

namespace ExitParity.Program

/-- The prime factors of a number that has none below a divisor. -/
def factorsFrom : Nat → Nat → Nat → List Nat
  | 0, _, number => if number > 1 then [number] else []
  | fuel + 1, divisor, number =>
    if number ≤ 1 then []
    else if divisor * divisor > number then [number]
    else if number % divisor == 0 then divisor :: factorsFrom fuel divisor (number / divisor)
    else factorsFrom fuel (if divisor == 2 then 3 else divisor + 2) number

/-- How many divisors are tried. -/
def divisorLimit : Nat := 4000000

def primeFactors (number : Nat) : List Nat := factorsFrom divisorLimit 2 number

/-- Factors, or one of each with its power. -/
def showFactors (isShort : Bool) (factors : List Nat) : List Bytes :=
  if !isShort then factors.map numeral
  else factors.eraseDups.map fun factor =>
    let power := factors.count factor
    numeral factor ++ (if power > 1 then 0x5e :: numeral power else [])

/-- Print the factors of numbers, given or read. -/
def factor (program : Program) : Deed Nat :=
  program.withOptions ⟨"h", [("exponents", .flag, "h")], true⟩ 1 fun options => do
  let tell (word : Bytes) : Deed Bool := do
    let text := if word.head? == some 0x2b then word.drop 1 else word
    if !text.isEmpty && text.all Printing.isDecimal then
      let number := Printing.digits 10 text
      program.print (Bytes.joinWith [0x20] ((numeral number ++ [0x3a]) :: showFactors (options.has "h") (primeFactors number)) ++
        [0x0a])
      return true
    else
      program.complain (Quoting.curly word ++ utf8 " is not a valid positive integer")
      return false
  if options.operands.isEmpty then
    match ← program.plainInput ownInput with
    | none => return 1
    | some text => forEach tell ((text.splitBy fun first second =>
        isBlank first == isBlank second).filter fun word => !word.all isBlank)
  else forEach tell options.operands
where
  isBlank (byte : UInt8) : Bool := byte == 0x20 || byte == 0x09 || byte == 0x0a

end ExitParity.Program
