import ExitParity.Bytes

namespace ExitParity.Utf8

/-- A byte that continues a character. -/
def continues (byte : UInt8) : Bool := 0x80 ≤ byte && byte ≤ 0xbf

/-- The first byte of a two-byte character. -/
def leadsTwo (lead : UInt8) : Bool := 0xc2 ≤ lead && lead ≤ 0xdf

/-- The first two bytes of a three-byte character. Overlong forms and
surrogates are not characters. -/
def leadsThree (lead second : UInt8) : Bool :=
  (lead == 0xe0 && 0xa0 ≤ second && second ≤ 0xbf) ||
  (0xe1 ≤ lead && lead ≤ 0xec && continues second) ||
  (lead == 0xed && 0x80 ≤ second && second ≤ 0x9f) ||
  (0xee ≤ lead && lead ≤ 0xef && continues second)

/-- The first two bytes of a four-byte character, at most U+10FFFF. -/
def leadsFour (lead second : UInt8) : Bool :=
  (lead == 0xf0 && 0x90 ≤ second && second ≤ 0xbf) ||
  (0xf1 ≤ lead && lead ≤ 0xf3 && continues second) ||
  (lead == 0xf4 && 0x80 ≤ second && second ≤ 0x8f)

/-- The six payload bits of a continuation byte. -/
def payload (byte : UInt8) : Nat := byte.toNat % 64

/-- The characters of a byte string in order, with `none` for every
longest part that no character starts with. -/
def units : Bytes → List (Option Char)
  | [] => []
  | lead :: rest =>
    if lead < 0x80 then some (Char.ofNat lead.toNat) :: units rest
    else match rest with
      | [] => [none]
      | second :: rest₂ =>
        if leadsTwo lead && continues second then
          some (Char.ofNat (lead.toNat % 32 * 64 + payload second)) :: units rest₂
        else if leadsThree lead second then
          match rest₂ with
          | [] => [none]
          | third :: rest₃ =>
            if continues third then
              some (Char.ofNat (lead.toNat % 16 * 4096 + payload second * 64 + payload third)) :: units rest₃
            else none :: units (third :: rest₃)
        else if leadsFour lead second then
          match rest₂ with
          | [] => [none]
          | third :: rest₃ =>
            if continues third then
              match rest₃ with
              | [] => [none]
              | fourth :: rest₄ =>
                if continues fourth then
                  some (Char.ofNat (lead.toNat % 8 * 262144 + payload second * 4096 +
                    payload third * 64 + payload fourth)) :: units rest₄
                else none :: units (fourth :: rest₄)
            else none :: units (third :: rest₃)
        else none :: units (second :: rest₂)

/-- Whether every part of the string is a character. -/
def valid (bytes : Bytes) : Bool := (units bytes).all Option.isSome

/-- The character shown in place of an ill-formed part. -/
def replacement : Char := '\uFFFD'

/-- The text shown for a byte string: ill-formed parts are replaced. -/
def display (bytes : Bytes) : String :=
  String.ofList ((units bytes).map (·.getD replacement))

/-- The bytes of the shown text. -/
def lossy (bytes : Bytes) : Bytes := utf8 (display bytes)

/-- The text of a byte string that is well formed throughout. -/
def text? (bytes : Bytes) : Option String :=
  if valid bytes then some (display bytes) else none

example : units [0xe0, 0x80, 0x41] = [none, none, some 'A'] := by decide
example : units [0xf0, 0x90, 0x41] = [none, some 'A'] := by decide
example : lossy [0x61, 0xff, 0x2e] = utf8 "a\uFFFD." := by decide

end ExitParity.Utf8
