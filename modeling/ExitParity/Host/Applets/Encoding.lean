import ExitParity.Host.Applets.Inputs
import ExitParity.Host.Digest

/-! The programs that write bytes with few letters. -/

namespace ExitParity

/-- A way to write bytes with letters that stand for some bits each. -/
structure Lettering where
  alphabet : Bytes
  bits : Nat
  /-- The bytes that are written together, and the letters for them. -/
  bytes : Nat
  letters : Nat

namespace Lettering

def of64 : Lettering := ⟨utf8 "ABCDEFGHIJKLMNOPQRSTUVWXYZabcdefghijklmnopqrstuvwxyz0123456789+/", 6, 3, 4⟩

def of32 : Lettering := ⟨utf8 "ABCDEFGHIJKLMNOPQRSTUVWXYZ234567", 5, 5, 8⟩

def filler : UInt8 := 0x3d

def group (lettering : Lettering) (bytes : Bytes) : Bytes :=
  let value := Digest.ofBigEndian (bytes ++ List.replicate (lettering.bytes - bytes.length) 0)
  let count := (8 * bytes.length + lettering.bits - 1) / lettering.bits
  (List.range lettering.letters).map fun place =>
    if place < count then
      (lettering.alphabet[value / 2 ^ (lettering.bits * (lettering.letters - 1 - place)) % 2 ^ lettering.bits]?).getD filler
    else filler

def encode (lettering : Lettering) (text : Bytes) : Bytes :=
  (Digest.blocks lettering.bytes text.length text).flatMap lettering.group

/-- The bytes that a group of letters stands for. -/
def bytesOf? (lettering : Lettering) (letters : Bytes) : Option Bytes :=
  let plain := letters.takeWhile (· != filler)
  let values := plain.map fun letter => lettering.alphabet.idxOf letter
  let count := lettering.bits * plain.length / 8
  let used := (8 * count + lettering.bits - 1) / lettering.bits
  if letters.length != lettering.letters || !(letters.drop plain.length).all (· == filler) ||
      values.any (lettering.alphabet.length ≤ ·) || count == 0 || used != plain.length then none
  else
    let value := values.foldl (fun value part => value * 2 ^ lettering.bits + part) 0 *
      2 ^ (lettering.bits * (lettering.letters - plain.length))
    some ((Digest.bigEndian lettering.bytes value).take count)

/-- The bytes that letters stand for, up to the first fault, and whether there
was none. -/
def decode (lettering : Lettering) (text : Bytes) : Bytes × Bool :=
  (Digest.blocks lettering.letters text.length text).foldl (fun (found, sound) letters =>
    if !sound then (found, false)
    else match lettering.bytesOf? letters with
      | some bytes => (found ++ bytes, true)
      | none => (found ++ partialBytes letters, false)) ([], true)
where
  /-- What can still be made out of a group with a fault. -/
  partialBytes (letters : Bytes) : Bytes :=
    let plain := letters.takeWhile lettering.alphabet.elem
    let count := lettering.bits * plain.length / 8
    let whole := plain ++ List.replicate (lettering.letters - plain.length) (lettering.alphabet.head?.getD 0)
    ((lettering.bytesOf? whole).getD []).take count

/-- Cut a text into lines of a width. -/
def wrapped (width : Nat) (text : Bytes) : Bytes :=
  if width == 0 then text
  else ((Digest.blocks width text.length text).map (· ++ [0x0a])).flatten

end Lettering

namespace Program

def encodeWith (program : Program) (lettering : Lettering) : Deed Nat :=
  program.withOptions ⟨"diw:", [("decode", .flag, "d"), ("ignore-garbage", .flag, "i"), ("wrap", .valued, "w")], true⟩ 1
      fun options => do
    let width ← program.countOption options "w" "wrap size" 76
    match options.operands with
    | _ :: extra :: _ =>
      program.refuse (utf8 "extra operand " ++ Quoting.curly extra)
      return 1
    | operands =>
      let path := operands.head?.getD ownInput
      match ← program.inputOf path with
      | .error (.unopened errno) =>
        program.complainOf (Quoting.whenNeeded path) errno
        return 1
      | .error (.unread errno) =>
        program.complain (utf8 s!"read error: {errno.text}")
        return 1
      | .ok text =>
        if options.has "d" then
          let text := text.filter fun byte => byte != 0x0a &&
            (!options.has "i" || lettering.alphabet.elem byte || byte == Lettering.filler)
          let (bytes, sound) := lettering.decode text
          program.print bytes
          if sound then return 0
          program.flush
          program.complain (utf8 "invalid input")
          return 1
        else
          program.print (Lettering.wrapped width (lettering.encode text))
          return 0

end Program
end ExitParity
