import ExitParity.Bytes

/-! Checksums and digests of texts. -/

namespace ExitParity.Digest

/-- The text of a digest in hexadecimal digits. -/
def hexadecimal (bytes : Bytes) : Bytes :=
  let digit (value : UInt8) : UInt8 := if value < 10 then 0x30 + value else 0x57 + value
  bytes.flatMap fun byte => [digit (byte / 16), digit (byte % 16)]

/-- A number as so many bytes, the lowest first. -/
def littleEndian : Nat → Nat → Bytes
  | 0, _ => []
  | count + 1, number => (number % 256).toUInt8 :: littleEndian count (number / 256)

/-- A number as so many bytes, the highest first. -/
def bigEndian (count number : Nat) : Bytes := (littleEndian count number).reverse

def ofBigEndian (bytes : Bytes) : Nat := bytes.foldl (fun number byte => number * 256 + byte.toNat) 0

/-- Cut a text into blocks of a length, for at most so many. -/
def blocks (length : Nat) : Nat → Bytes → List Bytes
  | 0, _ => []
  | fuel + 1, text => if text.isEmpty then [] else text.take length :: blocks length fuel (text.drop length)

/-- A text filled up to whole blocks: a mark, zero bytes, and its length in bits. -/
def padded (block lengthSize : Nat) (encode : Nat → Nat → Bytes) (text : Bytes) : List Bytes :=
  let zeros := (2 * block - (text.length + 1 + lengthSize) % block) % block
  let whole := text ++ 0x80 :: List.replicate zeros 0 ++ encode lengthSize (8 * text.length)
  blocks block whole.length whole

/-! ### Sums -/

/-- One step of a checksum whose remainder is taken bit by bit. -/
def crcStep (sum : UInt32) (byte : UInt8) : UInt32 :=
  (List.range 8).foldl (fun sum _ =>
    if sum &&& 0x80000000 != 0 then (sum <<< 1) ^^^ 0x04c11db7 else sum <<< 1) (sum ^^^ (byte.toUInt32 <<< 24))

/-- The bytes of a length, the lowest first, without zeros at the end. -/
def lengthBytes : Nat → Nat → Bytes
  | 0, _ => []
  | fuel + 1, length => if length == 0 then [] else (length % 256).toUInt8 :: lengthBytes fuel (length / 256)

def crc (text : Bytes) : Nat :=
  let sum := text.foldl crcStep 0
  ((lengthBytes 16 text.length).foldl crcStep sum ^^^ 0xffffffff).toNat

/-- A sum of 16 bits that is rotated before each byte is added. -/
def rotated (text : Bytes) : Nat :=
  text.foldl (fun sum byte => (sum / 2 + sum % 2 * 0x8000 + byte.toNat) % 0x10000) 0

/-- The sum of all bytes, folded into 16 bits. -/
def folded (text : Bytes) : Nat :=
  let sum := text.foldl (fun sum byte => sum + byte.toNat) 0 % 2 ^ 32
  let half := sum % 0x10000 + sum / 0x10000
  half % 0x10000 + half / 0x10000

/-! ### Digests of 32-bit words -/

def rotateLeft (word : UInt32) (count : UInt32) : UInt32 := (word <<< count) ||| (word >>> (32 - count))

def rotateRight (word : UInt32) (count : UInt32) : UInt32 := (word >>> count) ||| (word <<< (32 - count))

def words (size : Nat) (ofBytes : Bytes → Nat) (block : Bytes) : Array Nat :=
  ((blocks size block.length block).map ofBytes).toArray

/-- The whole part of `2 ^ 32` times the absolute sine of each of the numbers
from 1 to 64. -/
def sines : Array UInt32 := #[
  0xd76aa478, 0xe8c7b756, 0x242070db, 0xc1bdceee, 0xf57c0faf, 0x4787c62a, 0xa8304613, 0xfd469501,
  0x698098d8, 0x8b44f7af, 0xffff5bb1, 0x895cd7be, 0x6b901122, 0xfd987193, 0xa679438e, 0x49b40821,
  0xf61e2562, 0xc040b340, 0x265e5a51, 0xe9b6c7aa, 0xd62f105d, 0x02441453, 0xd8a1e681, 0xe7d3fbc8,
  0x21e1cde6, 0xc33707d6, 0xf4d50d87, 0x455a14ed, 0xa9e3e905, 0xfcefa3f8, 0x676f02d9, 0x8d2a4c8a,
  0xfffa3942, 0x8771f681, 0x6d9d6122, 0xfde5380c, 0xa4beea44, 0x4bdecfa9, 0xf6bb4b60, 0xbebfbc70,
  0x289b7ec6, 0xeaa127fa, 0xd4ef3085, 0x04881d05, 0xd9d4d039, 0xe6db99e5, 0x1fa27cf8, 0xc4ac5665,
  0xf4292244, 0x432aff97, 0xab9423a7, 0xfc93a039, 0x655b59c3, 0x8f0ccc92, 0xffeff47d, 0x85845dd1,
  0x6fa87e4f, 0xfe2ce6e0, 0xa3014314, 0x4e0811a1, 0xf7537e82, 0xbd3af235, 0x2ad7d2bb, 0xeb86d391]

def turns : Array UInt32 := #[7, 12, 17, 22, 5, 9, 14, 20, 4, 11, 16, 23, 6, 10, 15, 21]

structure Four where
  a : UInt32
  b : UInt32
  c : UInt32
  d : UInt32

def md5Block (state : Four) (block : Bytes) : Four :=
  let input := words 4 (fun bytes => ofBigEndian bytes.reverse) block
  let final := (List.range 64).foldl (fun (s : Four) round =>
    let (mixed, index) :=
      if round < 16 then ((s.b &&& s.c) ||| (~~~s.b &&& s.d), round)
      else if round < 32 then ((s.d &&& s.b) ||| (~~~s.d &&& s.c), (5 * round + 1) % 16)
      else if round < 48 then (s.b ^^^ s.c ^^^ s.d, (3 * round + 5) % 16)
      else (s.c ^^^ (s.b ||| ~~~s.d), 7 * round % 16)
    let sum := s.a + mixed + (sines[round]?.getD 0) + (input[index]?.getD 0).toUInt32
    ⟨s.d, s.b + rotateLeft sum (turns[round / 16 * 4 + round % 4]?.getD 0), s.b, s.c⟩) state
  ⟨state.a + final.a, state.b + final.b, state.c + final.c, state.d + final.d⟩

def md5 (text : Bytes) : Bytes :=
  let state := (padded 64 8 littleEndian text).foldl md5Block ⟨0x67452301, 0xefcdab89, 0x98badcfe, 0x10325476⟩
  [state.a, state.b, state.c, state.d].flatMap fun word => littleEndian 4 word.toNat

/-- The words that a block is spread to, each made from earlier ones. -/
def spread (count : Nat) (next : Array UInt32 → UInt32) (block : Bytes) : Array UInt32 :=
  let input := (words 4 ofBigEndian block).map Nat.toUInt32
  (List.range (count - 16)).foldl (fun found _ => found.push (next found)) input

/-- The word so many places from the end. -/
def back {α : Type} (zero : α) (found : Array α) (places : Nat) : α := found[found.size - places]?.getD zero

structure Five where
  a : UInt32
  b : UInt32
  c : UInt32
  d : UInt32
  e : UInt32

def sha1Block (state : Five) (block : Bytes) : Five :=
  let input := spread 80 (fun found =>
    rotateLeft (back 0 found 3 ^^^ back 0 found 8 ^^^ back 0 found 14 ^^^ back 0 found 16) 1) block
  let final := (List.range 80).foldl (fun (s : Five) round =>
    let (mixed, constant) : UInt32 × UInt32 :=
      if round < 20 then ((s.b &&& s.c) ||| (~~~s.b &&& s.d), 0x5a827999)
      else if round < 40 then (s.b ^^^ s.c ^^^ s.d, 0x6ed9eba1)
      else if round < 60 then ((s.b &&& s.c) ||| (s.b &&& s.d) ||| (s.c &&& s.d), 0x8f1bbcdc)
      else (s.b ^^^ s.c ^^^ s.d, 0xca62c1d6)
    ⟨rotateLeft s.a 5 + mixed + s.e + constant + (input[round]?.getD 0), s.a, rotateLeft s.b 30, s.c, s.d⟩) state
  ⟨state.a + final.a, state.b + final.b, state.c + final.c, state.d + final.d, state.e + final.e⟩

def sha1 (text : Bytes) : Bytes :=
  let state := (padded 64 8 bigEndian text).foldl sha1Block
    ⟨0x67452301, 0xefcdab89, 0x98badcfe, 0x10325476, 0xc3d2e1f0⟩
  [state.a, state.b, state.c, state.d, state.e].flatMap fun word => bigEndian 4 word.toNat

/-! ### Digests that are made with roots of primes -/

def isPrime (number : Nat) : Bool :=
  number ≥ 2 && (List.range number).all fun divisor => divisor < 2 || number % divisor != 0

def primes (count : Nat) : List Nat := ((List.range 410).filter isPrime).take count

/-- The largest number whose power is at most a value, looked for below `2 ^ bits`. -/
def root (power value : Nat) : Nat → Nat → Nat
  | 0, found => found
  | bits + 1, found =>
    let more := found + 2 ^ bits
    root power value bits (if more ^ power ≤ value then more else found)

/-- The first bits behind the point of the square or the cube root of a number. -/
def rootBits (power bits number : Nat) : Nat := root power (number * 2 ^ (power * bits)) (bits + 8) 0 % 2 ^ bits

/-- How the digests with words of one size are made: the size of a word and its
turns. -/
structure Family where
  bits : Nat
  rounds : Nat
  first : Nat × Nat × Nat
  second : Nat × Nat × Nat
  early : Nat × Nat × Nat
  late : Nat × Nat × Nat

def narrow : Family := ⟨32, 64, (2, 13, 22), (6, 11, 25), (7, 18, 3), (17, 19, 10)⟩

def wide : Family := ⟨64, 80, (28, 34, 39), (14, 18, 41), (1, 8, 7), (19, 61, 6)⟩

namespace Family

def turned (family : Family) (word count : Nat) : Nat :=
  word >>> count ||| (word <<< (family.bits - count)) % 2 ^ family.bits

def mixed (family : Family) (turns : Nat × Nat × Nat) (word : Nat) : Nat :=
  family.turned word turns.1 ^^^ family.turned word turns.2.1 ^^^ family.turned word turns.2.2

def shifted (family : Family) (turns : Nat × Nat × Nat) (word : Nat) : Nat :=
  family.turned word turns.1 ^^^ family.turned word turns.2.1 ^^^ word >>> turns.2.2

def block (family : Family) (constants : Array Nat) (state : Array Nat) (block : Bytes) : Array Nat :=
  let limit := 2 ^ family.bits
  let input := (List.range (family.rounds - 16)).foldl (fun found _ => found.push
    ((family.shifted family.late (back 0 found 2) + back 0 found 7 +
      family.shifted family.early (back 0 found 15) + back 0 found 16) % limit)) (words (family.bits / 8) ofBigEndian block)
  let final := (List.range family.rounds).foldl (fun (s : Array Nat) round =>
    let at_ (place : Nat) : Nat := s[place]?.getD 0
    let choice := (at_ 4 &&& at_ 5) ^^^ ((limit - 1 - at_ 4) &&& at_ 6)
    let one := at_ 7 + family.mixed family.second (at_ 4) + choice + constants[round]?.getD 0 + input[round]?.getD 0
    let majority := (at_ 0 &&& at_ 1) ^^^ (at_ 0 &&& at_ 2) ^^^ (at_ 1 &&& at_ 2)
    let two := family.mixed family.first (at_ 0) + majority
    #[(one + two) % limit, at_ 0, at_ 1, at_ 2, (at_ 3 + one) % limit, at_ 4, at_ 5, at_ 6]) state
  (state.zip final).map fun (before, after) => (before + after) % limit

def digest (family : Family) (start : List Nat) (count : Nat) (text : Bytes) : Bytes :=
  let constants := ((primes family.rounds).map (rootBits 3 family.bits)).toArray
  let final := (padded (2 * family.bits) (family.bits / 4) bigEndian text).foldl (family.block constants) start.toArray
  (final.toList.flatMap (bigEndian (family.bits / 8))).take count

end Family

def sha256 : Bytes → Bytes := narrow.digest ((primes 8).map (rootBits 2 32)) 32

def sha224 : Bytes → Bytes :=
  narrow.digest ((primes 16).drop 8 |>.map fun prime => rootBits 2 64 prime % 2 ^ 32) 28

def sha512 : Bytes → Bytes := wide.digest ((primes 8).map (rootBits 2 64)) 64

def sha384 : Bytes → Bytes := wide.digest ((primes 16).drop 8 |>.map (rootBits 2 64)) 48

end ExitParity.Digest
