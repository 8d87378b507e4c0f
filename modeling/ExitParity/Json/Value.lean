import ExitParity.Bytes

namespace ExitParity

/-- A number as it was written. Only a natural number below 2^64 is a count;
a fraction, an exponent, a larger number and minus zero are all `real`. -/
inductive JsonNumber where
  | natural (value : Nat)
  | negative (magnitude : Nat)
  | real (significand : Nat) (exponent : Int)
  deriving DecidableEq

/-- A JSON text as a tree. Members keep their order and their repetitions, and
a string is `none` when it holds half of a surrogate pair. -/
inductive Json where
  | null
  | bool (value : Bool)
  | number (value : JsonNumber)
  | string (text : Option String)
  | array (items : List Json)
  | object (members : List (Option String × Json))

namespace JsonNumber

/-- The nearest number with 53 significant bits, a tie to the even one. -/
def roundTo53 (value : Nat) : Nat :=
  let shift := value.log2 + 1 - 53
  let unit := 2 ^ shift
  let quotient := value / unit
  let rest := value % unit
  if 2 * rest > unit || (2 * rest == unit && shift > 0 && quotient % 2 == 1) then (quotient + 1) * unit
  else quotient * unit

/-- The smallest number that rounds to no finite double. -/
def doubleLimit : Nat := 2 ^ 1024 - 2 ^ 970

/-- Whether the number has a finite double. A power of ten is rounded before
it is multiplied, and 308 is the largest one with a double of its own. -/
def isFinite : JsonNumber → Bool
  | .real significand (.ofNat exponent) =>
    if exponent ≤ 308 then roundTo53 significand * roundTo53 (10 ^ exponent) < doubleLimit
    else significand == 0
  | _ => true

end JsonNumber

namespace Json

mutual

/-- Whether a tree can be held as a value: no broken string, no number out of
range, and at most `depth` arrays and objects inside each other. -/
def holdable (depth : Nat) : Json → Bool
  | .null => true
  | .bool _ => true
  | .number value => value.isFinite
  | .string text => text.isSome
  | .array items => match depth with
    | 0 => false
    | depth + 1 => holdableItems depth items
  | .object members => match depth with
    | 0 => false
    | depth + 1 => holdableMembers depth members

def holdableItems (depth : Nat) : List Json → Bool
  | [] => true
  | item :: rest => holdable depth item && holdableItems depth rest

def holdableMembers (depth : Nat) : List (Option String × Json) → Bool
  | [] => true
  | (key, value) :: rest => key.isSome && holdable depth value && holdableMembers depth rest

end

/-- How many arrays and objects may lie inside each other in a held value. -/
def depthLimit : Nat := 127

end Json
end ExitParity
