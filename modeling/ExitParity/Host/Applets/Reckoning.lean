import ExitParity.Host.Applets.Inputs
import ExitParity.Host.Expression

/-! The program that evaluates an expression of words. -/

namespace ExitParity

/-- The value of a part of an expression. -/
abbrev Reckoned := Bytes

/-- What is wrong with an expression. -/
inductive ReckoningFault where
  | missingAfter (word : Bytes)
  | unexpected (word : Bytes)
  | expectsClose (word : Bytes)
  | closeInstead (word : Bytes)
  | strayClose
  | noInteger
  | divisionByZero
  | pattern (fault : ExpressionFault)

def ReckoningFault.message : ReckoningFault → Bytes
  | .missingAfter word => utf8 "syntax error: missing argument after " ++ Quoting.curly word
  | .unexpected word => utf8 "syntax error: unexpected argument " ++ Quoting.curly word
  | .expectsClose word => utf8 "syntax error: expecting ')' after " ++ Quoting.curly word
  | .closeInstead word => utf8 "syntax error: expecting ')' instead of " ++ Quoting.curly word
  | .strayClose => utf8 "syntax error: unexpected ')'"
  | .noInteger => utf8 "non-integer argument"
  | .divisionByZero => utf8 "division by zero"
  | .pattern fault => utf8 fault.message

namespace Reckoning

/-- The words left and the last one that was taken. -/
structure Words where
  left : List Bytes
  last : Bytes

abbrev Reading := StateT Words (Except ReckoningFault)

def integer? (text : Bytes) : Option Int :=
  let digits := if text.head? == some 0x2d then text.drop 1 else text
  if digits.isEmpty || !digits.all Printing.isDecimal then none
  else
    let value : Int := Printing.digits 10 digits
    some (if text.head? == some 0x2d then -value else value)

def ofInteger (value : Int) : Bytes := utf8 (toString value)

def ofBool (value : Bool) : Bytes := if value then [0x31] else [0x30]

/-- Whether a value is nothing: the empty word or a zero. -/
def isNull (value : Bytes) : Bool :=
  value.isEmpty || (let digits := if value.head? == some 0x2d then value.drop 1 else value
    !digits.isEmpty && digits.all (· == 0x30))

/-- Take the next word if it is one of some. -/
def take? (wanted : List String) : Reading (Option String) := do
  match (← get).left with
  | word :: left =>
    match wanted.find? (utf8 · == word) with
    | some found =>
      set (⟨left, word⟩ : Words)
      return some found
    | none => return none
  | [] => return none

def take : Reading Bytes := do
  let words ← get
  match words.left with
  | word :: left =>
    set (⟨left, word⟩ : Words)
    return word
  | [] => throw (.missingAfter words.last)

/-- Match the beginning of a text: the text of the first group, or how many
letters match. -/
def matched (text pattern : Bytes) : Except ReckoningFault Bytes := do
  let manner : Manner := ⟨false, false, false, false, false⟩
  match Expression.ofLetters manner (Letters.ofBytes true pattern) with
  | .error fault => throw (.pattern fault)
  | .ok (expression, groups) =>
    let letters := (Letters.ofBytes true text).toArray
    match (expression.outcomes manner letters 0 []).head? with
    | none => return if groups > 0 then [] else [0x30]
    | some outcome =>
      let found : Expression.Match := ⟨0, outcome.stop, outcome.groups⟩
      return if groups > 0 then Letters.toBytes true (found.group letters 1) else Program.numeral outcome.stop

/-- Apply an operation on integers. -/
def computed (sign : String) (left right : Bytes) : Except ReckoningFault Bytes := do
  let some x := integer? left | throw .noInteger
  let some y := integer? right | throw .noInteger
  match sign with
  | "+" => return ofInteger (x + y)
  | "-" => return ofInteger (x - y)
  | "*" => return ofInteger (x * y)
  | _ =>
    if y == 0 then throw .divisionByZero
    return ofInteger (if sign == "/" then x.tdiv y else x.tmod y)

def compared (sign : String) (left right : Bytes) : Bytes :=
  let order : Ordering := match integer? left, integer? right with
    | some x, some y => compare x y
    | _, _ => if left == right then .eq else if Bytes.precedes left right then .lt else .gt
  ofBool (match sign with
    | "<" => order == .lt
    | "<=" => order != .gt
    | "=" | "==" => order == .eq
    | "!=" => order != .eq
    | ">=" => order != .lt
    | _ => order == .gt)

/-- Read operands joined by operators of one rank. -/
def chain (operators : List String) (operand : Reading Bytes) (join : String → Bytes → Bytes → Except ReckoningFault Bytes) :
    Nat → Bytes → Reading Bytes
  | 0, value => return value
  | fuel + 1, value => do
    match ← take? operators with
    | none => return value
    | some sign => chain operators operand join fuel (← join sign value (← operand))

mutual

def choice : Nat → Reading Bytes
  | 0 => return []
  | fuel + 1 => do
    let first ← conjunction fuel
    chain ["|"] (conjunction fuel) (fun _ x y =>
      return if !isNull x then x else if isNull y then [0x30] else y) (fuel + 1) first

def conjunction : Nat → Reading Bytes
  | 0 => return []
  | fuel + 1 => do
    let first ← comparison fuel
    chain ["&"] (comparison fuel) (fun _ x y => return if isNull x || isNull y then [0x30] else x) (fuel + 1) first

def comparison : Nat → Reading Bytes
  | 0 => return []
  | fuel + 1 => do
    let first ← sum fuel
    chain ["<=", "<", "==", "=", "!=", ">=", ">"] (sum fuel) (fun sign x y => return compared sign x y) (fuel + 1) first

def sum : Nat → Reading Bytes
  | 0 => return []
  | fuel + 1 => do
    let first ← product fuel
    chain ["+", "-"] (product fuel) computed (fuel + 1) first

def product : Nat → Reading Bytes
  | 0 => return []
  | fuel + 1 => do
    let first ← matching fuel
    chain ["*", "/", "%"] (matching fuel) computed (fuel + 1) first

def matching : Nat → Reading Bytes
  | 0 => return []
  | fuel + 1 => do
    let first ← single fuel
    chain [":"] (single fuel) (fun _ x y => matched x y) (fuel + 1) first

def single : Nat → Reading Bytes
  | 0 => return []
  | fuel + 1 => do
    match ← take? ["+", "(", ")", "match", "length", "substr", "index"] with
    | some "+" => take
    | some "(" =>
      let value ← choice fuel
      match ← take? [")"] with
      | some _ => return value
      | none =>
        let words ← get
        match words.left with
        | word :: _ => throw (.closeInstead word)
        | [] => throw (.expectsClose words.last)
    | some ")" => throw .strayClose
    | some "length" => return Program.numeral (Letters.ofBytes true (← single fuel)).length
    | some "match" => do matched (← single fuel) (← single fuel)
    | some "index" =>
      let text := Letters.ofBytes true (← single fuel)
      let wanted := Letters.ofBytes true (← single fuel)
      return Program.numeral ((text.findIdx? wanted.contains).elim 0 (· + 1))
    | some _ =>
      let text := Letters.ofBytes true (← single fuel)
      let place := integer? (← single fuel)
      let length := integer? (← single fuel)
      match place, length with
      | some place, some length =>
        if place ≤ 0 || length ≤ 0 then return []
        return Letters.toBytes true ((text.drop (place.toNat - 1)).take length.toNat)
      | _, _ => return []
    | none => take

end

/-- The value of words. -/
def value (words : List Bytes) : Except ReckoningFault Bytes := do
  let (value, words) ← (choice (8 * words.length + 16)).run ⟨words, []⟩
  match words.left with
  | [] => return value
  | word :: _ => throw (.unexpected word)

end Reckoning

namespace Program

def evaluate (program : Program) : Deed Nat :=
  program.answering do
    let words := if program.args.head? == some (utf8 "--") then program.args.drop 1 else program.args
    if words.isEmpty then
      program.refuse (utf8 "missing operand")
      return 2
    match Reckoning.value words with
    | .ok value =>
      program.print (value ++ [0x0a])
      return if Reckoning.isNull value then 1 else 0
    | .error fault =>
      program.complain fault.message
      return 2

end Program
end ExitParity
