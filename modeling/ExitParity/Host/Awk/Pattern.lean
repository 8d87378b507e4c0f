import ExitParity.Host.Expression

/-! Reading the patterns of the language, which are extended expressions of bytes. -/

namespace ExitParity.Awk

/-- How patterns match. -/
def manner : Manner := ⟨true, true, false, false, false⟩

namespace Pattern

def missingOperand : String := "missing operand"

def missingClose : String := "missing ')'"

def badClass : String := "bad class -- [], [^] or ["

/-- The control characters by the letters that stand for them. -/
def control? (letter : Nat) : Option Nat :=
  [(0x61, 0x07), (0x62, 0x08), (0x66, 0x0c), (0x6e, 0x0a), (0x72, 0x0d), (0x74, 0x09), (0x76, 0x0b)].lookup letter

/-- The letter that stands behind a backslash, with what is behind it. -/
def escaped (text : Letters) : Nat × Letters :=
  let digits := (text.take 3).takeWhile fun letter => 0x30 ≤ letter && letter ≤ 0x37
  match text with
  | [] => (0x5c, [])
  | letter :: rest =>
    if !digits.isEmpty then (digits.foldl (fun value digit => value * 8 + (digit - 0x30)) 0 % 256, text.drop digits.length)
    else ((control? letter).getD letter, rest)

/-- The members of a bracket up to its end. -/
def members : Nat → Bool → Letters → Except String ((Nat → Bool) × Letters)
  | 0, _, _ | _, _, [] => .error badClass
  | fuel + 1, first, letter :: rest => do
    if letter == 0x5d && !first then return (fun _ => false, rest)
    match letter, rest with
    | 0x5b, 0x3a :: after =>
      match Expression.inside 0x3a after with
      | some (name, after) =>
        match Letters.class? (String.ofList (name.map Char.ofNat)) with
        | some accepts =>
          let (more, after) ← members fuel false after
          return (fun letter => (letter < 0x80 && accepts letter) || more letter, after)
        | none => one fuel letter rest
      | none => one fuel letter rest
    | _, _ => one fuel letter rest
where
  single (letter : Nat) (rest : Letters) : Nat × Letters := if letter == 0x5c then escaped rest else (letter, rest)
  one (fuel : Nat) (letter : Nat) (rest : Letters) : Except String ((Nat → Bool) × Letters) := do
    let (low, rest) := single letter rest
    match rest with
    | 0x2d :: high :: after =>
      if high == 0x5d then plain fuel low rest
      else
        let (high, after) := single high after
        let (more, after) ← members fuel false after
        return (fun letter => (low ≤ letter && letter ≤ high) || more letter, after)
    | _ => plain fuel low rest
  plain (fuel : Nat) (low : Nat) (rest : Letters) : Except String ((Nat → Bool) × Letters) := do
    let (more, after) ← members fuel false rest
    return (fun letter => letter == low || more letter, after)

/-- The bounds between braces, if there are any. -/
def bounds? (text : Letters) : Option (Nat × Option Nat × Letters) :=
  let (least, rest) := Expression.digits text
  match least, rest with
  | some least, 0x7d :: rest => some (least, some least, rest)
  | least, 0x2c :: rest =>
    let (most, rest) := Expression.digits rest
    match rest with
    | 0x7d :: rest => if least.isNone && most.isNone then none else some (least.getD 0, most, rest)
    | _ => none
  | _, _ => none

/-- Read the signs that repeat an item. A least number above one is the only
number of times. -/
def repeated : Nat → Expression → Letters → Expression × Letters
  | 0, body, text => (body, text)
  | fuel + 1, body, text =>
    match text with
    | 0x2a :: rest => repeated fuel (.repeated 0 none body) rest
    | 0x2b :: rest => repeated fuel (.repeated 1 none body) rest
    | 0x3f :: rest => repeated fuel (.repeated 0 (some 1) body) rest
    | 0x7b :: rest =>
      match bounds? rest with
      | some (least, most, rest) => repeated fuel (.repeated least (if least < 2 then most else some least) body) rest
      | none => (body, text)
    | _ => (body, text)

mutual

/-- Read alternatives, up to a closing parenthesis when inside of one. -/
def alternatives : Nat → Bool → Letters → Except String (Expression × Letters)
  | 0, _, text => .ok (.empty, text)
  | fuel + 1, inner, text => do
    let (first, rest) ← items fuel inner text
    match rest with
    | 0x7c :: rest =>
      let (second, rest) ← alternatives fuel inner rest
      return (.choice first second, rest)
    | _ => return (first, rest)

/-- Read items one behind the other, at least one. -/
def items : Nat → Bool → Letters → Except String (Expression × Letters)
  | 0, _, text => .ok (.empty, text)
  | fuel + 1, inner, text => do
    let (body, rest) ← item fuel inner text
    let (body, rest) := repeated fuel body rest
    match rest with
    | [] | 0x7c :: _ => return (body, rest)
    | 0x29 :: _ =>
      if inner then return (body, rest)
      let (more, rest) ← items fuel inner rest
      return (.sequence body more, rest)
    | _ =>
      let (more, rest) ← items fuel inner rest
      return (.sequence body more, rest)

def item : Nat → Bool → Letters → Except String (Expression × Letters)
  | 0, _, text => .ok (.empty, text)
  | fuel + 1, inner, text => do
    match text with
    | [] => throw missingOperand
    | 0x28 :: rest =>
      match rest with
      | [] => throw missingClose
      | _ =>
        let (body, rest) ← alternatives fuel true rest
        match rest with
        | 0x29 :: rest => return (.group 0 body, rest)
        | _ => throw missingClose
    | 0x5b :: rest =>
      let inverted := rest.head? == some 0x5e
      let (accepts, rest) ← members (rest.length + 1) true (if inverted then rest.drop 1 else rest)
      return (.one fun letter => accepts letter != inverted, rest)
    | 0x5c :: rest =>
      let (letter, rest) := escaped rest
      return (.one (· == letter), rest)
    | letter :: rest =>
      if letter == 0x2a || letter == 0x2b || letter == 0x3f || letter == 0x7c || (letter == 0x29 && inner) then
        throw missingOperand
      if letter == 0x2e then return (.one fun _ => true, rest)
      if letter == 0x5e then return (.edge .textStart, rest)
      if letter == 0x24 then return (.edge .textEnd, rest)
      return (.one (· == letter), rest)

end

/-- The expression that a text stands for, or why there is none. -/
def ofText (text : Bytes) : Except String Expression := do
  if text.isEmpty then return .empty
  return (← alternatives (4 * text.length + 8) false (Letters.ofBytes false text)).1

end Pattern
end ExitParity.Awk
