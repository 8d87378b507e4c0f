import ExitParity.Host.Printing
import ExitParity.Shell.Syntax

/-! Arithmetic on whole numbers of 64 bits. -/

namespace ExitParity.Shell.Arithmetic

/-- What is wrong with an expression. -/
inductive Mistake where
  | lacksOperand
  | lacksColon
  | lacksClosing
  | goesOn
  | strangeSign
  | greatDigit
  | fixedTarget
  | negativePower
  deriving DecidableEq

/-- What an expression is made of. -/
inductive Item where
  | number (value : Int)
  | name (name : Bytes)
  /-- An element of a list, with the text of its index. -/
  | element (name index : Bytes)
  | operator (text : String)
  | wrong (mistake : Mistake)
  | ending
  deriving DecidableEq

/-- An item with the text from it on. -/
structure Placed where
  item : Item
  text : Bytes

/-- A calculation: the items not yet used, the text from the last used one on,
and the variables with the values that they were given on the way. -/
structure Calculation where
  items : List Placed
  last : Bytes
  bindings : Bytes → Option Bytes
  assigned : List (Bytes × Int)

/-- Why a calculation fails: the expression is wrong from some text on, it
divides by zero, or a text is no number. -/
inductive Fault where
  | expression (mistake : Mistake) (text : Bytes)
  | divisionByZero (text : Bytes)
  | number (text : Bytes)
  /-- The fault is in another expression, which is the value of a variable. -/
  | within (expression : Bytes) (fault : Fault)

namespace Mistake

/-- The mistake in the words of the core of the language. -/
def coreText : Mistake → String
  | .lacksColon => "expecting ':'"
  | .lacksClosing => "expecting ')'"
  | .goesOn | .greatDigit => "expecting EOF"
  | _ => "expecting primary"

/-- The mistake in the words of the extended language. -/
def addedText : Mistake → String
  | .lacksOperand => "syntax error: operand expected"
  | .lacksColon => "\x60:' expected for conditional expression"
  | .lacksClosing => "missing \x60)'"
  | .goesOn => "syntax error in expression"
  | .strangeSign => "syntax error: invalid arithmetic operator"
  | .greatDigit => "value too great for base"
  | .fixedTarget => "attempted assignment to non-variable"
  | .negativePower => "exponent less than 0"

end Mistake

namespace Fault

/-- The fault as one of an expression inside the one that is worked out. -/
def inside (expression : Bytes) : Fault → Fault
  | .within inner fault => .within inner fault
  | fault => .within expression fault

/-- The fault of an expression in the words of a dialect. -/
def message (dialect : Dialect) (expression : Bytes) : Fault → Bytes
  | .number wrong => utf8 "Illegal number: " ++ wrong
  | .within inner fault => fault.message dialect (inner.dropWhile Printing.isSpace)
  | .divisionByZero text =>
    match dialect with
    | .core => utf8 "arithmetic expression: division by zero: \"" ++ expression ++ utf8 "\""
    | .extended => expression ++ utf8 ": division by 0 (error token is \"" ++ text ++ utf8 "\")"
  | .expression mistake text =>
    match dialect with
    | .core => utf8 s!"arithmetic expression: {mistake.coreText}: \"" ++ expression ++ utf8 "\""
    | .extended => expression ++ utf8 s!": {mistake.addedText} (error token is \"" ++ text ++ utf8 "\")"

end Fault

abbrev Calculating := ExceptT Fault (StateM Calculation)

/-- The value that remains of a number in 64 bits. -/
def wrap (value : Int) : Int := Int.bmod value (2 ^ 64)

/-- The operators, the longer before those that they begin with. -/
def operators : List (Bytes × String) :=
  ["<<=", ">>=", "<<", ">>", "<=", ">=", "==", "!=", "&&", "||", "+=", "-=", "*=", "/=", "%=", "&=", "^=", "|=",
    "<", ">", "=", "!", "~", "&", "|", "^", "+", "-", "*", "/", "%", "(", ")", "?", ":"].map
  fun operator => (utf8 operator, operator)

/-- The operators of a dialect. -/
def operatorsOf : Dialect → List (Bytes × String)
  | .core => operators
  | .extended => ["++", "--", "**", ","].map (fun operator => (utf8 operator, operator)) ++ operators

/-- The value of a digit; the capital letters count above the small ones in the
bases that need both. -/
def digitOf (base : Nat) (byte : UInt8) : Nat :=
  if Printing.isDecimal byte then byte.toNat - 0x30
  else if 0x61 ≤ byte && byte ≤ 0x7a then byte.toNat - 0x57
  else if 0x41 ≤ byte && byte ≤ 0x5a then if base ≤ 36 then byte.toNat - 0x37 else byte.toNat - 0x1d
  else if byte == 0x40 then 62
  else 63

/-- The number that a constant of the extended language stands for. A base may
stand in front of a sign. -/
def constant? (text : Bytes) : Option Int :=
  let read (base : Nat) (digits : Bytes) : Option Int :=
    if digits.all (digitOf base · < base) then
      some (wrap (digits.foldl (fun value digit => value * base + digitOf base digit) 0 : Nat))
    else none
  let base := text.takeWhile (· != 0x23)
  if base.length < text.length then
    let value := Printing.digits 10 base
    if base.all Printing.isDecimal && 2 ≤ value && value ≤ 64 then read value (text.drop (base.length + 1)) else none
  else match text with
    | 0x30 :: mark :: digits => if mark == 0x78 || mark == 0x58 then read 16 digits else read 8 (mark :: digits)
    | text => read 10 text

def isConstantByte (byte : UInt8) : Bool := isNameByte byte || byte == 0x23 || byte == 0x40

/-- Take an expression apart. -/
def items (dialect : Dialect) : Nat → Bytes → List Placed
  | 0, _ => []
  | _, [] => []
  | fuel + 1, byte :: rest =>
    let text := byte :: rest
    let wrong (mistake : Mistake) (text : Bytes) : List Placed := [⟨.wrong mistake, text⟩]
    if Printing.isSpace byte then items dialect fuel rest
    else if Printing.isDecimal byte then
      match dialect with
      | .core =>
        match Printing.leadingNumber text with
        | some (value, rest) => ⟨.number (min value (2 ^ 63 - 1)), text⟩ :: items dialect fuel rest
        | none => wrong .lacksOperand text
      | .extended =>
        let found := text.takeWhile isConstantByte
        match constant? found with
        | some value => ⟨.number value, text⟩ :: items dialect fuel (text.drop found.length)
        | none => wrong .greatDigit found
    else if isNameStart byte then
      let name := text.takeWhile isNameByte
      let rest := text.drop name.length
      match dialect, rest with
      | .extended, 0x5b :: inner =>
        match bracketed? 0 inner with
        | some (index, rest) => ⟨.element name index, text⟩ :: items dialect fuel rest
        | none => wrong .lacksOperand text
      | _, rest => ⟨.name name, text⟩ :: items dialect fuel rest
    else match (operatorsOf dialect).find? (·.1.isPrefixOf text) with
      | some (written, operator) => ⟨.operator operator, text⟩ :: items dialect fuel (text.drop written.length)
      | none => wrong .strangeSign text

/-- The number that a whole text stands for. A blank text is zero. -/
def numberOf (text : Bytes) : Except Fault Int :=
  match Printing.leadingNumber text with
  | some (value, rest) =>
    if rest.all Printing.isSpace && -(2 ^ 63) ≤ value && value < 2 ^ 63 then .ok value else .error (.number text)
  | none => if text.all Printing.isSpace then .ok 0 else .error (.number text)

def head : Calculating Item := return ((← get).items.head?.map (·.item)).getD .ending

def drop : Calculating Unit := modify fun state =>
  { state with last := (state.items.head?.map (·.text)).getD state.last, items := state.items.drop 1 }

/-- The text from the next item on, or from the last one. -/
def place : Calculating Bytes := do
  let state ← get
  return (state.items.head?.map (·.text)).getD state.last

def refuse {α : Type} (mistake : Mistake) : Calculating α := do throw (.expression mistake (← place))

def assign (name : Bytes) (value : Int) : Calculating Unit :=
  modify fun state => { state with assigned := (name, value) :: state.assigned.filter (·.1 != name) }

def truth (value : Bool) : Int := if value then 1 else 0

/-- The bits of a number as a natural number, and back. -/
def bits (value : Int) : Nat := (value % 2 ^ 64).toNat

def bitwise (operation : Nat → Nat → Nat) (first second : Int) : Int := wrap (operation (bits first) (bits second))

/-- How tightly an operator between two numbers binds, the tightest first. -/
def rank? (operator : String) : Option Nat :=
  if operator == "**" then some 0
  else if ["*", "/", "%"].contains operator then some 1
  else if ["+", "-"].contains operator then some 2
  else if ["<<", ">>"].contains operator then some 3
  else if ["<", ">", "<=", ">="].contains operator then some 4
  else if ["==", "!="].contains operator then some 5
  else if operator == "&" then some 6
  else if operator == "^" then some 7
  else if operator == "|" then some 8
  else none

/-- A power, by squaring. -/
def power (base : Int) : Nat → Nat → Int
  | 0, _ => 1
  | fuel + 1, exponent =>
    if exponent == 0 then 1
    else
      let half := power (wrap (base * base)) fuel (exponent / 2)
      if exponent % 2 == 1 then wrap (half * base) else half

/-- Apply an operator. The text is the one from the second number on. -/
def apply (operator : String) (first second : Int) (text : Bytes) : Calculating Int := do
  match operator with
  | "**" => if second < 0 then throw (.expression .negativePower text) else return power first 64 second.toNat
  | "*" => return wrap (first * second)
  | "/" => if second == 0 then throw (.divisionByZero text) else return wrap (first.tdiv second)
  | "%" => if second == 0 then throw (.divisionByZero text) else return wrap (first.tmod second)
  | "+" => return wrap (first + second)
  | "-" => return wrap (first - second)
  | "<<" => return wrap (first * 2 ^ (bits second % 64))
  | ">>" => return first / 2 ^ (bits second % 64)
  | "<" => return truth (first < second)
  | ">" => return truth (first > second)
  | "<=" => return truth (first ≤ second)
  | ">=" => return truth (first ≥ second)
  | "==" => return truth (first == second)
  | "!=" => return truth (first != second)
  | "&" => return bitwise (· &&& ·) first second
  | "^" => return bitwise (· ^^^ ·) first second
  | _ => return bitwise (· ||| ·) first second

/-- The operator that an assignment applies on the way. -/
def assignment? (operator : String) : Option (Option String) :=
  if operator == "=" then some none
  else if ["<<=", ">>=", "+=", "-=", "*=", "/=", "%=", "&=", "^=", "|="].contains operator then
    some (some (String.ofList operator.toList.dropLast))
  else none

mutual

/-- The value of a variable. In the extended language it is an expression. -/
def valueOf (dialect : Dialect) : Nat → Bytes → Calculating Int
  | 0, _ => return 0
  | fuel + 1, name => do
    let state ← get
    match state.assigned.find? (·.1 == name), dialect with
    | some (_, value), _ => return value
    | none, .core =>
      match numberOf ((state.bindings name).getD []) with
      | .ok value => return value
      | .error fault => throw fault
    | none, .extended => valueOfText dialect fuel ((state.bindings name).getD [])

/-- The value of a text inside an expression. -/
def valueOfText (dialect : Dialect) : Nat → Bytes → Calculating Int
  | 0, _ => return 0
  | fuel + 1, text => do
    let outer ← get
    if text.all Printing.isSpace then return 0
    set { outer with items := items dialect (text.length + 1) text, last := text }
    let read : Calculating Int := do
      let value ← series dialect fuel false
      if (← head) != .ending then refuse .goesOn
      return value
    let value ← tryCatch read fun fault => throw (fault.inside text)
    modify fun state => { state with items := outer.items, last := outer.last }
    return value

/-- The variable that an item stands for. -/
def target? (dialect : Dialect) : Nat → Item → Calculating (Option Bytes)
  | 0, _ => return none
  | fuel + 1, item => do
    match item with
    | .name name => return some name
    | .element name index => return some (elementName name (utf8 (toString (← valueOfText dialect fuel index))))
    | _ => return none

/-- A number, a variable, or an expression in parentheses, with signs in
front. Where the value is not used, nothing is looked up. -/
def primary (dialect : Dialect) : Nat → Bool → Calculating Int
  | 0, _ => return 0
  | fuel + 1, unused => do
    let item ← head
    match item with
    | .number value =>
      drop
      return value
    | .name _ | .element .. =>
      drop
      if unused then
        match ← head with
        | .operator "++" | .operator "--" => drop
        | _ => pure ()
        return 0
      let name := (← target? dialect fuel item).getD []
      let value ← valueOf dialect fuel name
      match ← head with
      | .operator "++" =>
        drop
        assign name (wrap (value + 1))
      | .operator "--" =>
        drop
        assign name (wrap (value - 1))
      | _ => pure ()
      return value
    | .operator "++" =>
      drop
      counted dialect fuel 1 unused
    | .operator "--" =>
      drop
      counted dialect fuel (-1) unused
    | .operator "(" =>
      drop
      let value ← series dialect fuel unused
      if (← head) != .operator ")" then refuse .lacksClosing
      drop
      return value
    | .operator "+" =>
      drop
      primary dialect fuel unused
    | .operator "-" =>
      drop
      return wrap (-(← primary dialect fuel unused))
    | .operator "!" =>
      drop
      return truth ((← primary dialect fuel unused) == 0)
    | .operator "~" =>
      drop
      return wrap (-(← primary dialect fuel unused) - 1)
    | .wrong .greatDigit => refuse .greatDigit
    | _ => refuse .lacksOperand

/-- A variable counted up or down before it is used. In front of anything else
the sign is two signs. -/
def counted (dialect : Dialect) : Nat → Int → Bool → Calculating Int
  | 0, _, _ => return 0
  | fuel + 1, difference, unused => do
    let item ← head
    match ← target? dialect fuel item with
    | some name =>
      drop
      if unused then return 0
      let value := wrap ((← valueOf dialect fuel name) + difference)
      assign name value
      return value
    | none => primary dialect fuel unused

/-- Numbers joined by operators that bind more tightly than a rank. -/
def binary (dialect : Dialect) : Nat → Nat → Bool → Calculating Int
  | 0, _, _ => return 0
  | fuel + 1, rank, unused => do
    let first ← primary dialect fuel unused
    moreBinary dialect fuel rank unused first

def moreBinary (dialect : Dialect) : Nat → Nat → Bool → Int → Calculating Int
  | 0, _, _, first => return first
  | fuel + 1, rank, unused, first => do
    match ← head with
    | .operator operator =>
      match rank? operator with
      | some own =>
        if own < rank then
          drop
          let text ← place
          -- powers are taken from the right
          let second ← binary dialect fuel (if own == 0 then 1 else own) unused
          let value ← if unused then pure second else apply operator first second text
          moreBinary dialect fuel rank unused value
        else return first
      | none => return first
    | _ => return first

def conjunction (dialect : Dialect) : Nat → Bool → Calculating Int
  | 0, _ => return 0
  | fuel + 1, unused => do
    let first ← binary dialect fuel 9 unused
    if (← head) == .operator "&&" then
      drop
      let second ← conjunction dialect fuel (unused || first == 0)
      return truth (first != 0 && second != 0)
    else return first

def disjunction (dialect : Dialect) : Nat → Bool → Calculating Int
  | 0, _ => return 0
  | fuel + 1, unused => do
    let first ← conjunction dialect fuel unused
    if (← head) == .operator "||" then
      drop
      let second ← disjunction dialect fuel (unused || first != 0)
      return truth (first != 0 || second != 0)
    else return first

def conditional (dialect : Dialect) : Nat → Bool → Calculating Int
  | 0, _ => return 0
  | fuel + 1, unused => do
    let condition ← disjunction dialect fuel unused
    if (← head) == .operator "?" then
      drop
      let accepted ← assignment dialect fuel (unused || condition == 0)
      if (← head) != .operator ":" then refuse .lacksColon
      drop
      let otherwise ← conditional dialect fuel (unused || condition != 0)
      return if condition != 0 then accepted else otherwise
    else return condition

def assignment (dialect : Dialect) : Nat → Bool → Calculating Int
  | 0, _ => return 0
  | fuel + 1, unused => do
    let items : List Item := (← get).items.map (·.item)
    match items with
    | item :: .operator operator :: _ =>
      match assignment? operator with
      | none => conditional dialect fuel unused
      | some operation? =>
        match ← target? dialect fuel item with
        | some name =>
          drop
          drop
          let text ← place
          let second ← assignment dialect fuel unused
          if unused then return second
          let value ← match operation? with
            | none => pure second
            | some operation => apply operation (← valueOf dialect fuel name) second text
          assign name value
          return value
        | none =>
          let value ← conditional dialect fuel unused
          if dialect == .extended then refuse .fixedTarget
          return value
    | _ => conditional dialect fuel unused

/-- Expressions in a row, of which the last one counts. -/
def series (dialect : Dialect) : Nat → Bool → Calculating Int
  | 0, _ => return 0
  | fuel + 1, unused => do
    let value ← assignment dialect fuel unused
    if (← head) == .operator "," then
      drop
      series dialect fuel unused
    else return value

end

/-- The value of an expression, with the variables that it sets. -/
def evaluate (dialect : Dialect) (text : Bytes) (bindings : Bytes → Option Bytes) : Except Fault (Int × List (Bytes × Int)) :=
  if dialect == .extended && text.all Printing.isSpace then .ok (0, [])
  else
    let whole : Calculating Int := do
      let value ← series dialect (16 * text.length + 1024) false
      match ← head with
      | .ending => return value
      | .wrong .strangeSign => if dialect == .core then refuse .goesOn else refuse .strangeSign
      | _ => refuse .goesOn
    match whole.run ⟨items dialect (text.length + 1) text, text, bindings, []⟩ with
    | (.ok value, state) => .ok (value, state.assigned.reverse)
    | (.error fault, _) => .error fault

end ExitParity.Shell.Arithmetic
