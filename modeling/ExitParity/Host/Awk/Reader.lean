import ExitParity.Host.Awk.Lexer
import ExitParity.Host.Awk.Pattern

/-! Reading a program. -/

namespace ExitParity.Awk

/-- A name that was handed to a function, where it is not known whether it
stands for a value or for an array. -/
structure Handed where
  function : Bytes
  position : Nat
  /-- The function that the name is handed over in. -/
  scope : Option Bytes
  name : Name

/-- A program that is being read: the tokens left, the function that is read
and its parameters, the functions and their calls so far, which names are used
as arrays and which as variables, and how many loops are open. -/
structure Draft where
  lexemes : List Lexeme
  scope : Option Bytes
  parameters : List Bytes
  known : List Bytes
  calls : List (Nat × Bytes × Nat)
  uses : List (Name × Bool)
  handed : List Handed
  loops : Nat
  /-- Whether the next record can be gone on to. -/
  hasRecords : Bool

abbrev Reading := StateT Draft (Except Fault)

/-- The fault of a token that cannot stand where it does. -/
def Lexeme.refusal (lexeme : Lexeme) : Fault :=
  let unexpected : Fault := .unexpected lexeme.line lexeme.spelling
  let missing : Fault := if lexeme.inParentheses then .missingParenthesis lexeme.line lexeme.spelling else unexpected
  match lexeme.token with
  | .fault fault => fault
  | .lineEnd => missing
  | .sign text => if text == ";" || text == "\x7d" then missing else unexpected
  | _ => unexpected

namespace Reading

def endLexeme : Lexeme := ⟨.textEnd, 0, utf8 "end of file", false⟩

def peek : Reading Lexeme := return (← get).lexemes.head?.getD endLexeme

def advance : Reading Unit := modify fun draft => { draft with lexemes := draft.lexemes.drop 1 }

def refuse {α : Type} : Reading α := do
  throw (← peek).refusal

def isSign (sign : String) (token : Token) : Bool :=
  match token with
  | .sign text => text == sign
  | _ => false

def isNext (sign : String) : Reading Bool := return isSign sign (← peek).token

/-- Pass over a sign if it comes next. -/
def takes (sign : String) : Reading Bool := do
  let found ← isNext sign
  if found then advance
  return found

def expect (sign : String) : Reading Unit := do
  if !(← takes sign) then refuse

/-- The one of some signs that comes next. -/
def oneOf {α : Type} (signs : List (String × α)) : Reading (Option α) := do
  match (← peek).token with
  | .sign text =>
    match signs.lookup text with
    | some value =>
      advance
      return some value
    | none => return none
  | _ => return none

def isLineEnd : Reading Bool := do
  match (← peek).token with
  | .lineEnd => return true
  | _ => return false

/-- Pass over the end of a line, if it is there. -/
def skipLineEnd : Reading Unit := do
  if ← isLineEnd then advance

/-- The end of a statement. -/
def separator : Reading Unit := do
  if ← isLineEnd then advance else expect ";"

def isAtSeparator : Reading Bool := do
  if ← isLineEnd then return true else isNext ";"

/-- The variable or the array that a name stands for. -/
def resolve (name : Bytes) : Reading Name := do
  let parameters := (← get).parameters
  let index := parameters.idxOf name
  return if index < parameters.length then .ofFunction index else .ofProgram name

/-- Note that a name is used as an array, or as a variable. It cannot be both. -/
def use (line : Nat) (name : Bytes) (isArray : Bool) : Reading Name := do
  let resolved ← resolve name
  match (← get).uses.lookup resolved with
  | some known =>
    if known != isArray then throw (if known then .illegalArray line name else .illegalVariable line name)
  | none => modify fun draft => { draft with uses := (resolved, isArray) :: draft.uses }
  return resolved

def wholeName : Reading (Bytes × Nat) := do
  let lexeme ← peek
  match lexeme.token with
  | .name bytes _ =>
    advance
    return (bytes, lexeme.line)
  | _ => refuse

def arrayName : Reading Name := do
  let (name, line) ← wholeName
  use line name true

def pattern (line : Nat) (source : Bytes) : Reading Term := do
  match Pattern.ofText source with
  | .ok expression => return .pattern expression
  | .error reason => throw (.pattern line reason source)

/-- A term as something that texts are matched against. -/
def asPattern (line : Nat) : Term → Reading Term
  | .text source => pattern line source
  | term => return term

/-- Read terms with signs between them, from the left. -/
def chain (operand : Reading Term) (signs : List (String × (Term → Term → Term))) : Nat → Term → Reading Term
  | 0, term => return term
  | fuel + 1, term => do
    match ← oneOf signs with
    | some combine => chain operand signs fuel (combine term (← operand))
    | none => return term

def relations (isPrinted : Bool) : List (String × (Term → Term → Term)) :=
  [("==", .compare .equal), ("!=", .compare .unequal), ("<", .compare .less), ("<=", .compare .atMost),
    (">=", .compare .atLeast)] ++ if isPrinted then [] else [(">", .compare .greater)]

def assignments : List (String × Option Operation) :=
  [("=", none), ("+=", some .add), ("-=", some .subtract), ("*=", some .multiply), ("/=", some .divide),
    ("%=", some .remainder), ("^=", some .power)]

/-- Whether a token can begin a term that is joined to the one in front of it. -/
def beginsTerm : Token → Bool
  | .number _ | .text _ | .pattern _ | .name .. | .builtin _ => true
  | .sign text => ["$", "!", "(", "++", "--", "getline"].contains text
  | _ => false

/-- The least and the greatest number of arguments. -/
def arity : Builtin → Nat × Option Nat
  | .arcTangent | .index | .match_ => (2, some 2)
  | .flush | .length | .seed => (0, some 1)
  | .substituteAll | .split | .substitute | .substring => (2, some 3)
  | .random | .now => (0, some 0)
  | .format => (1, none)
  | .timeText => (0, some 3)
  | .close | .cosine | .exponential | .integer | .logarithm | .timeOf | .sine | .squareRoot | .system | .lower
  | .upper => (1, some 1)

def ownLine : Term := .read (.field (.number 0))

mutual

/-- Read a term. In what is printed a greater sign does not compare. -/
def term : Nat → Bool → Reading Term
  | 0, _ => refuse
  | fuel + 1, isPrinted => do
    let condition ← disjunction fuel isPrinted
    if ← takes "?" then
      let yes ← term fuel isPrinted
      expect ":"
      return .choice condition yes (← term fuel isPrinted)
    else return condition

def disjunction : Nat → Bool → Reading Term
  | 0, _ => refuse
  | fuel + 1, isPrinted => do
    chain (conjunction fuel isPrinted) [("||", .either)] fuel (← conjunction fuel isPrinted)

def conjunction : Nat → Bool → Reading Term
  | 0, _ => refuse
  | fuel + 1, isPrinted => do
    chain (membership fuel isPrinted) [("&&", .both)] fuel (← membership fuel isPrinted)

def membership : Nat → Bool → Reading Term
  | 0, _ => refuse
  | fuel + 1, isPrinted => do
    members fuel (← matching fuel isPrinted)

def members : Nat → Term → Reading Term
  | 0, _ => refuse
  | fuel + 1, subscript => do
    if ← takes "in" then members fuel (.contains (← arrayName) [subscript]) else return subscript

def matching : Nat → Bool → Reading Term
  | 0, _ => refuse
  | fuel + 1, isPrinted => do
    chain (do
        let line := (← peek).line
        asPattern line (← comparison fuel isPrinted))
      [("~", .matching false), ("!~", .matching true)] fuel (← comparison fuel isPrinted)

def comparison : Nat → Bool → Reading Term
  | 0, _ => refuse
  | fuel + 1, isPrinted => do
    chain (assignment fuel isPrinted) (relations isPrinted) fuel (← assignment fuel isPrinted)

def assignment : Nat → Bool → Reading Term
  | 0, _ => refuse
  | fuel + 1, isPrinted => do
    let inParentheses ← isNext "("
    let first ← joined fuel (← sum fuel)
    match first, inParentheses with
    | .read place, false =>
      match ← oneOf assignments with
      | some operation => return .assign place operation (← term fuel isPrinted)
      | none => return first
    | _, _ => return first

def joined : Nat → Term → Reading Term
  | 0, _ => refuse
  | fuel + 1, first => do
    if beginsTerm (← peek).token then joined fuel (.join first (← sum fuel)) else return first

def sum : Nat → Reading Term
  | 0 => refuse
  | fuel + 1 => do
    chain (product fuel) [("+", .compute .add), ("-", .compute .subtract)] fuel (← product fuel)

def product : Nat → Reading Term
  | 0 => refuse
  | fuel + 1 => do
    chain (signed fuel) [("*", .compute .multiply), ("/", .compute .divide), ("%", .compute .remainder)] fuel
      (← signed fuel)

def signed : Nat → Reading Term
  | 0 => refuse
  | fuel + 1 => do
    match ← oneOf [("!", Term.not), ("-", Term.negate), ("+", Term.affirm)] with
    | some change => return change (← signed fuel)
    | none => piped fuel (← power fuel)

/-- Read on behind what may be a command whose lines are read. -/
def piped : Nat → Term → Reading Term
  | 0, _ => refuse
  | fuel + 1, command => do
    match (← get).lexemes with
    | first :: second :: _ =>
      if isSign "|" first.token && isSign "getline" second.token then
        advance
        advance
        piped fuel (.lineOfCommand (← target? fuel) command)
      else return command
    | _ => return command

def power : Nat → Reading Term
  | 0 => refuse
  | fuel + 1 => do
    let base ← counted fuel
    if ← takes "^" then return .compute .power base (← exponent fuel) else return base

def exponent : Nat → Reading Term
  | 0 => refuse
  | fuel + 1 => do
    match ← oneOf [("!", Term.not), ("-", Term.negate), ("+", Term.affirm)] with
    | some change => return change (← exponent fuel)
    | none => power fuel

/-- Read a term that may be counted up or down. -/
def counted : Nat → Reading Term
  | 0 => refuse
  | fuel + 1 => do
    let inParentheses ← isNext "("
    let base ← primary fuel
    match base, inParentheses with
    | .read place, false =>
      match ← oneOf [("++", false), ("--", true)] with
      | some decrease => return .increment place decrease false
      | none => return base
    | _, _ => return base

def target? : Nat → Reading (Option Place)
  | 0 => refuse
  | fuel + 1 => do
    match (← peek).token with
    | .name _ false => return some (← place fuel)
    | .sign "$" => return some (← place fuel)
    | _ => return none

def place : Nat → Reading Place
  | 0 => refuse
  | fuel + 1 => do
    if ← takes "$" then return .field (← fieldNumber fuel)
    let (name, line) ← wholeName
    if ← takes "[" then
      let array ← use line name true
      let subscripts ← terms fuel
      expect "]"
      return .element array subscripts
    else return .variable_ (← use line name false)

def fieldNumber : Nat → Reading Term
  | 0 => refuse
  | fuel + 1 => do
    match ← oneOf [("!", Term.not), ("-", Term.negate), ("+", Term.affirm)] with
    | some change => return change (← fieldNumber fuel)
    | none =>
      let inParentheses ← isNext "("
      let base ← primary fuel
      match base, inParentheses with
      | .read (.field _), _ => return base
      | .read place, false =>
        match ← oneOf [("++", false), ("--", true)] with
        | some decrease => return .increment place decrease false
        | none => return base
      | _, _ => return base

/-- Read terms with commas between them. -/
def terms : Nat → Reading (List Term)
  | 0 => refuse
  | fuel + 1 => do
    let first ← term fuel false
    if ← takes "," then return first :: (← terms fuel) else return [first]

def printedTerms : Nat → Reading (List Term)
  | 0 => refuse
  | fuel + 1 => do
    let first ← term fuel true
    if ← takes "," then return first :: (← printedTerms fuel) else return [first]

def primary : Nat → Reading Term
  | 0 => refuse
  | fuel + 1 => do
    let lexeme ← peek
    match lexeme.token with
    | .number value =>
      advance
      return .number value
    | .text bytes =>
      advance
      return .text bytes
    | .pattern source =>
      advance
      pattern lexeme.line source
    | .name name calls =>
      if calls || (← get).known.elem name then
        advance
        if !(← isNext "(") then refuse
        modify fun draft => { draft with known := name :: draft.known }
        advance
        let arguments ← if ← isNext ")" then pure [] else arguments fuel name 0
        expect ")"
        modify fun draft => { draft with calls := (lexeme.line, name, arguments.length) :: draft.calls }
        return .call name arguments
      else return .read (← place fuel)
    | .builtin builtin =>
      advance
      builtinCall fuel lexeme builtin
    | .sign "(" =>
      advance
      let first ← term fuel false
      if ← takes "," then
        let more ← terms fuel
        expect ")"
        expect "in"
        return .contains (← arrayName) (first :: more)
      expect ")"
      return first
    | .sign "$" => return .read (← place fuel)
    | .sign "++" =>
      advance
      return .increment (← place fuel) false true
    | .sign "--" =>
      advance
      return .increment (← place fuel) true true
    | .sign "getline" =>
      advance
      let target ← target? fuel
      if ← takes "<" then return .lineOfFile target (← counted fuel) else return .nextRecord target
    | _ => refuse

/-- The arguments of a function. A name alone may be an array. -/
def arguments : Nat → Bytes → Nat → Reading (List Term)
  | 0, _, _ => refuse
  | fuel + 1, function, position => do
    let argument ← match (← get).lexemes with
      | ⟨.name name false, _, _, _⟩ :: behind :: _ =>
        if isSign "," behind.token || isSign ")" behind.token then
          advance
          let resolved ← resolve name
          modify fun draft => { draft with handed := ⟨function, position, draft.scope, resolved⟩ :: draft.handed }
          pure (.read (.variable_ resolved))
        else term fuel false
      | _ => term fuel false
    if ← takes "," then return argument :: (← arguments fuel function (position + 1)) else return [argument]

def builtinCall : Nat → Lexeme → Builtin → Reading Term
  | 0, _, _ => refuse
  | fuel + 1, lexeme, builtin => do
    match builtin with
    | .length =>
      if !(← takes "(") then return .builtin .length [ownLine]
      if ← takes ")" then return .builtin .length [ownLine]
      let argument ← match (← get).lexemes with
        | ⟨.name name false, _, _, _⟩ :: behind :: _ =>
          if isSign ")" behind.token then
            advance
            pure (.read (.variable_ (← resolve name)))
          else term fuel false
        | _ => term fuel false
      expect ")"
      return .builtin .length [argument]
    | .split =>
      expect "("
      let text ← term fuel false
      expect ","
      let array ← arrayName
      let separators ← if ← takes "," then pure [← term fuel false] else pure []
      expect ")"
      return .builtin .split (text :: .read (.variable_ array) :: separators)
    | .substitute | .substituteAll =>
      expect "("
      let wanted ← asPattern lexeme.line (← term fuel false)
      expect ","
      let replacement ← term fuel false
      let place ← if ← takes "," then term fuel false else pure ownLine
      expect ")"
      return .builtin builtin [wanted, replacement, place]
    | .match_ =>
      expect "("
      let text ← term fuel false
      expect ","
      let wanted ← asPattern lexeme.line (← term fuel false)
      expect ")"
      return .builtin .match_ [text, wanted]
    | _ =>
      expect "("
      let arguments ← if ← isNext ")" then pure [] else terms fuel
      expect ")"
      let (least, most) := arity builtin
      if arguments.length < least || most.any (· < arguments.length) then
        throw (.wrongArguments lexeme.line lexeme.spelling)
      return .builtin builtin arguments

end

/-- Read what is printed: a list, which may stand in parentheses. -/
def printed (fuel : Nat) : Reading (List Term) := do
  let isOutput (sign : String) : Bool := [">", ">>", "|"].contains sign
  match (← peek).token with
  | .lineEnd | .sign ";" => return []
  | .sign "(" =>
    let start ← get
    advance
    let list ← terms fuel
    expect ")"
    if list.length > 1 && !(← isNext "in") then return list
    set start
    printedTerms fuel
  | .sign sign => if isOutput sign then return [] else printedTerms fuel
  | _ => printedTerms fuel

def target (fuel : Nat) : Reading (Option Target) := do
  match ← oneOf [(">", Target.overwrite), (">>", Target.append), ("|", Target.command)] with
  | some direct => return some (direct (← term fuel true))
  | none => return none

/-- Read what is inside of a loop. -/
def looped {α : Type} (body : Reading α) : Reading α := do
  modify fun draft => { draft with loops := draft.loops + 1 }
  let value ← body
  modify fun draft => { draft with loops := draft.loops - 1 }
  return value

mutual

def statements : Nat → Reading (List Statement)
  | 0 => refuse
  | fuel + 1 => do
    if ← takes "\x7d" then return []
    let first ← statement fuel
    return first :: (← statements fuel)

def block : Nat → Reading (List Statement)
  | 0 => refuse
  | fuel + 1 => do
    expect "\x7b"
    statements fuel

def statement : Nat → Reading Statement
  | 0 => refuse
  | fuel + 1 => do
    let lexeme ← peek
    match lexeme.token with
    | .lineEnd =>
      advance
      return .block []
    | .sign "\x7b" => return .block (← block fuel)
    | .sign ";" =>
      advance
      return .block []
    | .sign "if" =>
      advance
      let condition ← condition fuel
      skipLineEnd
      let yes ← statement fuel
      if ← takes "else" then return .if_ condition yes (some (← statement fuel)) else return .if_ condition yes none
    | .sign "while" =>
      advance
      let condition ← condition fuel
      skipLineEnd
      return .while_ condition (← looped (statement fuel))
    | .sign "do" =>
      advance
      let body ← looped (statement fuel)
      expect "while"
      let condition ← condition fuel
      separator
      return .doWhile body condition
    | .sign "for" =>
      advance
      expect "("
      forLoop fuel
    | .sign "print" =>
      advance
      let list ← printed fuel
      let target ← target fuel
      separator
      return .print list target
    | .sign "printf" =>
      advance
      let list ← printed fuel
      if list.isEmpty then throw (.noArguments lexeme.line (utf8 "printf"))
      let target ← target fuel
      separator
      return .format list target
    | .sign "break" =>
      if (← get).loops == 0 then throw (.strayBreak lexeme.line)
      advance
      separator
      return .break_
    | .sign "continue" =>
      if (← get).loops == 0 then throw (.strayContinue lexeme.line)
      advance
      separator
      return .continue_
    | .sign "next" =>
      if !(← get).hasRecords then throw (.strayNext lexeme.line)
      advance
      separator
      return .next
    | .sign "nextfile" =>
      if !(← get).hasRecords then throw (.strayNext lexeme.line)
      advance
      separator
      return .nextFile
    | .sign "exit" =>
      advance
      let code ← if ← isAtSeparator then pure none else pure (some (← term fuel false))
      separator
      return .exit code
    | .sign "return" =>
      if (← get).scope.isNone then throw (.strayReturn lexeme.line)
      advance
      let value ← if ← isAtSeparator then pure none else pure (some (← term fuel false))
      separator
      return .return_ value
    | .sign "delete" =>
      advance
      let array ← arrayName
      let subscripts ← if ← takes "[" then
          let subscripts ← terms fuel
          expect "]"
          pure (some subscripts)
        else pure none
      separator
      return .delete array subscripts
    | _ =>
      let value ← term fuel false
      separator
      return .evaluate value

def condition : Nat → Reading Term
  | 0 => refuse
  | fuel + 1 => do
    expect "("
    let value ← term fuel false
    expect ")"
    return value

def forLoop : Nat → Reading Statement
  | 0 => refuse
  | fuel + 1 => do
    match (← get).lexemes with
    | ⟨.name name false, line, _, _⟩ :: ⟨.sign "in", _, _, _⟩ :: ⟨.name .., _, _, _⟩ :: ⟨.sign ")", _, _, _⟩ :: _ =>
      advance
      advance
      let element ← use line name false
      let array ← arrayName
      advance
      skipLineEnd
      return .forEach (.variable_ element) array (← looped (statement fuel))
    | _ =>
      let simple (last : String) : Reading (Option Term) := do
        if ← isNext last then return none else return some (← term fuel false)
      let start ← simple ";"
      expect ";"
      let condition ← simple ";"
      expect ";"
      let step ← simple ")"
      expect ")"
      skipLineEnd
      return .for_ (start.map .evaluate) condition (step.map .evaluate) (← looped (statement fuel))

end

/-- What a program is made of. -/
inductive Item where
  | rule (rule : Rule)
  | function (function : Function)

def parameters : Nat → List Bytes → Reading (List Bytes)
  | 0, _ => refuse
  | fuel + 1, before => do
    let (name, line) ← wholeName
    if before.elem name then throw (.duplicateParameter line name)
    if ← takes "," then parameters fuel (before ++ [name]) else return before ++ [name]

def function (fuel : Nat) : Reading Function := do
  let (name, line) ← wholeName
  if ((← get).uses.lookup (.ofProgram name)).isSome then throw (.illegalVariable line name)
  expect "("
  let parameters ← if ← isNext ")" then pure [] else parameters fuel []
  expect ")"
  skipLineEnd
  modify fun draft => { draft with known := name :: draft.known, scope := some name, parameters }
  let body ← block fuel
  let uses := (← get).uses
  let arrays := (List.range parameters.length).filter fun index => uses.lookup (.ofFunction index) == some true
  modify fun draft => { draft with
    scope := none
    parameters := []
    uses := draft.uses.filter fun (name, _) => match name with
      | .ofProgram _ => true
      | .ofFunction _ => false }
  return ⟨name, parameters, body, arrays⟩

def rule (fuel : Nat) : Reading Rule := do
  if ← takes "BEGIN" then return ⟨.begin_, some (← block fuel)⟩
  if ← takes "END" then return ⟨.end_, some (← block fuel)⟩
  modify fun draft => { draft with hasRecords := true }
  let rule ← if ← isNext "\x7b" then pure ⟨.all, some (← block fuel)⟩
    else
      let first ← term fuel false
      let selection ← if ← takes "," then pure (.range first (← term fuel false)) else pure (.matching first)
      if ← isNext "\x7b" then pure ⟨selection, some (← block fuel)⟩
      else
        separator
        pure ⟨selection, none⟩
  modify fun draft => { draft with hasRecords := false }
  return rule

def items : Nat → Reading (List Item)
  | 0 => refuse
  | fuel + 1 => do
    match (← peek).token with
    | .textEnd => return []
    | .sign "function" =>
      advance
      let first ← function fuel
      return .function first :: (← items fuel)
    | _ =>
      let first ← rule fuel
      return .rule first :: (← items fuel)

/-! ### Which names are arrays -/

/-- The names known to be arrays: those of the program, and the parameters of
functions by their places. -/
structure Arrays where
  ofProgram : List Bytes
  ofFunctions : List (Bytes × Nat)

namespace Arrays

def has (arrays : Arrays) (scope : Option Bytes) : Name → Bool
  | .ofProgram name => arrays.ofProgram.elem name
  | .ofFunction index => scope.any fun function => arrays.ofFunctions.contains (function, index)

def add (arrays : Arrays) (scope : Option Bytes) : Name → Arrays
  | .ofProgram name => { arrays with ofProgram := name :: arrays.ofProgram }
  | .ofFunction index => { arrays with ofFunctions := ((scope.getD []), index) :: arrays.ofFunctions }

/-- What is handed over is an array here when it is one there. -/
def spread (arrays : Arrays) (handed : Handed) : Arrays :=
  let parameter : Name := .ofFunction handed.position
  let function := some handed.function
  match arrays.has function parameter, arrays.has handed.scope handed.name with
  | true, false => arrays.add handed.scope handed.name
  | false, true => arrays.add function parameter
  | _, _ => arrays

/-- Spread what is known until nothing is left to learn. -/
def settle (handed : List Handed) : Nat → Arrays → Arrays
  | 0, arrays => arrays
  | fuel + 1, arrays => settle handed fuel (handed.foldl spread arrays)

end Arrays

/-- The arrays that hold something from the start. -/
def givenArrays : List Bytes := [utf8 "ENVIRON", utf8 "ARGV"]

/-- Read a whole program. -/
def program (lexemes : List Lexeme) : Except Fault Program := do
  let fuel := 40 * lexemes.length + 40
  let (items, draft) ← (items fuel).run {
    lexemes
    scope := none
    parameters := []
    known := []
    calls := []
    uses := givenArrays.map (.ofProgram ·, true)
    handed := []
    loops := 0
    hasRecords := false }
  let functions := items.filterMap fun
    | .function function => some function
    | .rule _ => none
  for (line, name, count) in draft.calls.reverse do
    match functions.find? (·.name == name) with
    | none => throw (.undefinedFunction ((lexemes.getLast?.map (·.line)).getD 1) name)
    | some function => if count > function.parameters.length then throw (.manyArguments line name)
  let arrays : Arrays := {
    ofProgram := draft.uses.filterMap fun (name, isArray) => match name, isArray with
      | .ofProgram name, true => some name
      | _, _ => none
    ofFunctions := functions.flatMap fun function => function.arrays.map (function.name, ·) }
  let arrays := arrays.settle draft.handed (draft.handed.length + 1)
  return {
    rules := items.filterMap fun
      | .rule rule => some rule
      | .function _ => none
    functions := functions.map fun function => { function with
      arrays := (List.range function.parameters.length).filter fun index =>
        arrays.ofFunctions.contains (function.name, index) }
    arrays := arrays.ofProgram.eraseDups }

end Reading

/-- The program that a text stands for. -/
def Program.ofText (text : Bytes) : Except Fault Program := Reading.program (Scan.lexemes text)

end ExitParity.Awk
