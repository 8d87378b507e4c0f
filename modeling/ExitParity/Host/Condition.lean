import ExitParity.Host.Printing
import ExitParity.Host.Quoting
import ExitParity.Host.Tree

/-! The conditions that `test` decides. -/

namespace ExitParity.Condition

/-- What a word of a condition is. -/
inductive Sign where
  | none
  | not
  | open_
  | close
  | and
  | or
  | unary (operator : String)
  | binary (operator : String)
  deriving DecidableEq

def unaryOperators : List String :=
  ["-r", "-w", "-x", "-e", "-f", "-d", "-c", "-b", "-p", "-u", "-g", "-k", "-s", "-t", "-z", "-n", "-h", "-L", "-O", "-G",
    "-S"]

def binaryOperators : List String :=
  ["=", "!=", "<", ">", "-eq", "-ne", "-ge", "-gt", "-le", "-lt", "-nt", "-ot", "-ef"]

/-- What conditions are about, and whether they are put in the core of the
language only. -/
structure Context where
  tree : FileTree
  isCore : Bool

def signOf (isCore : Bool) (word : Bytes) : Sign :=
  let text := Utf8.display word
  if text == "!" then .not
  else if text == "(" then .open_
  else if text == ")" then .close
  else if text == "-a" then .and
  else if text == "-o" then .or
  else if unaryOperators.contains text then .unary text
  else if binaryOperators.contains text || (!isCore && text == "==") then .binary text
  else .none

def isBinary (isCore : Bool) (word : Bytes) : Bool :=
  match signOf isCore word with
  | .binary _ => true
  | _ => false

/-- What the first word is where it stands. An operator with nothing to work
on is a plain word. -/
def lead (isCore : Bool) : List Bytes → Option Sign
  | [] => Option.none
  | word :: rest =>
    let isOperand := match rest with
      | [] => true
      | [_] => false
      | next :: _ => isBinary isCore next
    match signOf isCore word with
    | .unary operator => some (if isOperand then .none else .unary operator)
    | .open_ => some (if rest.isEmpty then .none else .open_)
    | sign => some sign

/-- A whole number between blanks. -/
def integer? (text : Bytes) : Option Int :=
  let text := text.dropWhile Printing.isSpace
  let (negative, unsigned) := match text with
    | 0x2d :: rest => (true, rest)
    | 0x2b :: rest => (false, rest)
    | _ => (false, text)
  let found := unsigned.takeWhile Printing.isDecimal
  if found.isEmpty || !(unsigned.drop found.length).all Printing.isSpace then Option.none
  else some (if negative then -(Printing.digits 10 found : Int) else Printing.digits 10 found)

/-- Why words are no condition. -/
inductive Complaint where
  | notNumber (word : Bytes)
  | unclosed
  | lacksOperand (operator : Bytes)
  /-- A word where the condition should end, with the one before it and the
  number of all words. -/
  | surplus (former word : Bytes) (count : Nat)

namespace Complaint

/-- The complaint in the words of a shell. -/
def shellMessage : Complaint → Bytes
  | .notNumber word => utf8 "Illegal number: " ++ word
  | .unclosed => utf8 "closing paren expected"
  | .lacksOperand operator => operator ++ utf8 ": argument expected"
  | .surplus former _ _ => former ++ utf8 ": unexpected operator"

/-- The complaint in the words of a shell of the extended language. -/
def addedMessage : Complaint → Bytes
  | .notNumber word => word ++ utf8 ": integer expression expected"
  | .unclosed => utf8 "\x60)' expected"
  | .lacksOperand _ => utf8 "argument expected"
  | .surplus former word count =>
    if count == 2 then former ++ utf8 ": unary operator expected"
    else if count == 3 then word ++ utf8 ": binary operator expected"
    else utf8 "too many arguments"

/-- The complaint in the words of the system's own program. -/
def systemMessage : Complaint → Bytes
  | .notNumber word => utf8 "invalid integer " ++ Quoting.curly word
  | .unclosed => Quoting.curly (utf8 ")") ++ utf8 " expected"
  | .lacksOperand operator => utf8 "missing argument after " ++ Quoting.curly operator
  | .surplus former word count =>
    if count == 2 then Quoting.curly former ++ utf8 ": unary operator expected"
    else if count == 3 then Quoting.curly word ++ utf8 ": binary operator expected"
    else utf8 "extra argument " ++ Quoting.curly word

end Complaint

def number (text : Bytes) : Except Complaint Int :=
  match integer? text with
  | some value => .ok value
  | Option.none => .error (.notNumber text)

def permits (allows : Nat → Bool) : Option Node → Bool
  | some (.file mode _) | some (.directory mode ..) | some (.pipe mode _) => allows mode
  | some _ => true
  | Option.none => false

/-- Decide a condition on one word. -/
def unary (tree : FileTree) (operator : String) (word : Bytes) : Bool :=
  let node := (tree.node ⟨word⟩).toOption
  let entry := (tree.entryNode ⟨word⟩).toOption
  match operator with
  | "-n" => !word.isEmpty
  | "-z" => word.isEmpty
  | "-e" | "-O" | "-G" => node.isSome
  | "-r" => permits FileTree.mayRead node
  | "-w" => permits FileTree.mayWrite node
  | "-x" => match node with
    | some (.device _) => false
    | node => permits FileTree.mayEnter node
  | "-f" => match node with
    | some (.file ..) => true
    | _ => false
  | "-d" => match node with
    | some (.directory ..) => true
    | _ => false
  | "-c" => match node with
    | some (.device _) => true
    | _ => false
  | "-p" => match node with
    | some (.pipe ..) => true
    | _ => false
  | "-s" => match node with
    | some (.file _ (.data bytes)) => !bytes.isEmpty
    | some (.file ..) | some (.directory ..) => true
    | _ => false
  | "-h" | "-L" => match entry with
    | some (.link _) => true
    | _ => false
  | _ => false

/-- Decide a condition on two words. -/
def binary (tree : FileTree) (operator : String) (first second : Bytes) : Except Complaint Bool := do
  let compare (relation : Int → Int → Bool) : Except Complaint Bool := do
    return relation (← number first) (← number second)
  match operator with
  | "=" | "==" => return first == second
  | "!=" => return first != second
  | "<" => return Bytes.precedes first second && first != second
  | ">" => return Bytes.precedes second first && first != second
  | "-eq" => compare (· == ·)
  | "-ne" => compare (· != ·)
  | "-lt" => compare (· < ·)
  | "-le" => compare (· ≤ ·)
  | "-gt" => compare (· > ·)
  | "-ge" => compare (· ≥ ·)
  | "-nt" => return match tree.number ⟨first⟩, tree.number ⟨second⟩ with
    | .ok one, .ok other => tree.timeOf one > tree.timeOf other
    | _, _ => false
  | "-ot" => return match tree.number ⟨first⟩, tree.number ⟨second⟩ with
    | .ok one, .ok other => tree.timeOf one < tree.timeOf other
    | _, _ => false
  | "-ef" => return match tree.number ⟨first⟩, tree.number ⟨second⟩ with
    | .ok one, .ok other => one == other
    | _, _ => false
  | _ => return false

mutual

/-- Conditions joined by `-o`, with the words left. -/
def disjunction (context : Context) : Nat → List Bytes → Except Complaint (Bool × List Bytes)
  | 0, words => .ok (false, words)
  | fuel + 1, words => do
    let (first, rest) ← conjunction context fuel words
    match lead context.isCore rest with
    | some .or =>
      let (second, rest) ← disjunction context fuel (rest.drop 1)
      return (first || second, rest)
    | _ => return (first, rest)

/-- Conditions joined by `-a`. -/
def conjunction (context : Context) : Nat → List Bytes → Except Complaint (Bool × List Bytes)
  | 0, words => .ok (false, words)
  | fuel + 1, words => do
    let (first, rest) ← negation context fuel words
    match lead context.isCore rest with
    | some .and =>
      let (second, rest) ← conjunction context fuel (rest.drop 1)
      return (first && second, rest)
    | _ => return (first, rest)

def negation (context : Context) : Nat → List Bytes → Except Complaint (Bool × List Bytes)
  | 0, words => .ok (false, words)
  | fuel + 1, words => do
    match lead context.isCore words with
    | some .not =>
      match words.drop 1 with
      | [] => return (true, [])
      | rest =>
        let (value, rest) ← negation context fuel rest
        return (!value, rest)
    | _ => primary context fuel words

def primary (context : Context) : Nat → List Bytes → Except Complaint (Bool × List Bytes)
  | 0, words => .ok (false, words)
  | fuel + 1, words => do
    match words with
    | [] => return (false, [])
    | word :: rest =>
      match lead context.isCore words with
      | some .open_ =>
        if lead context.isCore rest == some .close then return (false, rest.drop 1)
        let (value, rest) ← disjunction context fuel rest
        if lead context.isCore rest == some .close then return (value, rest.drop 1)
        else throw .unclosed
      | some (.unary operator) =>
        match rest with
        | [] => throw (.lacksOperand word)
        | operand :: rest => return (unary context.tree operator operand, rest)
      | _ =>
        match rest with
        | operator :: operands =>
          if isBinary context.isCore operator then
            match operands with
            | [] => throw (.lacksOperand operator)
            | second :: rest => return (← binary context.tree (Utf8.display operator) word second, rest)
          else return (!word.isEmpty, rest)
        | [] => return (!word.isEmpty, [])

end

/-- A whole condition of any length. -/
def whole (context : Context) (words : List Bytes) : Except Complaint Bool := do
  let (value, rest) ← disjunction context (4 * words.length + 8) words
  match rest with
  | [] => return value
  | word :: _ => throw (.surplus (words[words.length - rest.length - 1]?.getD []) word words.length)

/-- Decide a condition; three and four words are taken apart by their count. -/
def holds (context : Context) : Nat → List Bytes → Except Complaint Bool
  | 0, _ => .ok false
  | fuel + 1, words => do
    match words with
    | [] => return false
    | [first, operator, second] =>
      if isBinary context.isCore operator then binary context.tree (Utf8.display operator) first second
      else if first == utf8 "(" && second == utf8 ")" then whole context [operator]
      else if first == utf8 "!" then return !(← holds context fuel [operator, second])
      else whole context words
    | [first, second, third, fourth] =>
      if first == utf8 "(" && fourth == utf8 ")" then whole context [second, third]
      else if first == utf8 "!" then return !(← holds context fuel [second, third, fourth])
      else whole context words
    | _ => whole context words

end ExitParity.Condition
