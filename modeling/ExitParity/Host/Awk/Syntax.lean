import ExitParity.Host.Expression

/-! Programs of patterns and actions for the records of a text. -/

namespace ExitParity.Awk

/-- A variable: one of the whole program, or one of a function by its place. -/
inductive Name where
  | ofProgram (name : Bytes)
  | ofFunction (index : Nat)
  deriving DecidableEq

inductive Operation where
  | add
  | subtract
  | multiply
  | divide
  | remainder
  | power
  deriving DecidableEq

inductive Relation where
  | equal
  | unequal
  | less
  | atMost
  | greater
  | atLeast
  deriving DecidableEq

/-- What the language brings along. -/
inductive Builtin where
  | arcTangent
  | close
  | cosine
  | exponential
  | flush
  | substituteAll
  | index
  | integer
  | length
  | logarithm
  | match_
  | timeOf
  | random
  | sine
  | split
  | format
  | squareRoot
  | seed
  | timeText
  | substitute
  | substring
  | system
  | now
  | lower
  | upper
  deriving DecidableEq

mutual

/-- What holds a value. -/
inductive Place where
  | variable_ (name : Name)
  | element (array : Name) (subscripts : List Term)
  | field (number : Term)

/-- An expression. -/
inductive Term where
  | number (value : Float)
  | text (bytes : Bytes)
  | pattern (expression : Expression)
  | read (place : Place)
  | assign (place : Place) (operation : Option Operation) (value : Term)
  | increment (place : Place) (decrease before : Bool)
  | choice (condition yes no : Term)
  | both (first second : Term)
  | either (first second : Term)
  | contains (array : Name) (subscripts : List Term)
  | matching (negated : Bool) (text pattern : Term)
  | compare (relation : Relation) (first second : Term)
  | join (first second : Term)
  | compute (operation : Operation) (first second : Term)
  | not (value : Term)
  | negate (value : Term)
  | affirm (value : Term)
  | call (function : Bytes) (arguments : List Term)
  | builtin (builtin : Builtin) (arguments : List Term)
  | nextRecord (target : Option Place)
  | lineOfFile (target : Option Place) (file : Term)
  | lineOfCommand (target : Option Place) (command : Term)

end

/-- Where output goes. -/
inductive Target where
  | overwrite (file : Term)
  | append (file : Term)
  | command (command : Term)

inductive Statement where
  | evaluate (term : Term)
  | print (terms : List Term) (target : Option Target)
  | format (terms : List Term) (target : Option Target)
  | block (statements : List Statement)
  | if_ (condition : Term) (yes : Statement) (no : Option Statement)
  | while_ (condition : Term) (body : Statement)
  | doWhile (body : Statement) (condition : Term)
  | for_ (start : Option Statement) (condition : Option Term) (step : Option Statement) (body : Statement)
  | forEach (variable_ : Place) (array : Name) (body : Statement)
  | break_
  | continue_
  | next
  | nextFile
  | exit (code : Option Term)
  | return_ (value : Option Term)
  | delete (array : Name) (subscripts : Option (List Term))

/-- The records that an action is for. -/
inductive Selection where
  | begin_
  | end_
  | all
  | matching (term : Term)
  | range (first last : Term)

structure Rule where
  selection : Selection
  /-- Without an action a record is printed. -/
  action : Option (List Statement)

structure Function where
  name : Bytes
  parameters : List Bytes
  body : List Statement
  /-- The places of the parameters that are arrays. -/
  arrays : List Nat

structure Program where
  rules : List Rule
  functions : List Function
  /-- The names of the whole program's arrays. -/
  arrays : List Bytes

/-- Why a text is no program. -/
inductive Fault where
  | unexpected (line : Nat) (near : Bytes)
  | missingParenthesis (line : Nat) (near : Bytes)
  | missingBrace (line : Nat)
  | strayBrace (line : Nat)
  | strayParenthesis (line : Nat)
  | runawayText (line : Nat) (start : Bytes)
  | runawayPattern (line : Nat) (start : Bytes)
  | unexpectedLetter (line : Nat) (letter : UInt8)
  | pattern (line : Nat) (reason : String) (text : Bytes)
  | undefinedFunction (line : Nat) (name : Bytes)
  | illegalArray (line : Nat) (name : Bytes)
  | illegalVariable (line : Nat) (name : Bytes)
  | duplicateParameter (line : Nat) (name : Bytes)
  | manyArguments (line : Nat) (name : Bytes)
  | wrongArguments (line : Nat) (name : Bytes)
  | noArguments (line : Nat) (name : Bytes)
  | strayReturn (line : Nat)
  | strayNext (line : Nat)
  | strayBreak (line : Nat)
  | strayContinue (line : Nat)

/-- The messages of a fault, each for a line of its own. -/
def Fault.messages : Fault → List Bytes
  | .unexpected line near => [at_ line ++ utf8 "syntax error at or near " ++ near]
  | .missingParenthesis line near => [at_ line ++ utf8 "missing ) near " ++ near]
  | .missingBrace line => [at_ line ++ utf8 "missing \x7d near end of file"]
  | .strayBrace line => [at_ line ++ utf8 "extra '\x7d'", at_ line ++ utf8 "syntax error at or near end of line"]
  | .strayParenthesis line => [at_ line ++ utf8 "extra ')'"]
  | .runawayText line start => [at_ line ++ utf8 "runaway string constant " ++ start ++ utf8 " ..."]
  | .runawayPattern line start => [at_ line ++ utf8 "runaway regular expression " ++ start ++ utf8 " ..."]
  | .unexpectedLetter line letter => [utf8 s!"{line}: unexpected character '" ++ letter :: utf8 "'"]
  | .pattern line reason text =>
    [at_ line ++ utf8 s!"regular expression compile failed ({reason})\n" ++ text]
  | .undefinedFunction line name => [at_ line ++ utf8 "function " ++ name ++ utf8 " never defined"]
  | .illegalArray line name => [at_ line ++ utf8 "illegal reference to array " ++ name]
  | .illegalVariable line name => [at_ line ++ utf8 "illegal reference to variable " ++ name]
  | .duplicateParameter line name => [at_ line ++ name ++ utf8 " is duplicated in argument list"]
  | .manyArguments line name => [at_ line ++ utf8 "too many arguments in call to " ++ name]
  | .wrongArguments line name => [at_ line ++ utf8 "wrong number of arguments in call to " ++ name]
  | .noArguments line name => [at_ line ++ utf8 "no arguments in call to " ++ name]
  | .strayReturn line => [at_ line ++ utf8 "return outside function body"]
  | .strayNext line => [at_ line ++ utf8 "improper use of next"]
  | .strayBreak line => [at_ line ++ utf8 "break statement outside of loop"]
  | .strayContinue line => [at_ line ++ utf8 "continue statement outside of loop"]
where
  at_ (line : Nat) : Bytes := utf8 s!"line {line}: "

end ExitParity.Awk
