import ExitParity.Host.Expression

/-! Scripts that change a text line by line: their commands, and what can be
wrong with them. -/

namespace ExitParity.Editor

/-- What is looked for in a line. Without an expression it is what was looked
for last. -/
structure Search where
  manner : Manner
  expression : Option Expression

/-- A line of the input. -/
inductive Place where
  | line (number : Nat)
  | every (first step : Nat)
  | last
  | matching (search : Search)

/-- Where a range of lines stops. -/
inductive RangeStop where
  | at (place : Place)
  | after (count : Nat)
  | multiple (step : Nat)

/-- The lines that a command is for. -/
structure Selector where
  first : Option Place
  stop : Option RangeStop
  negated : Bool

/-- How letters are changed. -/
inductive Capitals where
  | kept
  | upper
  | lower
  deriving DecidableEq

/-- A piece of what is put in place of a match. -/
inductive Piece where
  | text (bytes : Bytes)
  | group (number : Nat)
  | style (capitals : Capitals)
  | styleNext (capitals : Capitals)

structure Substitution where
  search : Search
  pieces : List Piece
  /-- The first of the matches that is replaced, counted from one. -/
  number : Nat
  /-- Whether those behind it are replaced too. -/
  all : Bool
  prints : Bool
  /-- Whether the changed text is run as a command. -/
  runs : Bool
  output : Option Bytes

/-- When a jump is made. -/
inductive Jump where
  | always
  | afterChange
  | withoutChange
  deriving DecidableEq

inductive Order where
  | open_ (close : Nat)
  | pass
  | append (text : Bytes)
  | insert (text : Bytes)
  | change (text : Bytes)
  | jump (condition : Jump) (label : Bytes)
  | delete
  | deleteFirst
  | run (command : Bytes)
  | printName
  | printNumber
  | get
  | getMore
  | hold
  | holdMore
  | exchange
  | show_ (width : Option Nat)
  | next
  | nextMore
  | print
  | printFirst
  | quit (code : Nat)
  | quitSilently (code : Nat)
  | readFile (path : Bytes)
  | readLine (path : Bytes)
  | write (path : Bytes)
  | writeFirst (path : Bytes)
  | substitute (substitution : Substitution)
  | transliterate (pairs : List (Nat × Nat))
  | empty

structure Command where
  selector : Selector
  order : Order

/-- A script: its commands in one row, and the numbers of those that labels
stand in front of. -/
structure Script where
  commands : Array Command
  labels : List (Bytes × Nat)
  /-- The files that are written to. -/
  outputs : List Bytes
  quiet : Bool

/-- Where in a script something is wrong. -/
inductive Spot where
  | fragment (number letters : Nat)
  | file (name : Bytes) (line : Nat)

inductive Mistake where
  | unknownCommand (letter : UInt8)
  | missingCommand
  | extraText
  | unterminatedSubstitution
  | unterminatedTransliteration
  | unterminatedAddress
  | unknownOption
  | manyPrints
  | manyGlobals
  | manyNumbers
  | zeroNumber
  | badGroup (number : Nat)
  | unequalSets
  | strayClose
  | addressedClose
  | strayComma
  | oneAddress
  | addressedComment
  | addressedLabel
  | missingLabel
  | manyNegations
  | badLineZero
  | badFirstAddress
  | expectsText
  | missingFile
  | unclosed
  | nothingSearched
  | optionsOnNothing
  | expression (fault : ExpressionFault)

/-- A word between the marks that the messages of scripts put around it. -/
def marked (word : String) : Bytes := 0x60 :: utf8 word ++ [0x27]

def Mistake.message : Mistake → Bytes
  | .unknownCommand letter => utf8 "unknown command: " ++ 0x60 :: letter :: [0x27]
  | .missingCommand => utf8 "missing command"
  | .extraText => utf8 "extra characters after command"
  | .unterminatedSubstitution => utf8 "unterminated " ++ marked "s" ++ utf8 " command"
  | .unterminatedTransliteration => utf8 "unterminated " ++ marked "y" ++ utf8 " command"
  | .unterminatedAddress => utf8 "unterminated address regex"
  | .unknownOption => utf8 "unknown option to " ++ marked "s"
  | .manyPrints => utf8 "multiple " ++ marked "p" ++ utf8 " options to " ++ marked "s" ++ utf8 " command"
  | .manyGlobals => utf8 "multiple " ++ marked "g" ++ utf8 " options to " ++ marked "s" ++ utf8 " command"
  | .manyNumbers => utf8 "multiple number options to " ++ marked "s" ++ utf8 " command"
  | .zeroNumber => utf8 "number option to " ++ marked "s" ++ utf8 " command may not be zero"
  | .badGroup number => utf8 s!"invalid reference \\{number} on " ++ marked "s" ++ utf8 " command's RHS"
  | .unequalSets => utf8 "strings for " ++ marked "y" ++ utf8 " command are different lengths"
  | .strayClose => utf8 "unexpected " ++ marked "\x7d"
  | .addressedClose => marked "\x7d" ++ utf8 " doesn't want any addresses"
  | .strayComma => utf8 "unexpected " ++ marked ","
  | .oneAddress => utf8 "command only uses one address"
  | .addressedComment => utf8 "comments don't accept any addresses"
  | .addressedLabel => utf8 ": doesn't want any addresses"
  | .missingLabel => utf8 "\":\" lacks a label"
  | .manyNegations => utf8 "multiple " ++ marked "!" ++ utf8 "s"
  | .badLineZero => utf8 "invalid usage of line address 0"
  | .badFirstAddress => utf8 "invalid usage of +N or ~N as first address"
  | .expectsText => utf8 "expected \\ after " ++ marked "a" ++ utf8 ", " ++ marked "c" ++ utf8 " or " ++ marked "i"
  | .missingFile => utf8 "missing filename in r/R/w/W commands"
  | .unclosed => utf8 "unmatched " ++ marked "\x7b"
  | .nothingSearched => utf8 "no previous regular expression"
  | .optionsOnNothing => utf8 "cannot specify modifiers on empty regexp"
  | .expression fault => utf8 fault.message

/-- Why a text is no script. -/
inductive ScriptFault where
  | mistake (spot : Spot) (cause : Mistake)
  | unknownLabel (label : Bytes)

def Spot.text : Spot → Bytes
  | .fragment number letters => utf8 s!"-e expression #{number}, char {letters}"
  | .file name line => utf8 "file " ++ name ++ utf8 s!" line {line}"

def ScriptFault.message : ScriptFault → Bytes
  | .mistake spot cause => spot.text ++ utf8 ": " ++ cause.message
  | .unknownLabel label => utf8 "can't find label for jump to " ++ 0x60 :: label ++ [0x27]

end ExitParity.Editor
