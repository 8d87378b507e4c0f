import ExitParity.Bytes

namespace ExitParity.Shell

/-- How much of the language is understood: its core, or also what many shells
add to it. -/
inductive Dialect where
  | core
  | extended
  deriving DecidableEq

/-- How the value behind an operator takes the place of a parameter's own. -/
inductive Substitute where
  | whenMissing
  | whenPresent
  | assigned
  | complaint
  deriving DecidableEq

/-- What a file is opened for. -/
inductive Access where
  | read
  | write
  | overwrite
  | append
  | readWrite
  deriving DecidableEq

/-- What follows the commands behind a pattern that matched. -/
inductive Follow where
  | nothing
  /-- The next commands, whatever their patterns. -/
  | commands
  /-- The next commands with a pattern that matches. -/
  | patterns
  deriving DecidableEq

mutual

/-- A part of a word. What is quoted is neither split nor a pattern. -/
inductive Part where
  | literal (bytes : Bytes) (quoted : Bool)
  | parameter (name : Bytes) (use : Use) (quoted : Bool)
  | output (script : Command) (quoted : Bool)
  | arithmetic (expression : List Part) (quoted : Bool)
  /-- An element of a list, or all of them. -/
  | element (list : Bytes) (index : List Part) (use : Use) (quoted : Bool)
  /-- A path to what a script prints or reads. -/
  | channel (script : Command) (isRead : Bool)

/-- What is made of a parameter. With a colon an empty value counts as none. -/
inductive Use where
  | value
  | length
  | replaced (substitute : Substitute) (colon : Bool) (word : List Part)
  | trimmed (fromEnd longest : Bool) (pattern : List Part)
  /-- The bytes from an offset on, at most so many. -/
  | part (offset : List Part) (length : Option (List Part))
  /-- What matches, the first time or always, gives way to something else. -/
  | exchanged (all : Bool) (pattern replacement : List Part)
  | recased (upper all : Bool)
  /-- The value of the parameter that is named. -/
  | indirect
  /-- The indices of a list. -/
  | indices
  /-- The names of the variables that begin like the parameter. -/
  | names
  /-- The value as the shell would read it back. -/
  | quoted
  /-- Something that no parameter can be used for, as it is written. -/
  | malformed (text : Bytes)

/-- A change of what a descriptor of a command stands for. -/
inductive Redirect where
  | file (descriptor : Nat) (access : Access) (word : List Part)
  | copy (descriptor : Nat) (word : List Part)
  /-- The text of a document that follows the line, by its number. -/
  | document (descriptor number : Nat)
  | line (descriptor : Nat) (word : List Part)

/-- A condition on words. -/
inductive Test where
  | unary (operator : Bytes) (word : List Part)
  | binary (operator : Bytes) (first second : List Part)
  | not (test : Test)
  | both (first second : Test)
  | either (first second : Test)

/-- A value for a variable, or values for the elements of a list; they can be
added to what is there. -/
inductive Assignment where
  | one (name : Bytes) (index : Option (List Part)) (adds : Bool) (value : List Part)
  | all (list : Bytes) (adds : Bool) (values : List (List Part))

inductive Command where
  | nothing
  | simple (line : Nat) (assignments : List Assignment) (words : List (List Part)) (redirects : List Redirect)
  | pipeline (commands : List Command) (background : Bool)
  | background (line : Nat) (body : Command) (redirects : List Redirect)
  | subshell (line : Nat) (body : Command) (redirects : List Redirect)
  | redirected (line : Nat) (body : Command) (redirects : List Redirect)
  | negated (body : Command)
  | sequence (first second : Command)
  | both (first second : Command)
  | either (first second : Command)
  | choose (condition accepted otherwise : Command)
  | loop (whileTrue : Bool) (condition body : Command)
  | each (line : Nat) (name : Bytes) (words : List (List Part)) (body : Command)
  /-- A loop over the values of three expressions: the first once, the second
  before each turn, the third after it. -/
  | count (line : Nat) (first condition next : List Part) (body : Command)
  | select (line : Nat) (word : List Part) (arms : List (List (List Part) × Command × Follow))
  | define (line : Nat) (name : Bytes) (body : Command)
  | compute (line : Nat) (expression : List Part)
  | check (line : Nat) (test : Test)
  | timed (body : Command)

end

abbrev Word := List Part

namespace Word

/-- The text of a word in which nothing is quoted or to be expanded. -/
def plain? : Word → Option Bytes
  | [] => some []
  | .literal bytes false :: rest => (plain? rest).map (bytes ++ ·)
  | _ => none

end Word

def isDigit (byte : UInt8) : Bool := 0x30 ≤ byte && byte ≤ 0x39

def isNameStart (byte : UInt8) : Bool :=
  byte == 0x5f || (0x41 ≤ byte && byte ≤ 0x5a) || (0x61 ≤ byte && byte ≤ 0x7a)

def isNameByte (byte : UInt8) : Bool := isNameStart byte || isDigit byte

/-- A name that a variable or a function can have. -/
def isName (bytes : Bytes) : Bool := bytes.head?.any isNameStart && bytes.all isNameByte

/-- The name of an element of a list, by its index. The first element goes by the
name of the list itself. -/
def elementName (list index : Bytes) : Bytes := if index == [0x30] then list else list ++ 0x5b :: index ++ [0x5d]

/-- The text up to the bracket that closes an index, and the text behind it. -/
def bracketed? : Nat → Bytes → Option (Bytes × Bytes)
  | _, [] => none
  | depth, byte :: rest =>
    if byte == 0x5d && depth == 0 then some ([], rest)
    else
      let depth := if byte == 0x5b then depth + 1 else if byte == 0x5d then depth - 1 else depth
      (bracketed? depth rest).map fun (index, rest) => (byte :: index, rest)

end ExitParity.Shell
