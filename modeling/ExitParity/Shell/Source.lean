import ExitParity.Shell.Syntax
import ExitParity.Utf8

namespace ExitParity.Shell

/-- What stands between and inside commands: a word, a redirection, a sign, or
the end of a line or of all. -/
inductive Lexeme where
  | endOfText
  | newline
  | redirection
  | word
  | sign (text : String)
  deriving DecidableEq

namespace Lexeme

/-- What a lexeme is called in a complaint. -/
def name : Lexeme → String
  | .endOfText => "end of file"
  | .newline => "newline"
  | .redirection => "redirection"
  | .word => "word"
  | .sign text => s!"\"{text}\""

/-- The words that are signs where a command begins. -/
def keywords : List (Bytes × String) :=
  ["!", "case", "do", "done", "elif", "else", "esac", "fi", "for", "if", "in", "then", "until", "while", "\x7b",
    "\x7d"].map fun keyword => (utf8 keyword, keyword)

/-- The words that are signs in the extended language only. -/
def addedKeywords : List (Bytes × String) := ["[[", "function", "time"].map fun keyword => (utf8 keyword, keyword)

/-- The sign that a word is where a command begins. -/
def keyword? (dialect : Dialect) (word : Bytes) : Option String :=
  let known := match dialect with
    | .core => keywords
    | .extended => keywords ++ addedKeywords
  (known.find? (·.1 == word)).map (·.2)

def closers : List String := [")", ";;", ";&", ";;&", "do", "done", "elif", "else", "esac", "fi", "then", "\x7d"]

/-- Whether a list of commands ends before a lexeme. -/
def closes : Lexeme → Bool
  | .endOfText => true
  | .sign text => closers.contains text
  | _ => false

end Lexeme

/-- What the next lexeme is looked at for: newlines that are to be passed over,
keywords, aliases, or the mark at which a document ends. -/
structure Checks where
  newlines : Bool
  keywords : Bool
  aliases : Bool
  mark : Bool

def Checks.none : Checks := ⟨false, false, false, false⟩

/-- A document that is still to be read from behind the line. -/
structure Awaited where
  number : Nat
  line : Nat
  mark : Bytes
  expands : Bool
  stripsTabs : Bool

/-- A text being read, with the lexeme read last. -/
structure Source where
  dialect : Dialect
  text : Bytes
  line : Nat
  lexeme : Lexeme
  /-- Whether that lexeme is to be read again. -/
  pushedBack : Bool
  word : Word
  redirect : Redirect
  /-- Whether the redirection is also one of what complaints are written to. -/
  isDoubled : Bool
  stripsTabs : Bool
  checks : Checks
  awaited : List Awaited
  documents : List (Nat × Word)
  /-- The documents that the text ends in, by the line before them and the mark. -/
  unfinished : List (Nat × Bytes)
  /-- The line before the document that is being read. -/
  documentLine : Nat
  nextDocument : Nat
  aliases : List (Bytes × Bytes)
  /-- The aliases put in place, with the length of the text behind each. -/
  active : List (Bytes × Nat)
  /-- What complaints call the text, if anything. -/
  place : String
  /-- Whether the next line is carried out behind one that was given up. -/
  goesOn : Bool
  /-- Whether its lines can be shown as they are read. -/
  isShown : Bool

namespace Source

def ofText (text : Bytes) (nextDocument : Nat) : Source where
  dialect := .core
  text := text
  line := 1
  lexeme := .newline
  pushedBack := false
  word := []
  redirect := .document 0 0
  isDoubled := false
  stripsTabs := false
  checks := .none
  awaited := []
  documents := []
  unfinished := []
  documentLine := 0
  nextDocument := nextDocument
  aliases := []
  active := []
  place := ""
  goesOn := false
  isShown := false

/-- A text that is carried out. In the extended language its last line is ended. -/
def ofScript (dialect : Dialect) (text : Bytes) : Source :=
  let isOpen := dialect == .extended && !text.isEmpty && text.getLast? != some 0x0a
  .ofText (if isOpen then text ++ [0x0a] else text) 0

/-- Whether the end of the text was met by the last command. -/
def isAtEnd (source : Source) : Bool := source.pushedBack && source.lexeme == .endOfText

end Source

/-- Reading fails with a complaint. -/
abbrev Reading := ExceptT String (StateM Source)

namespace Reading

/-- Take the next byte as it is. -/
def take : Reading (Option UInt8) := do
  match (← get).text with
  | [] => return none
  | byte :: rest =>
    modify fun source => { source with text := rest }
    return some byte

/-- Drop the line ends at the beginning that are hidden by a backslash. -/
def joined : Bytes → Nat → Bytes × Nat
  | 0x5c :: 0x0a :: rest, line => joined rest (line + 1)
  | text, line => (text, line)

/-- Look at the next byte, hidden line ends apart. -/
def peek : Reading (Option UInt8) := do
  modify fun source =>
    let (text, line) := joined source.text source.line
    { source with text, line }
  return (← get).text.head?

def skip : Reading Unit := modify fun source => { source with text := source.text.drop 1 }

/-- Take the next byte, hidden line ends apart. -/
def takeJoined : Reading (Option UInt8) := do
  let byte ← peek
  skip
  return byte

/-- Take the next byte if it is the given one. -/
def accept (byte : UInt8) : Reading Bool := do
  if (← peek) == some byte then
    skip
    return true
  else return false

def endLine : Reading Unit := modify fun source => { source with line := source.line + 1 }

/-- Take bytes while they are of a kind. -/
def takeWhile (kind : UInt8 → Bool) : Nat → Reading Bytes
  | 0 => return []
  | fuel + 1 => do
    match ← peek with
    | some byte =>
      if kind byte then
        skip
        return byte :: (← takeWhile kind fuel)
      else return []
    | none => return []

/-- The rest of the text counts as a bound on how often something can be read. -/
def bound : Reading Nat := return (← get).text.length + 1

def look (checks : Checks) : Reading Unit := modify fun source => { source with checks }

/-- Let the last lexeme be read again. -/
def pushBack : Reading Unit := modify fun source => { source with pushedBack := true }

/-- Note that a document goes on up to the end of the text. -/
def noteUnfinished (mark : Bytes) : Reading Unit :=
  modify fun source => { source with unfinished := source.unfinished ++ [(source.documentLine, mark)] }

/-- What the last lexeme is called in a complaint in the extended language. -/
def addedName (source : Source) : String :=
  match source.lexeme with
  | .endOfText => ": unexpected end of file"
  | .newline => " near unexpected token \x60newline'"
  | .redirection => " near unexpected token \x60<'"
  | .sign text => s!" near unexpected token \x60{text}'"
  | .word => s!" near unexpected token \x60{Utf8.display ((Word.plain? source.word).getD [])}'"

/-- Complain about the last lexeme. -/
def unexpected {α : Type} (expected : Option Lexeme) : Reading α := do
  let source ← get
  if source.dialect == .extended then
    if source.lexeme == .newline then set { source with line := source.line - 1 }
    throw (addedName source)
  let found := source.lexeme.name
  match expected with
  | some expected => throw s!"{found} unexpected (expecting {expected.name})"
  | none => throw s!"{found} unexpected"

end Reading

namespace Word

/-- Add a byte to parts that are kept in reverse. -/
def push (byte : UInt8) (quoted : Bool) : Word → Word
  | .literal bytes same :: rest =>
    if same == quoted then .literal (byte :: bytes) same :: rest
    else .literal [byte] quoted :: .literal bytes same :: rest
  | parts => .literal [byte] quoted :: parts

/-- Add parts in their order to parts that are kept in reverse. -/
def pushAll (parts : List Part) (before : Word) : Word :=
  parts.foldl (fun before part =>
    match part with
    | .literal bytes quoted =>
      if bytes.isEmpty then .literal [] quoted :: before else bytes.foldl (fun before byte => push byte quoted before) before
    | part => part :: before) before

/-- Parts that were kept in reverse. -/
def finished (before : Word) : Word :=
  before.reverse.map fun
    | .literal bytes quoted => .literal bytes.reverse quoted
    | part => part

/-- The parts before and behind the first sign among bytes that are quoted or not. -/
def cutAt (sign : UInt8) (quoted : Bool) : Word → Option (Word × Word)
  | [] => none
  | .literal bytes same :: rest =>
    let before := bytes.takeWhile (· != sign)
    if same == quoted && before.length < bytes.length then
      some ([.literal before same], .literal (bytes.drop (before.length + 1)) same :: rest)
    else (cutAt sign quoted rest).map fun (first, second) => (.literal bytes same :: first, second)
  | part :: rest => (cutAt sign quoted rest).map fun (first, second) => (part :: first, second)

/-- The line ends among the bytes of a word. -/
def lineCount (word : Word) : Nat :=
  (word.map fun
    | .literal bytes _ => bytes.count 0x0a
    | _ => 0).foldl (· + ·) 0

/-- Whether a part of a word is quoted. -/
def isQuoted (word : Word) : Bool :=
  word.any fun
    | .literal _ quoted => quoted
    | _ => false

end Word
end ExitParity.Shell
