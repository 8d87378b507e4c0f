import ExitParity.Host.Applets.Options
import ExitParity.Host.Printing

/-! What programs read: whole inputs, or line by line. -/

namespace ExitParity

namespace Bytes

/-- What stands before the first separator and what stands behind it. -/
def cutAt? (separator : UInt8) (bytes : Bytes) : Option (Bytes × Bytes) :=
  match bytes.span (· != separator) with
  | (before, _ :: after) => some (before, after)
  | (_, []) => none

/-- The lines of a text, without their ends. -/
def lines (separator : UInt8) (text : Bytes) : List Bytes :=
  let parts := text.foldr (fun byte parts =>
    if byte == separator then [] :: parts
    else match parts with
      | part :: parts => (byte :: part) :: parts
      | [] => [[byte]]) [[]]
  if parts.getLast? == some [] then parts.dropLast else parts

def unlines (lines : List Bytes) : Bytes := lines.flatMap (· ++ [0x0a])

end Bytes

/-- Why an input gave nothing. -/
inductive InputFault where
  | unopened (errno : Errno)
  | unread (errno : Errno)

def InputFault.errno : InputFault → Errno
  | .unopened errno | .unread errno => errno

/-- An input that is read bit by bit, with what was read too early. -/
structure Feed where
  descriptor : Nat
  waiting : Bytes
  ended : Bool

namespace Feed

def of (descriptor : Nat) : Feed := ⟨descriptor, [], false⟩

/-- How much is read at a time. -/
def pieceSize : Nat := 4096

end Feed

namespace Program

/-- The operand that stands for the program's own input. -/
def ownInput : Bytes := [0x2d]

/-- The names of the inputs, the program's own when there are none. -/
def inputs (operands : List Bytes) : List Bytes := if operands.isEmpty then [ownInput] else operands

/-- Open an input, and tell its descriptor. -/
def openInput (program : Program) (path : Bytes) : Deed (Except Errno Nat) := do
  if path == ownInput then return .ok 0 else program.openFile ⟨path⟩

def closeInput (program : Program) (path : Bytes) (descriptor : Nat) : Deed Unit := do
  if path != ownInput then program.close descriptor

/-- The bytes of an input. -/
def inputOf (program : Program) (path : Bytes) : Deed (Except InputFault Bytes) := do
  match ← program.openInput path with
  | .error errno => return .error (.unopened errno)
  | .ok descriptor =>
    let content ← program.readAll descriptor
    program.closeInput path descriptor
    return content.mapError .unread

/-- The bytes of an input. A fault is complained about with the input's name. -/
def plainInput (program : Program) (path : Bytes) : Deed (Option Bytes) := do
  match ← program.inputOf path with
  | .ok bytes => return some bytes
  | .error fault =>
    program.complainOf (Quoting.whenNeeded path) fault.errno
    return none

/-- The number of steps after which reading and printing are given up. -/
def endless : Nat := 1000000000

/-- The next line of a feed, with whether it had an end. -/
def nextLine (program : Program) (separator : UInt8) : Nat → Feed → Deed (Except Errno (Option (Bytes × Bool) × Feed))
  | 0, feed => return .ok (none, feed)
  | fuel + 1, feed => do
    match Bytes.cutAt? separator feed.waiting with
    | some (line, rest) => return .ok (some (line, true), { feed with waiting := rest })
    | none =>
      if feed.ended then
        let line := if feed.waiting.isEmpty then none else some (feed.waiting, false)
        return .ok (line, { feed with waiting := [] })
      match ← program.read feed.descriptor Feed.pieceSize with
      | .error errno => return .error errno
      | .ok piece =>
        if piece.isEmpty then program.nextLine separator fuel { feed with ended := true }
        else program.nextLine separator fuel { feed with waiting := feed.waiting ++ piece }

/-- Give back what was read too early, where that can be done. -/
def giveBack (program : Program) (feed : Feed) : Deed Unit :=
  .act fun machine => ((), machine.unread program.process feed.descriptor feed.waiting.length)

/-- Read an input in pieces and go on with each. What is done with a piece tells
whether there is to be another one. -/
def eachPiece {σ : Type} (program : Program) (descriptor : Nat) (step : σ → Bytes → Deed (Option σ)) :
    Nat → σ → Deed (Except Errno σ)
  | 0, state => return .ok state
  | fuel + 1, state => do
    match ← program.read descriptor pieceSize with
    | .error errno => return .error errno
    | .ok piece =>
      if piece.isEmpty then return .ok state
      match ← step state piece with
      | some state => program.eachPiece descriptor step fuel state
      | none => return .ok state

/-- Whether the program prints into a file that it reads. At the end of the
file this does no harm. -/
def readsItsOutput (program : Program) (atEndToo : Bool) (descriptor : Nat) : Deed Bool :=
  .look fun machine =>
    match machine.file? program.process descriptor, machine.file? program.process 1 with
    | some { handle := .store source offset _, .. }, some { handle := .store target _ _, writable := true, .. } =>
      source == target && (atEndToo || match machine.tree.nodes[source]? with
        | some (.file _ (.data bytes)) => !(bytes.drop offset).isEmpty
        | _ => false)
    | _, _ => false

/-- A number such as `12`, `3k` or `1MB`: powers of 1024 or of 1000. -/
def amount? (text : Bytes) : Option Nat :=
  let found := text.takeWhile Printing.isDecimal
  let unit := Utf8.display (text.drop found.length)
  let value := Printing.digits 10 found
  if found.isEmpty then none
  else match unit with
    | "" | "c" => some value
    | "w" => some (value * 2)
    | "b" => some (value * 512)
    | "k" | "K" | "KiB" => some (value * 1024)
    | "kB" | "KB" => some (value * 1000)
    | "M" | "MiB" => some (value * 1024 ^ 2)
    | "MB" => some (value * 1000 ^ 2)
    | "G" | "GiB" => some (value * 1024 ^ 3)
    | "GB" => some (value * 1000 ^ 3)
    | "T" | "TiB" => some (value * 1024 ^ 4)
    | "TB" => some (value * 1000 ^ 4)
    | _ => none

/-- A text filled up with blanks in front. -/
def rightAligned (width : Nat) (text : Bytes) : Bytes := List.replicate (width - text.length) 0x20 ++ text

def numeral (number : Nat) : Bytes := utf8 (toString number)

/-- Cut a text behind every separator. -/
def records (separator : UInt8) (text : Bytes) : List Bytes :=
  let parts := Bytes.lines separator text
  if text.getLast? == some separator then parts.map (· ++ [separator])
  else parts.dropLast.map (· ++ [separator]) ++ parts.getLast?.toList

/-- Do something with the text of each input, a fault complained about. -/
def eachText (program : Program) (paths : List Bytes) (step : Bytes → Deed Unit) : Deed Nat :=
  forEach (fun path => do
    match ← program.plainInput path with
    | some text =>
      step text
      return true
    | none => return false) paths

/-- A number option, or a complaint. -/
def countOption (program : Program) (options : Options) (key what : String) (usual : Nat) : Deed Nat := do
  match options.value? key with
  | none => return usual
  | some text =>
    if !text.isEmpty && text.all Printing.isDecimal then return Printing.digits 10 text
    else
      program.complain (utf8 s!"invalid {what}: " ++ Quoting.curly text)
      program.exit 1

end Program
end ExitParity
