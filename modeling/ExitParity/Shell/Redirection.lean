import ExitParity.Shell.Expand

namespace ExitParity.Shell

/-- A descriptor that was changed, with the one that keeps what it stood for. -/
structure Kept where
  descriptor : Nat
  copy : Option Nat

/-- The first descriptor that no redirection names. Programs are not handed it
or those behind it. -/
def firstInternal : Nat := 10

/-- The lowest free descriptor for the shell's own use. -/
def freeInternal (machine : Machine) (process : Nat) : Nat :=
  let used := ((machine.process? process).map (·.descriptors.map (·.1))).getD []
  ((List.range (used.length + 1)).map (· + firstInternal)).find? (!used.contains ·) |>.getD firstInternal

/-- Keep what a descriptor stands for behind a free one. -/
def keep (descriptor : Nat) : Run Kept :=
  perform fun program => .act fun machine =>
    match machine.opened? program.process descriptor with
    | none => (⟨descriptor, none⟩, machine)
    | some opened =>
      let copy := freeInternal machine program.process
      (⟨descriptor, some copy⟩, machine.setDescriptor program.process copy (some opened))

/-- Give descriptors back what they stood for, the last change first. -/
def giveBack (kept : List Kept) : Run Unit :=
  perform fun program => .act fun machine =>
    ((), kept.reverse.foldl (fun machine entry =>
      let opened := entry.copy.bind (machine.opened? program.process ·)
      let machine := machine.setDescriptor program.process entry.descriptor opened
      match entry.copy with
      | some copy => machine.setDescriptor program.process copy none
      | none => machine) machine)

/-- Close the descriptors that keep what was changed, for good. -/
def forget (kept : List Kept) : Run Unit :=
  perform fun program => .act fun machine =>
    ((), kept.foldl (fun machine entry =>
      match entry.copy with
      | some copy => machine.setDescriptor program.process copy none
      | none => machine) machine)

/-- How a fault with a file is worded. -/
def faultText (missing : String) (errno : Errno) : String :=
  if errno == .noEntry || errno == .notDirectory then missing else errno.text

def openingFault (dialect : Dialect) (path : Bytes) (creates : Bool) (errno : Errno) : Bytes :=
  if dialect == .extended then
    path ++ utf8 (": " ++ if errno == .exists_ then "cannot overwrite existing file" else errno.text)
  else utf8 (if creates then "cannot create " else "cannot open ") ++ path ++
    utf8 (": " ++ faultText (if creates then "Directory nonexistent" else "No such file") errno)

/-- What a redirection leads to once its word is expanded. -/
inductive Destination where
  | file (access : Access) (path : Bytes)
  | copyOf (descriptor : Nat)
  | nothing
  | text (number : Nat)
  | line (text : Bytes)
  /-- Nowhere: the word stands for more than one thing or for nothing. -/
  | unclear (word : Bytes)

/-- A word as it is written, as far as that is known. -/
def writtenForm (word : Word) : Bytes :=
  word.flatMap fun
    | .literal bytes _ => bytes
    | .parameter name _ _ => 0x24 :: name
    | _ => []

/-- The path that a word of the extended language stands for. -/
def pathOf? (outputs : Outputs) (word : Word) : Run (Option Bytes) := do
  match ← fieldsOf outputs word with
  | [path] => return some path
  | _ => return none

/-- Expand the word of a redirection. -/
def destination (outputs : Outputs) : Redirect → Run (List (Nat × Destination))
  | .file descriptor access word => do
    if (← get).isExtended then
      let path? ← pathOf? outputs word
      return [(descriptor, path?.elim (.unclear (writtenForm word)) (.file access))]
    return [(descriptor, .file access (← textOf outputs word))]
  | .document descriptor number => return [(descriptor, .text number)]
  | .line descriptor word => do return [(descriptor, .line (← textOf outputs word))]
  | .copy descriptor word => do
    let text ← textOf outputs word
    if text == [0x2d] then return [(descriptor, .nothing)]
    if (← get).isExtended then
      match number? text, text.getLast?, number? text.dropLast with
      | some source, _, _ => return [(descriptor, .copyOf source)]
      | none, some 0x2d, some source => return [(descriptor, .copyOf source), (source, .nothing)]
      | _, _, _ =>
        if descriptor == 1 && !text.isEmpty then return [(1, .file .write text), (2, .copyOf 1)]
        else return [(descriptor, .unclear (writtenForm word))]
    match text with
    | [digit] =>
      if isDigit digit then return [(descriptor, .copyOf (digit.toNat - 0x30))]
      else fail (utf8 "Syntax error: Bad fd number")
    | _ => fail (utf8 "Syntax error: Bad fd number")

/-- Expand the words of redirections. -/
def destinations (outputs : Outputs) (redirects : List Redirect) : Run (List (Nat × Destination)) := do
  return (← redirects.mapM (destination outputs)).flatten

/-- Open a file; the outcome is an open file's number. The end of a pipe is kept
open behind a descriptor of the shell's own, which is told too: it may have to
wait there for the other end. -/
def openPath (program : Program) (access : Access) (clobbers : Bool) (path : Bytes) :
    Deed (Except Errno (Nat × Option Nat)) := do
  let number := program.process
  let result ← .act fun machine =>
    let mode := 0o666 &&& (0o777 ^^^ (machine.maskOf number &&& 0o777))
    let result : Except Errno (Nat × Machine) :=
      match (Machine.ownDescriptor? ⟨path⟩).map (machine.opened? number) with
      | some none => .error .noEntry
      | some (some opened) => .ok (opened, machine)
      | none =>
        match access with
        | .read => machine.openForReading number ⟨path⟩
        | .append => machine.openForWriting number ⟨path⟩ ⟨true, false, false, mode⟩ true false
        | .readWrite => machine.openForWriting number ⟨path⟩ ⟨true, false, false, mode⟩ false true
        | .overwrite => machine.openForWriting number ⟨path⟩ ⟨true, false, true, mode⟩ false false
        | .write =>
          if clobbers then machine.openForWriting number ⟨path⟩ ⟨true, false, true, mode⟩ false false
          else match (machine.treeOf number).node ⟨path⟩ with
            | .ok (.file ..) => .error .exists_
            | .ok _ => machine.openForWriting number ⟨path⟩ ⟨false, false, false, mode⟩ false false
            | .error _ => machine.openForWriting number ⟨path⟩ ⟨true, true, false, mode⟩ false false
    match result with
    | .ok (opened, machine) =>
      if machine.isPipe opened then
        let place := freeInternal machine number
        (.ok (opened, some (place, machine.meeting? opened)), machine.setDescriptor number place (some opened))
      else (.ok (opened, none), machine)
    | .error errno => (Except.error errno, machine)
  match result with
  | .error errno => return .error errno
  | .ok (opened, none) => return .ok (opened, none)
  | .ok (opened, some (place, isMet?)) =>
    if let some isMet := isMet? then .wait isMet
    return .ok (opened, some place)

/-- Let a descriptor stand for an open file, or for nothing. -/
def connect (descriptor : Nat) (opened : Option Nat) : Run Unit :=
  perform fun program => .act fun machine => ((), machine.setDescriptor program.process descriptor opened)

/-- Make a change to a descriptor, or tell what is wrong. -/
def redirectTo (outputs : Outputs) (descriptor : Nat) : Destination → Run (Option Bytes)
  | .nothing => do
    connect descriptor none
    return none
  | .copyOf source => do
    if source == descriptor then return none
    match ← perform fun program => .look (·.opened? program.process source) with
    | none => return some (utf8 s!"{source}: {Errno.badDescriptor.text}")
    | some opened =>
      connect descriptor (some opened)
      return none
  | .text number => do
    let word := (((← get).documents.find? (·.1 == number)).map (·.2)).getD []
    handText descriptor (← textOf outputs word)
  | .line text => handText descriptor (text ++ [0x0a])
  | .unclear word => return some (word ++ utf8 ": ambiguous redirect")
  | .file access path => do
    let clobbers := !(← get).hasOption 'C'
    match ← perform fun program => openPath program access clobbers path with
    | .ok (opened, place?) =>
      connect descriptor (some opened)
      if let some place := place? then connect place none
      return none
    | .error errno => return some (openingFault (← get).dialect path (access != .read) errno)
where
  /-- Let a text be read behind a descriptor. -/
  handText (descriptor : Nat) (text : Bytes) : Run (Option Bytes) := do
    let opened ← perform fun _ => .act fun machine =>
      let ((reading, _), machine) := machine.makePipe text
      (reading, machine)
    connect descriptor (some opened)
    return none

/-- Make changes in order, and keep what the descriptors stood for. The first
change that fails is complained about, and none behind it is made. -/
def redirectAll (outputs : Outputs) (keeps : Bool) : List (Nat × Destination) → List Kept → Run (Bool × List Kept)
  | [], kept => return (true, kept)
  | (descriptor, destination) :: rest, kept => do
    let kept ←
      if !keeps || kept.any (·.descriptor == descriptor) then pure kept
      else pure (kept ++ [← keep descriptor])
    match ← redirectTo outputs descriptor destination with
    | none => redirectAll outputs keeps rest kept
    | some fault =>
      complain fault
      return (false, kept)

/-- The status of a command whose redirections failed. -/
def redirectionStatus (shell : Shell) : Nat := if shell.isExtended then 1 else 2

end ExitParity.Shell
