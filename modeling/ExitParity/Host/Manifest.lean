import ExitParity.Host.Bare
import ExitParity.Json.Reader

namespace ExitParity

/-- What is put at a path. -/
inductive Deposit where
  | file (content : Bytes)
  | link (target : Bytes)
  | directory

/-- Something to be put into a file tree, perhaps with a mode. -/
structure ManifestEntry where
  path : Path
  deposit : Deposit
  mode : Option Nat

namespace FileTree

/-- Make the directory that a path is in. -/
def makeParent (tree : FileTree) (path : Path) : Except Errno FileTree :=
  if path.parent.bytes.isEmpty then .ok tree else tree.makeDirectories path.parent newDirectoryMode

/-- Put a deposit at a path, with the directories on the way to it. -/
def deposit (tree : FileTree) (path : Path) : Deposit → Except Errno FileTree
  | .directory => tree.makeDirectories path newDirectoryMode
  | .link target => do (← tree.makeParent path).makeLink path target
  | .file content => do (← tree.makeParent path).write path (.data content)

/-- Put an entry into a tree; its mode is set last. -/
def add (tree : FileTree) (entry : ManifestEntry) : Except Errno FileTree := do
  let tree ← tree.deposit entry.path entry.deposit
  match entry.mode with
  | some mode => tree.setMode entry.path mode
  | none => .ok tree

def addAll (tree : FileTree) (entries : List ManifestEntry) : Except Errno FileTree :=
  entries.foldlM add tree

end FileTree

namespace ManifestEntry

def textMember? (name : String) (members : List (Option String × Json)) : Option Bytes :=
  match members.find? (·.1 == some name) with
  | some (_, .string (some text)) => some (utf8 text)
  | _ => none

/-- The number that octal digits stand for. -/
def octal (digits : Bytes) : Nat := digits.foldl (fun value byte => value * 8 + (byte.toNat - 0x30)) 0

/-- An entry as an object: a path with a text or the target of a link, or
alone for a directory, and perhaps a mode. -/
def ofJson? : Json → Option ManifestEntry
  | .object members => do
    let path ← textMember? "path" members
    let deposit := match textMember? "text" members, textMember? "link" members with
      | some content, _ => Deposit.file content
      | none, some target => .link target
      | none, none => .directory
    some ⟨⟨path⟩, deposit, (textMember? "mode" members).map octal⟩
  | _ => none

/-- The entries of an array. -/
def listOfJson? : Json → Option (List ManifestEntry)
  | .array values => values.mapM ofJson?
  | _ => none

end ManifestEntry
end ExitParity
