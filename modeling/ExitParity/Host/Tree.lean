import ExitParity.Fault
import ExitParity.Path

namespace ExitParity

/-- A program that the system itself brings along. -/
inductive Applet where
  | addLink
  | basename
  | blockSum
  | changeMode
  | changeOwner
  | checksum
  | common
  | compareBytes
  | compareLines
  | concatenate
  | contractBlanks
  | copy
  | copyBlocks
  | cut
  | directoryName
  | dropLink
  | dump
  | echo
  | edit
  | encode32
  | encode64
  | environment
  | evaluate
  | expandTabs
  | extendedShell
  | factor
  | fail
  | find
  | fingerprint
  | fold
  | gather
  | grep
  | head
  | identity
  | install
  | join
  | kill
  | link
  | list
  | listFacts
  | listRooms
  | login
  | makeDirectory
  | makeNode
  | makePipes
  | makeTemporary
  | move
  | numberLines
  | numberSequence
  | paste
  | printEnvironment
  | printf
  | rank
  | readLink
  | realPath
  | remove
  | removeDirectory
  | reverseLetters
  | reverseLines
  | scan
  | seekPrograms
  | shell
  | shuffle
  | sleep
  | sort
  | split
  | succeed
  | synchronize
  | tail
  | tee
  | tellDate
  | tellGroups
  | tellHost
  | tellMachine
  | tellProcessors
  | tellSystem
  | tellTerminal
  | tellUser
  | tellVisitors
  | test
  | timeLimit
  | touch
  | translate
  | truncate
  | unique
  | withBuffering
  | withoutHangup
  | withPriority
  | withSession
  | wordCount
  | workingDirectory
  | yes
  deriving DecidableEq

/-- A file that is no store of bytes. -/
inductive Device where
  /-- Swallows what is written and holds nothing. -/
  | null
  /-- Has no room for anything. -/
  | full
  /-- Holds zero bytes without end. -/
  | zero
  deriving DecidableEq

/-- What a file holds. -/
inductive Content where
  | data (bytes : Bytes)
  | applet (applet : Applet)
  deriving DecidableEq

/-- A node of a file tree. A directory names its nodes by number and knows the
directory it is in; one that was removed takes no new names. A pipe that has
names is known by its number. -/
inductive Node where
  | file (mode : Nat) (content : Content)
  | link (target : Bytes)
  | device (device : Device)
  | pipe (mode : Nat) (number : Nat)
  | directory (mode : Nat) (parent : Nat) (live : Bool) (entries : List (Bytes × Nat))
  deriving DecidableEq

/-- A file tree: its nodes by number, the root first, with the times of their
last changes, the present time, and the number of the directory that relative
paths start from. A node that no directory names any more can still be in use. -/
structure FileTree where
  nodes : Array Node
  times : Array Nat
  now : Nat
  cwd : Nat

namespace FileTree

def root : Nat := 0

/-- The longest name and the longest path that the system takes. -/
def nameLimit : Nat := 255

def pathLimit : Nat := 4095

/-- The number of links that are followed for one path. -/
def linkLimit : Nat := 40

def mayRead (mode : Nat) : Bool := mode &&& 0o400 != 0

def mayWrite (mode : Nat) : Bool := mode &&& 0o200 != 0

def mayEnter (mode : Nat) : Bool := mode &&& 0o100 != 0

def child? (name : Bytes) (entries : List (Bytes × Nat)) : Option Nat :=
  (entries.find? (·.1 == name)).map (·.2)

/-- Replace the entry of a name, add one at the end, or remove it. -/
def putEntry (name : Bytes) (value : Option Nat) : List (Bytes × Nat) → List (Bytes × Nat)
  | [] => value.toList.map (name, ·)
  | entry :: rest =>
    if entry.1 == name then value.toList.map (name, ·) ++ rest else entry :: putEntry name value rest

/-- Where a path leads: to a node, with the directory and the name it was met
under, or to a free name in a directory. -/
inductive Spot where
  | found (node : Nat) (entry : Option (Nat × Bytes))
  | vacant (directory : Nat) (name : Bytes) (slashed : Bool)

/-- What a path is looked up for. Only a path that is to be opened or made may
end in a separator where nothing is. -/
structure Purpose where
  /-- Whether a link at the end is followed. -/
  follow : Bool
  /-- Whether a file is made when there is none, which no path ending in a
  separator allows. -/
  makesFile : Bool

/-- The names of a path, and whether it ends in a separator. -/
def segments (bytes : Bytes) : List Bytes × Bool :=
  ((Bytes.split Path.slash bytes).filter (!·.isEmpty), bytes.getLast? == some Path.slash)

/-- How the way down ends: at a spot, at a fault, or at a link from whose
target it goes on. -/
inductive Turn where
  | arrived (spot : Spot)
  | fault (errno : Errno)
  | detour (directory : Nat) (target : Bytes) (rest : List Bytes)

/-- Go down from a node along the names of a path up to the first link. The
entry is the one that the node was met under. -/
def descend (tree : FileTree) (purpose : Purpose) (slashed : Bool) (place : Nat) (entry : Option (Nat × Bytes)) :
    List Bytes → Turn
  | [] => .arrived (.found place entry)
  | name :: rest =>
    match tree.nodes[place]? with
    | some (.directory mode parent _ entries) =>
      if !mayEnter mode then .fault .denied
      else if name == Path.dot then
        if rest.isEmpty && purpose.makesFile then .fault .isDirectory
        else descend tree purpose slashed place none rest
      else if name == Path.dotdot then
        if rest.isEmpty && purpose.makesFile then .fault .isDirectory
        else descend tree purpose slashed parent none rest
      else if rest.isEmpty && slashed && purpose.makesFile then .fault .isDirectory
      else if name.length > nameLimit then .fault .nameTooLong
      else match child? name entries with
        | none => if rest.isEmpty then .arrived (.vacant place name slashed) else .fault .noEntry
        | some next =>
          match tree.nodes[next]? with
          | some (.link target) =>
            if rest.isEmpty && !purpose.follow && !slashed then .arrived (.found next (some (place, name)))
            else .detour place target rest
          | some (.directory ..) => descend tree purpose slashed next (some (place, name)) rest
          | _ =>
            if rest.isEmpty && !slashed then .arrived (.found next (some (place, name)))
            else .fault .notDirectory
    | _ => .fault .notDirectory

/-- Follow the names of a path from a node through at most `links` links. -/
def resolve (tree : FileTree) (purpose : Purpose) : Nat → Bool → Nat → List Bytes → Except Errno Spot
  | links, slashed, place, names =>
    match descend tree purpose slashed place none names with
    | .arrived spot => .ok spot
    | .fault errno => .error errno
    | .detour directory target rest =>
      match links with
      | 0 => .error .tooManyLinks
      | links + 1 =>
        let start := if target.head? == some Path.slash then root else directory
        let (names, ends) := segments target
        resolve tree purpose links (if rest.isEmpty then slashed || ends else slashed) start (names ++ rest)

/-- Where a path leads. -/
def lookup (tree : FileTree) (purpose : Purpose) (path : Path) : Except Errno Spot :=
  if path.bytes.isEmpty then .error .noEntry
  else if path.bytes.length > pathLimit then .error .nameTooLong
  else
    let (names, slashed) := segments path.bytes
    if names.isEmpty && purpose.makesFile then .error .isDirectory
    else resolve tree purpose linkLimit slashed (if path.isAbsolute then root else tree.cwd) names

/-- Where a path leads, a link at its end followed too. -/
def locate (tree : FileTree) (path : Path) : Except Errno Spot := tree.lookup ⟨true, false⟩ path

/-- Where a path leads, a link at its end taken as it is. -/
def locateEntry (tree : FileTree) (path : Path) : Except Errno Spot := tree.lookup ⟨false, false⟩ path

/-- The number of the node that a path leads to. -/
def number (tree : FileTree) (path : Path) : Except Errno Nat :=
  match tree.locate path with
  | .error errno => .error errno
  | .ok (.vacant ..) => .error .noEntry
  | .ok (.found number _) => .ok number

/-- The node that a spot stands for. -/
def nodeAt (tree : FileTree) : Except Errno Spot → Except Errno Node
  | .error errno => .error errno
  | .ok (.vacant ..) => .error .noEntry
  | .ok (.found number _) => (tree.nodes[number]?).elim (.error .noEntry) .ok

/-- The node that a path leads to. -/
def node (tree : FileTree) (path : Path) : Except Errno Node := tree.nodeAt (tree.locate path)

/-- The node that a path leads to, a link at its end taken as it is. -/
def entryNode (tree : FileTree) (path : Path) : Except Errno Node := tree.nodeAt (tree.locateEntry path)

def isDirectory (tree : FileTree) (path : Path) : Bool :=
  match tree.node path with
  | .ok (.directory ..) => true
  | _ => false

/-- A regular file that somebody may execute. -/
def isExecutable (tree : FileTree) (path : Path) : Bool :=
  match tree.node path with
  | .ok (.file mode _) => mode &&& 0o111 != 0
  | _ => false

/-- Put another node in the place of one, which is no change of its content. -/
def adjust (tree : FileTree) (number : Nat) (node : Node) : FileTree :=
  { tree with nodes := tree.nodes.setIfInBounds number node }

/-- Set the time of the last change of a node. -/
def setTime (tree : FileTree) (number time : Nat) : FileTree :=
  { tree with times := tree.times.setIfInBounds number time }

/-- Change a node now. -/
def set (tree : FileTree) (number : Nat) (node : Node) : FileTree := (tree.adjust number node).setTime number tree.now

/-- Take a new node in, and tell its number. -/
def grow (tree : FileTree) (node : Node) : Nat × FileTree :=
  (tree.nodes.size, { tree with nodes := tree.nodes.push node, times := tree.times.push tree.now })

def timeOf (tree : FileTree) (number : Nat) : Nat := tree.times[number]?.getD 0

/-- Change what a name in a directory stands for. -/
def setEntry (tree : FileTree) (directory : Nat) (name : Bytes) (value : Option Nat) : FileTree :=
  match tree.nodes[directory]? with
  | some (.directory mode parent live entries) =>
    tree.set directory (.directory mode parent live (putEntry name value entries))
  | _ => tree

/-- Whether names of a directory may be changed. -/
def checkChange (tree : FileTree) (directory : Nat) : Except Errno Unit :=
  match tree.nodes[directory]? with
  | some (.directory mode _ live _) =>
    if !mayWrite mode || !mayEnter mode then .error .denied else if live then .ok () else .error .noEntry
  | _ => .error .notDirectory

/-- Put a new node under a free name. -/
def plant (tree : FileTree) (directory : Nat) (name : Bytes) (node : Node) : Except Errno (Nat × FileTree) := do
  tree.checkChange directory
  let (number, tree) := tree.grow node
  return (number, tree.setEntry directory name (some number))

/-- The bytes of a node that may be read. A program of the system has none
worth reading. -/
def contentOf : Node → Except Errno Bytes
  | .file mode (.data bytes) => if mayRead mode then .ok bytes else .error .denied
  | .directory .. => .error .isDirectory
  | _ => .ok []

/-- The bytes of a file. -/
def read (tree : FileTree) (path : Path) : Except Errno Bytes := do contentOf (← tree.node path)

/-- The permissions that a new file and a new directory are given. -/
def newFileMode : Nat := 0o644

def newDirectoryMode : Nat := 0o755

/-- How a file is opened for writing. -/
structure Opening where
  makes : Bool
  exclusive : Bool
  empties : Bool
  mode : Nat

/-- What there is to write to: a store of bytes, a device, or a pipe. -/
inductive Target where
  | store (number : Nat)
  | device (device : Device)
  | pipe (number : Nat)

/-- Open a file for writing. A file that exists keeps its permissions. -/
def openForWriting (tree : FileTree) (path : Path) (opening : Opening) : Except Errno (Target × FileTree) :=
  match tree.lookup ⟨!opening.exclusive, opening.makes⟩ path with
  | .error errno => .error errno
  | .ok (.vacant directory name _) =>
    if opening.makes then do
      let (number, tree) ← tree.plant directory name (.file opening.mode (.data []))
      return (.store number, tree)
    else .error .noEntry
  | .ok (.found number _) =>
    if opening.exclusive then .error .exists_
    else match tree.nodes[number]? with
      | some (.file mode _) =>
        if !mayWrite mode then .error .denied
        else .ok (.store number, if opening.empties then tree.set number (.file mode (.data [])) else tree)
      | some (.device device) => .ok (.device device, tree)
      | some (.pipe mode number) => if mayWrite mode then .ok (.pipe number, tree) else .error .denied
      | _ => .error .isDirectory

/-- Store a file's whole content. -/
def write (tree : FileTree) (path : Path) (content : Content) : Except Errno FileTree :=
  match tree.openForWriting path ⟨true, false, true, newFileMode⟩ with
  | .error errno => .error errno
  | .ok (.device .full, _) => .error .noSpace
  | .ok (.device _, tree) | .ok (.pipe _, tree) => .ok tree
  | .ok (.store number, tree) =>
    match tree.nodes[number]? with
    | some (.file mode _) => .ok (tree.set number (.file mode content))
    | _ => .ok tree

/-- Make a directory at a free name. -/
def makeDirectory (tree : FileTree) (path : Path) (mode : Nat) : Except Errno FileTree :=
  match tree.locateEntry path with
  | .error errno => .error errno
  | .ok (.found ..) => .error .exists_
  | .ok (.vacant directory name _) => do
    return (← tree.plant directory name (.directory mode directory true [])).2

/-- The paths of the directories on the way to a path, and the path itself. -/
def waypoints (path : Path) : List Path :=
  let parts := Bytes.split Path.slash path.bytes
  ((List.range parts.length).map fun index =>
    (⟨Bytes.joinWith [Path.slash] (parts.take (index + 1))⟩ : Path)).filter fun path => !path.bytes.isEmpty

/-- Make a directory and every directory missing on the way to it. -/
def makeDirectories (tree : FileTree) (path : Path) (mode : Nat) : Except Errno FileTree :=
  (waypoints path).foldl (fun made waypoint => do
    let tree ← made
    if tree.isDirectory waypoint then .ok tree else tree.makeDirectory waypoint mode) (.ok tree)

/-- Give a pipe a free name. -/
def makePipe (tree : FileTree) (path : Path) (mode number : Nat) : Except Errno FileTree :=
  match tree.locateEntry path with
  | .error errno => .error errno
  | .ok (.found ..) => .error .exists_
  | .ok (.vacant _ _ true) => .error .noEntry
  | .ok (.vacant directory name false) => do return (← tree.plant directory name (.pipe mode number)).2

/-- Make a link at a free name. -/
def makeLink (tree : FileTree) (path : Path) (target : Bytes) : Except Errno FileTree :=
  match tree.locateEntry path with
  | .error errno => .error errno
  | .ok (.found ..) => .error .exists_
  | .ok (.vacant _ _ true) => .error .noEntry
  | .ok (.vacant directory name false) => do return (← tree.plant directory name (.link target)).2

/-- Give a node one more name. -/
def addName (tree : FileTree) (number : Nat) (path : Path) : Except Errno FileTree :=
  match tree.locateEntry path with
  | .error errno => .error errno
  | .ok (.found ..) => .error .exists_
  | .ok (.vacant _ _ true) => .error .noEntry
  | .ok (.vacant directory name false) => do
    tree.checkChange directory
    return tree.setEntry directory name (some number)

def changeMode (mode : Nat) : Node → Node
  | .file _ content => .file mode content
  | .pipe _ number => .pipe mode number
  | .directory _ parent live entries => .directory mode parent live entries
  | node => node

/-- Set the permissions of a file or a directory. -/
def setMode (tree : FileTree) (path : Path) (mode : Nat) : Except Errno FileTree := do
  let number ← tree.number path
  match tree.nodes[number]? with
  | some node => return tree.adjust number (changeMode mode node)
  | none => throw .noEntry

/-- Take a name from what is no directory. -/
def unlink (tree : FileTree) (path : Path) : Except Errno FileTree :=
  match tree.locateEntry path with
  | .error errno => .error errno
  | .ok (.vacant ..) => .error .noEntry
  | .ok (.found _ none) => .error .isDirectory
  | .ok (.found number (some (directory, name))) =>
    match tree.nodes[number]? with
    | some (.directory ..) => .error .isDirectory
    | _ => do
      tree.checkChange directory
      return tree.setEntry directory name none

/-- Remove an empty directory. -/
def removeDirectory (tree : FileTree) (path : Path) : Except Errno FileTree :=
  match tree.locateEntry path with
  | .error errno => .error errno
  | .ok (.vacant ..) => .error .noEntry
  | .ok (.found _ none) => .error .invalid
  | .ok (.found number (some (directory, name))) =>
    match tree.nodes[number]? with
    | some (.directory mode parent _ entries) =>
      if !entries.isEmpty then .error .notEmpty
      else do
        tree.checkChange directory
        return (tree.setEntry directory name none).set number (.directory mode parent false [])
    | _ => .error .notDirectory

/-- Whether a directory is another one or below it, going up at most so far. -/
def isWithin (tree : FileTree) (outer : Nat) : Nat → Nat → Bool
  | 0, _ => false
  | fuel + 1, number =>
    number == outer || match tree.nodes[number]? with
      | some (.directory _ parent _ _) => parent != number && tree.isWithin outer fuel parent
      | _ => false

/-- Move a node from a name to a name, over what is there. -/
def rename (tree : FileTree) (source target : Path) : Except Errno FileTree := do
  match ← tree.locateEntry source with
  | .vacant .. => throw .noEntry
  | .found _ none => throw .busy
  | .found number (some (directory, name)) =>
    tree.checkChange directory
    let moved := fun (other : Nat) (otherName : Bytes) =>
      let tree := (tree.setEntry directory name none).setEntry other otherName (some number)
      match tree.nodes[number]? with
      | some (.directory mode _ live entries) => tree.adjust number (.directory mode other live entries)
      | _ => tree
    match ← tree.locateEntry target with
    | .vacant other otherName slashed =>
      tree.checkChange other
      match tree.nodes[number]? with
      | some (.directory ..) => if tree.isWithin number tree.nodes.size other then throw .invalid
      | _ => if slashed then throw .notDirectory
      return moved other otherName
    | .found _ none => throw .busy
    | .found there (some (other, otherName)) =>
      tree.checkChange other
      if there == number then return tree
      match tree.nodes[number]?, tree.nodes[there]? with
      | some (.directory ..), some (.directory mode parent _ entries) =>
        if tree.isWithin number tree.nodes.size other then throw .invalid
        if !entries.isEmpty then throw .notEmpty
        return (moved other otherName).set there (.directory mode parent false [])
      | some (.directory ..), _ => throw .notDirectory
      | _, some (.directory ..) => throw .isDirectory
      | _, _ => return moved other otherName

/-- The names in a directory that may be read, with what they stand for. -/
def list (tree : FileTree) (path : Path) : Except Errno (List (Bytes × Nat)) := do
  match ← tree.node path with
  | .directory mode _ _ entries => if mayRead mode then return entries else throw .denied
  | _ => throw .notDirectory

/-- The path of a directory from the root, found by going up. -/
def placeOf (tree : FileTree) : Nat → Nat → List Bytes
  | 0, _ => []
  | fuel + 1, number =>
    match tree.nodes[number]? with
    | some (.directory _ parent _ _) =>
      if parent == number then []
      else
        let name := match tree.nodes[parent]? with
          | some (.directory _ _ _ entries) => ((entries.find? (·.2 == number)).map (·.1)).toList
          | _ => []
        tree.placeOf fuel parent ++ name
    | _ => []

/-- The text of the working directory's path. -/
def workingPath (tree : FileTree) : Bytes :=
  Path.slash :: Bytes.joinWith [Path.slash] (tree.placeOf tree.nodes.size tree.cwd)

end FileTree
end ExitParity
