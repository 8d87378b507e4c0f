import ExitParity.Host.Tree

namespace ExitParity

/-- A program ready to run, with the arguments that it is called with. -/
structure Image where
  applet : Applet
  argv : List Bytes

namespace Image

/-- The beginning of a file that is looked at to find an interpreter. -/
def headLength : Nat := 256

/-- How many interpreters can stand behind one another. -/
def depthLimit : Nat := 6

def isBlank (byte : UInt8) : Bool := byte == 0x20 || byte == 0x09

def isEnd (byte : UInt8) : Bool := isBlank byte || byte == 0

def trimBlanks (line : Bytes) : Bytes := (line.reverse.dropWhile isBlank).reverse.dropWhile isBlank

/-- The line behind the mark of a script. A line that is too long still counts
when the interpreter's name ends in the part looked at. -/
def line? (head : Bytes) : Option Bytes :=
  let line := head.takeWhile fun byte => byte != 0x0a && byte != 0
  if head.drop line.length |>.head? |>.any (· == 0x0a) then some line
  else
    if (head.dropWhile isBlank).any isEnd then some (head.take (headLength - 3)) else none

/-- The interpreter named by a script, with its one argument. -/
def interpreter? (content : Bytes) : Option (Bytes × List Bytes) :=
  match content with
  | 0x23 :: 0x21 :: rest =>
    (line? (rest.take (headLength - 2) ++ List.replicate (headLength - 2 - rest.length) 0)).bind fun line =>
      let line := trimBlanks line
      let name := line.takeWhile (!isEnd ·)
      let rest := line.drop name.length
      let argument := if rest.head? == some 0 then [] else (rest.dropWhile isBlank).takeWhile (· != 0)
      if name.isEmpty then none else some (name, if argument.isEmpty then [] else [argument])
  | _ => none

/-- The longest string that a program is handed, and the room that there is
for all of its strings with their places. -/
def stringLimit : Nat := 131071

def roomLimit : Nat := 2097152

def placeSize : Nat := 9

/-- Whether the arguments and the variables can be handed to a program. -/
def fits (path : Path) (argv : List Bytes) (env : List (Bytes × Bytes)) : Bool :=
  let lengths := argv.map (·.length) ++ env.map fun (name, value) => name.length + value.length + 1
  lengths.all (· ≤ stringLimit) && path.bytes.length + 1 + (lengths.map (· + placeSize)).foldl (· + ·) 0 ≤ roomLimit

/-- Make a file a running program. Only an executable regular file can be one,
and a script is run by its interpreter. -/
def load (tree : FileTree) (env : List (Bytes × Bytes)) : Nat → Path → List Bytes → Except Errno Image
  | 0, _, _ => .error .tooManyLinks
  | depth + 1, path, argv =>
    match tree.node path with
    | .error errno => .error errno
    | .ok (.file mode content) =>
      if !FileTree.mayEnter mode then .error .denied
      else if !fits path argv env then .error .tooLong
      else match content with
        | .applet applet => .ok ⟨applet, argv⟩
        | .data bytes =>
          match interpreter? bytes with
          | none => .error .badFormat
          | some (name, argument) => load tree env depth ⟨name⟩ (name :: argument ++ path.bytes :: argv.drop 1)
    | .ok _ => .error .denied

def ofFile (tree : FileTree) (env : List (Bytes × Bytes)) (path : Path) (argv : List Bytes) : Except Errno Image :=
  load tree env depthLimit path argv

def shellPath : Bytes := utf8 "/bin/sh"

/-- Make a file a running program; a file of no known format is taken as the
text of a shell. -/
def ofFileOrText (tree : FileTree) (env : List (Bytes × Bytes)) (path : Path) (argv : List Bytes) : Except Errno Image :=
  match ofFile tree env path argv with
  | .error .badFormat => ofFile tree env ⟨shellPath⟩ (shellPath :: path.bytes :: argv.drop 1)
  | result => result

/-- The directories searched when there is no search path. -/
def defaultSearchPath : Bytes := utf8 "/bin:/usr/bin"

/-- Whether a search goes on behind a directory that gave a fault. -/
def isPassable : Errno → Bool
  | .denied | .noEntry | .notDirectory => true
  | _ => false

/-- Try the directories of a search path in order. That a file was there but
not executable is remembered. -/
def search (load : Path → Except Errno Image) (name : Bytes) (denied : Bool) : List Bytes → Errno → Except Errno Image
  | [], fault => .error (if denied then .denied else fault)
  | directory :: rest, _ =>
    match load ⟨if directory.isEmpty then name else directory ++ Path.slash :: name⟩ with
    | .ok image => .ok image
    | .error errno =>
      if isPassable errno then search load name (denied || errno == .denied) rest errno else .error errno

/-- The directories of a search path that are tried. One whose name fills a
whole path is passed over, and the working directory is tried in its place
unless it is the last one. -/
def places (searchPath : Bytes) : List Bytes :=
  let directories := Bytes.split 0x3a searchPath
  let isPlace (directory : Bytes) : Bool := directory.length ≤ FileTree.pathLimit
  directories.dropLast.map (fun directory => if isPlace directory then directory else []) ++
    (directories.getLast?.filter isPlace).toList

/-- Find a program by its path, or by its bare name on a search path. -/
def find (tree : FileTree) (env : List (Bytes × Bytes)) (searchPath : Option Bytes) (textToo : Bool) (program : Path)
    (argv : List Bytes) : Except Errno Image :=
  let load (path : Path) := if textToo then ofFileOrText tree env path argv else ofFile tree env path argv
  if program.bytes.isEmpty then .error .noEntry
  else if program.bytes.elem Path.slash then load program
  else search load program.bytes false (places (searchPath.getD defaultSearchPath)) .noEntry

end Image
end ExitParity
