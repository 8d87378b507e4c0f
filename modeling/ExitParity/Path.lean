import ExitParity.Utf8

namespace ExitParity

/-- A file path as it was written. Two spellings of one path are different
values: `Path.same` compares what they name. -/
structure Path where
  bytes : Bytes
  deriving DecidableEq, Inhabited

/-- One step of a path. A dot is a step only where a relative path begins
with it, and an empty segment never is one. -/
inductive Component where
  | root
  | here
  | up
  | name (bytes : Bytes)
  deriving DecidableEq

namespace Path

def slash : UInt8 := 0x2f

def dot : Bytes := [0x2e]

def dotdot : Bytes := [0x2e, 0x2e]

def ofString (text : String) : Path := ⟨utf8 text⟩

/-- The text shown for a path. -/
def display (path : Path) : String := Utf8.display path.bytes

def isAbsolute (path : Path) : Bool := path.bytes.head? == some slash

/-- A segment that names no step: nothing between two separators, or a dot. -/
def idle (segment : Bytes) : Bool := segment.isEmpty || segment == dot

/-- The step named by a segment behind the beginning of the path. -/
def step? (segment : Bytes) : Option Component :=
  if idle segment then none else if segment == dotdot then some .up else some (.name segment)

/-- The fixed beginning of a path and the segments behind it: the empty
segment before a leading separator, or a leading dot. -/
def anchored (path : Path) : List Bytes × List Bytes :=
  match Bytes.split slash path.bytes with
  | [] => ([], [])
  | first :: rest =>
    if path.isAbsolute || first == dot then ([first], rest) else ([], first :: rest)

/-- The steps of a path in order. -/
def components (path : Path) : List Component :=
  let (anchor, body) := path.anchored
  let steps := body.filterMap step?
  match anchor with
  | [] => steps
  | first :: _ => (if first.isEmpty then .root else .here) :: steps

/-- Two paths are the same when their steps are. -/
def same (path other : Path) : Bool := path.components == other.components

/-- The last step, when it is a name. -/
def fileName? (path : Path) : Option Bytes :=
  match path.components.getLast? with
  | some (.name bytes) => some bytes
  | _ => none

/-- Put `other` below `path`; an absolute path stands by itself. -/
def join (path other : Path) : Path :=
  if other.isAbsolute then other
  else match path.bytes.getLast? with
    | none => other
    | some last => if last == slash then ⟨path.bytes ++ other.bytes⟩ else ⟨path.bytes ++ slash :: other.bytes⟩

/-- Remove the segments at the end that name no step. -/
def trimEnd (segments : List Bytes) : List Bytes :=
  (segments.reverse.dropWhile idle).reverse

/-- The path without its last step, as written up to there. -/
def parent (path : Path) : Path :=
  let (anchor, body) := path.anchored
  let kept := anchor ++ trimEnd (trimEnd body).dropLast
  if kept == [[]] then ⟨[slash]⟩ else ⟨Bytes.joinWith [slash] kept⟩

/-- Replace the last step when it is a name, and add the name otherwise. -/
def withFileName (path : Path) (name : Bytes) : Path :=
  match path.fileName? with
  | some _ => path.parent.join ⟨name⟩
  | none => path.join ⟨name⟩

example : (ofString "a//b/./").parent = ofString "a" := by decide
example : (ofString "/x/").parent = ofString "/" := by decide
example : (ofString "././x").withFileName (utf8 "y") = ofString "./y" := by decide
example : (ofString "a/..").withFileName (utf8 "y") = ofString "a/../y" := by decide
example : (ofString "a/./b").same (ofString "a//b/") = true := by decide
example : (ofString "./a").same (ofString "a") = false := by decide

end Path
end ExitParity
