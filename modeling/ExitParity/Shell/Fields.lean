import ExitParity.Pattern
import ExitParity.Host.Tree

namespace ExitParity.Shell

/-- A piece of an expanded word. What an unquoted expansion yields is loose;
a cut parts two parameters, and a hold keeps a field that has no bytes. -/
inductive Fragment where
  | fixed (byte : UInt8) (quoted : Bool)
  | loose (byte : UInt8)
  | cut (quoted : Bool)
  | hold

namespace Fragment

def ofBytes (quoted : Bool) (bytes : Bytes) : List Fragment :=
  if quoted then bytes.map (.fixed · true) else bytes.map .loose

/-- The fragments taken together as one text. -/
def marked (fragments : List Fragment) : Marked :=
  fragments.filterMap fun
    | .fixed byte quoted => some (byte, quoted)
    | .loose byte => some (byte, false)
    | .cut _ => some (0x20, true)
    | .hold => none

def text (fragments : List Fragment) : Bytes := (marked fragments).map (·.1)

def isBlank (byte : UInt8) : Bool := byte == 0x20 || byte == 0x09 || byte == 0x0a

/-- Part fragments into fields. The field begun is kept in reverse. A
separator that is not blank ends a field even when the field is empty, except
behind a blank that has just ended one. -/
def fields (separators : Bytes) : List Fragment → Option Marked → Bool → List Marked
  | [], current, _ => (current.map List.reverse).toList
  | .hold :: rest, current, _ => fields separators rest (some (current.getD [])) false
  | .fixed byte quoted :: rest, current, _ => fields separators rest (some ((byte, quoted) :: current.getD [])) false
  | .cut true :: rest, current, _ => (current.getD []).reverse :: fields separators rest none false
  | .cut false :: rest, current, ended =>
    (current.map List.reverse).toList ++ fields separators rest none (ended || current.isSome)
  | .loose byte :: rest, current, ended =>
    if !separators.elem byte then fields separators rest (some ((byte, false) :: current.getD [])) false
    else match current, isBlank byte with
      | some field, blank => field.reverse :: fields separators rest none blank
      | none, true => fields separators rest none ended
      | none, false => if ended then fields separators rest none false else [] :: fields separators rest none false

end Fragment

/-- The segments of a pattern for paths. -/
def patternSegments (word : Marked) : List Marked :=
  match word with
  | [] => [[]]
  | mark :: rest =>
    if mark.1 == Path.slash then [] :: patternSegments rest
    else match patternSegments rest with
      | [] => [[mark]]
      | segment :: more => (mark :: segment) :: more

/-- The paths below `path` that the segments of a pattern match. -/
def pathsMatching (tree : FileTree) : List Marked → Bytes → List Bytes
  | [], path => [path]
  | segment :: rest, path =>
    let follow (name : Bytes) : List Bytes :=
      let here := path ++ name
      if rest.isEmpty then
        if (tree.entryNode ⟨here⟩).toOption.isSome then [here] else []
      else pathsMatching tree rest (here ++ [Path.slash])
    if Pattern.isSpecial segment then
      let names := ((tree.list ⟨if path.isEmpty then Path.dot else path⟩).toOption.getD []).map (·.1)
      let all := if (segment.head?.map (·.1)) == some 0x2e then [Path.dot, Path.dotdot] ++ names else
        names.filter (·.head? != some 0x2e)
      (all.filter fun name => Pattern.accepts (Pattern.ofMarked segment) name).flatMap follow
    else follow (segment.map (·.1))

/-- The names of the files that a pattern stands for. -/
def filesNamed (tree : FileTree) (field : Marked) : List Bytes :=
  (pathsMatching tree (patternSegments field) []).mergeSort Bytes.precedes

end ExitParity.Shell
