import ExitParity.Artifact
import ExitParity.Host.Tree

namespace ExitParity

/-- What a directory tells of an entry. -/
inductive EntryKind where
  | regular
  | directory
  | link
  | other
  deriving DecidableEq

def Node.entryKind : Node → EntryKind
  | .file .. => .regular
  | .directory .. => .directory
  | .link _ => .link
  | .device _ | .pipe .. => .other

/-- A directory that a walk is in, with the entries that it has not met yet. -/
structure Level where
  path : Path
  entries : List (Bytes × EntryKind)
  deriving DecidableEq

/-- A walk over the files at and below a path, through links too. The files
may change between its steps: a directory is read when the walk comes to it. -/
structure Walk where
  start : Option Path
  /-- The directories that the walk is in, the innermost first. -/
  levels : List Level
  deriving DecidableEq

namespace Walk

def at_ (path : Path) : Walk := ⟨some path, []⟩

/-- The entries of a directory as they are now. -/
def entriesOf (tree : FileTree) (path : Path) : List (Bytes × EntryKind) :=
  match tree.list path with
  | .ok entries => entries.filterMap fun (name, number) =>
      (tree.nodes[number]?).map fun node => (name, node.entryKind)
  | .error _ => []

/-- The number of a directory that can be opened. -/
def identity? (tree : FileTree) (path : Path) : Option Nat :=
  match tree.number path, tree.node path with
  | .ok number, .ok (.directory mode ..) => if FileTree.mayRead mode then some number else none
  | _, _ => none

/-- Whether a directory is none of those that the walk is in. All of them have
to be there still. -/
def isOutside (walk : Walk) (tree : FileTree) (path : Path) : Bool :=
  (identity? tree path).any fun number =>
    walk.levels.all fun level => (identity? tree level.path).any (· != number)

/-- What a link leads to. A link back to a directory that the walk is in, and
one that leads nowhere, is passed over. -/
def follow (walk : Walk) (tree : FileTree) (path : Path) : Option EntryKind :=
  match tree.node path with
  | .error _ => none
  | .ok node =>
    if node.entryKind = .directory && !walk.isOutside tree path then none else some node.entryKind

/-- Meet an entry: a regular file is yielded, and a directory is gone into. -/
def meet (walk : Walk) (tree : FileTree) (path : Path) (kind : EntryKind) : Option Path × Walk :=
  match if kind = .link then walk.follow tree path else some kind with
  | some .regular => (some path, walk)
  | some .directory => (none, { walk with levels := ⟨path, entriesOf tree path⟩ :: walk.levels })
  | _ => (none, walk)

/-- One step of a walk, with the file that it yields, or nothing when the walk
is over. -/
def step? (walk : Walk) (tree : FileTree) : Option (Option Path × Walk) :=
  match walk.start, walk.levels with
  | some path, levels =>
    match tree.entryNode path with
    | .error _ => some (none, ⟨none, levels⟩)
    | .ok node => some (meet ⟨none, levels⟩ tree path node.entryKind)
  | none, [] => none
  | none, ⟨_, []⟩ :: outer => some (none, ⟨none, outer⟩)
  | none, ⟨path, (name, kind) :: rest⟩ :: outer =>
    some (meet ⟨none, ⟨path, rest⟩ :: outer⟩ tree (path.join ⟨name⟩) kind)

/-- The number of steps after which a walk is given up. -/
def stepLimit : Nat := 1000000000

/-- Go on to the next file that is the root of a pair. -/
def next (layout : Layout) (tree : FileTree) : Nat → Walk → Option ArtifactPair × Walk
  | 0, walk => (none, walk)
  | fuel + 1, walk =>
    match walk.step? tree with
    | none => (none, walk)
    | some (file, walk) =>
      match file.bind layout.pairRoot? with
      | some pair => (some pair, walk)
      | none => next layout tree fuel walk

/-- Every file that is still to come when nothing changes. -/
def files (tree : FileTree) : Nat → Walk → List Path
  | 0, _ => []
  | fuel + 1, walk =>
    match walk.step? tree with
    | none => []
    | some (file, walk) => file.toList ++ files tree fuel walk

end Walk

/-- The pairs whose roots are at and below a path. -/
def FileTree.discover (tree : FileTree) (root : Path) (layout : Layout) : List ArtifactPair :=
  (Walk.files tree Walk.stepLimit (.at_ root)).filterMap layout.pairRoot?

end ExitParity
