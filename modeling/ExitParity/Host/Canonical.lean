import ExitParity.Host.Tree

namespace ExitParity

/-- Which parts of a path have to exist. -/
inductive Existence where
  | all
  | allButLast
  | nothing
  deriving DecidableEq

namespace FileTree

/-- The names from the root to a directory, and its node as far as there is one. -/
structure Standing where
  names : List Bytes
  node : Option Nat

def Standing.path (standing : Standing) : Bytes := Path.slash :: Bytes.joinWith [Path.slash] standing.names

/-- The directory that a path starts from. -/
def startOf (tree : FileTree) (text : Bytes) : Standing :=
  if text.head? == some Path.slash then ⟨[], some root⟩ else ⟨tree.placeOf tree.nodes.size tree.cwd, some tree.cwd⟩

/-- Go along names, every link followed by its target, and tell where that leads. -/
def goAlong (tree : FileTree) (existence : Existence) (follows : Bool) : Nat → Nat → Standing → List Bytes → Except Errno Standing
  | 0, _, _, _ => .error .tooManyLinks
  | _ + 1, _, standing, [] => .ok standing
  | fuel + 1, links, standing, name :: rest =>
    if name.isEmpty || name == Path.dot then goAlong tree existence follows fuel links standing rest
    else if name == Path.dotdot then
      let parent := standing.node.bind fun number => match tree.nodes[number]? with
        | some (.directory _ parent _ _) => some parent
        | _ => none
      goAlong tree existence follows fuel links ⟨standing.names.dropLast, parent⟩ rest
    else
      let isLast := rest.all (·.isEmpty)
      let beyond : Standing := ⟨standing.names ++ [name], none⟩
      match standing.node.bind (tree.nodes[·]?) with
      | some (.directory mode _ _ entries) =>
        if !mayEnter mode && existence != .nothing then .error .denied
        else match child? name entries with
          | none =>
            if existence == .nothing || (existence == .allButLast && isLast) then
              goAlong tree existence follows fuel links beyond rest
            else .error .noEntry
          | some number =>
            match tree.nodes[number]? with
            | some (.link target) =>
              if !follows then goAlong tree existence follows fuel links ⟨standing.names ++ [name], some number⟩ rest
              else if links == 0 then .error .tooManyLinks
              else
                let start := if target.head? == some Path.slash then tree.startOf target else standing
                goAlong tree existence follows fuel (links - 1) start (Bytes.split Path.slash target ++ rest)
            | _ => goAlong tree existence follows fuel links ⟨standing.names ++ [name], some number⟩ rest
      | some _ => if existence == .nothing then goAlong tree existence follows fuel links beyond rest else .error .notDirectory
      | none =>
        if existence == .nothing then goAlong tree existence follows fuel links beyond rest else .error .noEntry

/-- The path from the root, without links and dots, that a path stands for. -/
def canonical (tree : FileTree) (existence : Existence) (follows : Bool) (text : Bytes) : Except Errno Bytes :=
  if text.isEmpty then .error .noEntry
  else
    let names := Bytes.split Path.slash text
    let isFolder := text.getLast? == some Path.slash
    match goAlong tree existence follows (names.length + pathLimit * linkLimit) linkLimit (tree.startOf text) names with
    | .error errno => .error errno
    | .ok standing =>
      match isFolder, standing.node.bind (tree.nodes[·]?) with
      | true, some (.file ..) => if existence == .nothing then .ok standing.path else .error .notDirectory
      | _, _ => .ok standing.path

/-- The way from a directory to another place, both given from the root. -/
def relative (source target : Bytes) : Bytes :=
  let parts (path : Bytes) : List Bytes := (Bytes.split Path.slash path).filter (!·.isEmpty)
  let common := ((parts source).zip (parts target)).takeWhile fun (one, other) => one == other
  let ups := ((parts source).drop common.length).map fun _ => Path.dotdot
  let way := ups ++ (parts target).drop common.length
  if way.isEmpty then Path.dot else Bytes.joinWith [Path.slash] way

end FileTree
end ExitParity
