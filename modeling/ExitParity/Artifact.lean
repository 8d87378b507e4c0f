import ExitParity.Path

namespace ExitParity

/-- What the suffix of a file name says about the file. -/
inductive ArtifactKind where
  | referenceBinary
  | generatedTextual
  | generatedBinary
  deriving DecidableEq

namespace Suffix

def textual : Bytes := utf8 ".ll"
def binary : Bytes := utf8 ".bc"
def outTextual : Bytes := utf8 ".out.ll"
def outBinary : Bytes := utf8 ".out.bc"

end Suffix

namespace ArtifactKind

/-- The kind named by a path's last step. The longer binary suffix wins, and
a name that is no text has no kind. -/
def of (path : Path) : Option ArtifactKind := do
  let name ← path.fileName?
  if !Utf8.valid name then none
  else if Suffix.outBinary.isSuffixOf name then some .generatedBinary
  else if Suffix.binary.isSuffixOf name then some .referenceBinary
  else if Suffix.textual.isSuffixOf name then some .generatedTextual
  else none

def needsAssembly : ArtifactKind → Bool
  | .generatedTextual => true
  | _ => false

end ArtifactKind

/-- A file that takes part in a comparison, in the role it plays there. -/
structure Artifact where
  path : Path
  kind : ArtifactKind
  deriving DecidableEq

def Artifact.of (path : Path) : Option Artifact :=
  (ArtifactKind.of path).map (⟨path, ·⟩)

/-- Which naming convention marks the files that comparisons start from. -/
inductive Layout where
  /-- `foo.out.ll` beside the stored `foo.bc`. -/
  | reassembly
  /-- `qux.ll` with nothing stored beside it. -/
  | selfConsistency
  deriving DecidableEq

/-- The textual module that a comparison starts from, and the stored binary
it is compared with when the layout has one. -/
structure ArtifactPair where
  root : Path
  reference : Option Path
  deriving DecidableEq

/-- The pair that `path` is the root of, if the layout makes it one. -/
def Layout.pairRoot? (layout : Layout) (path : Path) : Option ArtifactPair := do
  let name ← path.fileName?
  if !Utf8.valid name then none
  else match layout with
    | .reassembly =>
      let stem ← Bytes.stripSuffix? Suffix.outTextual name
      some ⟨path, some (path.withFileName (stem ++ Suffix.binary))⟩
    | .selfConsistency =>
      if Suffix.outTextual.isSuffixOf name then none
      else if Suffix.textual.isSuffixOf name then some ⟨path, none⟩
      else none

/-- The binary that the assembler writes for a textual module. -/
def assembledPath (textual : Path) : Path :=
  let name := Utf8.lossy (textual.fileName?.getD [])
  let stem := (Bytes.stripSuffix? Suffix.textual name).getD name
  textual.withFileName (stem ++ Suffix.binary)

end ExitParity
