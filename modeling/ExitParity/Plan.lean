import ExitParity.Artifact

namespace ExitParity

/-- The files of one comparison. Reference files set the expected exit code,
or are held to a preset one; the others have to reproduce it. -/
structure Plan where
  reference : List Artifact
  interpreted : List Artifact
  candidate : List Artifact
  expectedExit : Option Int
  deriving DecidableEq

/-- How the artifacts of a suite are judged. -/
inductive Protocol where
  /-- A stored binary against the reassembled textual module. -/
  | reassembly
  /-- A generated module under the interpreter against the candidate. -/
  | selfConsistency
  deriving DecidableEq

namespace Plan

def textual (path : Path) : Artifact := ⟨path, .generatedTextual⟩

def ofReassembly (pair : ArtifactPair) : Plan where
  reference := pair.reference.toList.map (⟨·, .referenceBinary⟩)
  interpreted := [textual pair.root]
  candidate := []
  expectedExit := none

def ofSelfConsistency (pair : ArtifactPair) : Plan where
  reference := [textual pair.root]
  interpreted := []
  candidate := [textual pair.root]
  expectedExit := some 0

/-- Every file of the plan in the order of use. -/
def inputs (plan : Plan) : List Artifact :=
  plan.reference ++ plan.interpreted ++ plan.candidate

end Plan

namespace Protocol

def name : Protocol → String
  | .reassembly => "reassembly"
  | .selfConsistency => "self-consistency"

def all : List Protocol := [.reassembly, .selfConsistency]

def layout : Protocol → Layout
  | .reassembly => .reassembly
  | .selfConsistency => .selfConsistency

def plan : Protocol → ArtifactPair → Plan
  | .reassembly => Plan.ofReassembly
  | .selfConsistency => Plan.ofSelfConsistency

end Protocol

/-- The file that is run for an artifact: its assembled binary when it is
textual, else the file itself. -/
def Artifact.executable (artifact : Artifact) : Path :=
  if artifact.kind.needsAssembly then assembledPath artifact.path else artifact.path

end ExitParity
