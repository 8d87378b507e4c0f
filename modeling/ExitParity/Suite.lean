import ExitParity.Family
import ExitParity.Plan
import ExitParity.Tool

namespace ExitParity

/-- A named collection of artifacts and how it is judged. -/
structure Suite where
  name : String
  family : Family
  protocol : Protocol
  /-- The build target whose sources are compiled before regeneration. -/
  compileTarget : Option String
  /-- The generator that regeneration drives. -/
  generator : String
  /-- Where the artifacts are, below the cache root. -/
  cacheSubdir : String
  /-- The source extensions that regeneration is restricted to. -/
  extensionFilter : List String
  deriving DecidableEq

/-- The variable that tells a tool which textual dialect to write. -/
def versionVariable : Bytes := utf8 "IRWRITER_LLVM_VERSION"

namespace Suite

def reassembly (name : String) (family : Family) (generator cacheSubdir : String)
    (extensionFilter : List String) : Suite where
  name := name
  family := family
  protocol := .reassembly
  compileTarget := some name
  generator := generator
  cacheSubdir := cacheSubdir
  extensionFilter := extensionFilter

def generated (name generator cacheSubdir : String) : Suite where
  name := name
  family := .llvm38
  protocol := .selfConsistency
  compileTarget := none
  generator := generator
  cacheSubdir := cacheSubdir
  extensionFilter := []

/-- Every suite there is, in the order in which they are run. -/
def registry : List Suite := [
  reassembly "gcc_c" .llvm32 "gcc" "gcc" [".c"],
  reassembly "llvm" .llvm38 "llvm" "llvm" [],
  reassembly "gcc_c" .llvm38 "gcc" "gcc" [".c"],
  reassembly "gcc_cpp" .llvm38 "gcc" "gcc" [".cpp", ".C", ".cc"],
  reassembly "nwcc" .llvm38 "nwcc" "nwcc" [],
  reassembly "assembly" .llvm38 "inline-assembly" "inlineassemblytests" [],
  generated "binary_vector" "binary-vector" "irbuilder/vector",
  generated "binary_i1" "binary-i1" "irbuilder/binaryI1",
  generated "binary_i1_vector" "binary-i1-vector" "irbuilder/binaryI1Vector",
  generated "cast_vector" "vector-bitcast" "irbuilder/castVector",
  generated "fibonacci" "fibonacci-call" "irbuilder/fibonacci",
  generated "cast_integer" "integer-casts" "irbuilder/VarICasts",
  generated "float_compare" "float-compare" "irbuilder/FloatCompareOperator"]

/-- The suites of one family that are judged in one way. -/
def registered (family : Family) (protocol : Protocol) : List Suite :=
  registry.filter fun suite => suite.family == family && suite.protocol == protocol

def find? (name : String) (family : Family) (protocol : Protocol) : Option Suite :=
  (registered family protocol).find? (·.name == name)

def cacheDir (suite : Suite) (cacheRoot : Path) : Path := cacheRoot.join (.ofString suite.cacheSubdir)

/-- The variables that a regeneration step is told its suite by. -/
def exports (suite : Suite) : List (Bytes × Bytes) := [
  (utf8 "IRDIFF_SUITE", utf8 suite.name),
  (utf8 "IRDIFF_GENERATOR", utf8 suite.generator),
  (utf8 "IRDIFF_EXTENSION_FILTER", Bytes.joinWith [0x3a] (suite.extensionFilter.map utf8)),
  (versionVariable, utf8 suite.family.tag)] ++
  suite.compileTarget.toList.map fun target => (utf8 "IRDIFF_COMPILE_TARGET", utf8 target)

/-- The regeneration step: the given tool with the suite's variables. -/
def generateStep (suite : Suite) (generate : Tool) : Tool :=
  { generate with env := generate.env ++ suite.exports }

end Suite
end ExitParity
