import ExitParity.Execution
import ExitParity.Path

namespace ExitParity

/-- What a search for programs asks of the system around it. -/
structure Surroundings (σ : Type) where
  isExecutable : σ → Path → Bool
  /-- What a program prints about its version, if it can be started. -/
  versionText : Path → σ → Option Bytes × σ

namespace Lookup

/-- The directories of a search path. An empty entry is kept. -/
def directories (searchPath : Option Bytes) : List Path :=
  match searchPath with
  | none => []
  | some bytes => (Bytes.split 0x3a bytes).map (⟨·⟩)

/-- The first executable file of a name in a list of directories. -/
def search (isExecutable : Path → Bool) (dirs : List Path) (name : Bytes) : Option Path :=
  (dirs.map (·.join ⟨name⟩)).find? isExecutable

/-- A version without its dots. -/
def compact (version : String) : String := String.ofList (version.toList.filter (· != '.'))

/-- The names with a version in them, the preferred first. -/
def versionedNames (name : String) (versions : List String) : List String :=
  versions.flatMap fun version => [s!"{name}-{version}", s!"{name}-{compact version}"]

/-- Whether a text names one of the versions. -/
def namesVersion (versions : List String) (text : Bytes) : Bool :=
  versions.any fun version => Bytes.contains (utf8 s!"version {version}") (Utf8.lossy text)

def notFound (name : String) (versions : List String) : ToolError :=
  .notFound name (", ".intercalate versions)

/-- Find a program of one of some versions. A name without a version is taken
only when the first such program says that it is one of them. -/
def findProgram {σ : Type} (around : Surroundings σ) (name : String) (versions : List String)
    (searchPath : Option Bytes) (s : σ) : Except ToolError Path × σ :=
  let dirs := directories searchPath
  let find (name : String) : Option Path := search (around.isExecutable s) dirs (utf8 name)
  match (versionedNames name versions).findSome? find with
  | some path => (.ok path, s)
  | none =>
    match find name with
    | none => (.error (notFound name versions), s)
    | some plain =>
      match around.versionText plain s with
      | (none, s) => (.error (notFound name versions), s)
      | (some text, s) =>
        (if namesVersion versions text then .ok plain else .error (notFound name versions), s)

/-- Find the program under test: a path of several steps is taken as it is, and
a bare name is searched for. -/
def locate (isExecutable : Path → Bool) (program : Path) (searchPath : Option Bytes) : Except ToolError Path :=
  let found :=
    if program.components.length > 1 || program.isAbsolute then
      if isExecutable program then some program else none
    else search isExecutable (directories searchPath) (Utf8.lossy program.bytes)
  match found with
  | some path => .ok path
  | none => .error (.notFound program.display "any")

end Lookup
end ExitParity
