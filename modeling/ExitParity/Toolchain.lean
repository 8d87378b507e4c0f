import ExitParity.Comparison
import ExitParity.Family
import ExitParity.Host.Watch
import ExitParity.Lookup

namespace ExitParity

/-- The tools that a run works with. -/
structure Toolchain where
  assembler : Tool
  interpreter : Tool
  candidate : Tool
  deriving DecidableEq

namespace Toolchain

def assemblerName : String := "llvm-as"

def interpreterName : String := "lli"

/-- How long a program may run, in seconds, unless something else is asked for. -/
def defaultTimeout : Nat := 30

/-- What the tools of a run are chosen and set up by. -/
structure Request where
  assemblerVersions : List String
  interpreterVersions : List String
  candidate : Path
  candidateArgs : List Bytes
  timeout : Option Nat
  showOutput : Bool
  versionTag : Bytes

/-- Find the assembler, the interpreter and the candidate, in this order. The
assembler's output is always let through, and it has no time limit. -/
def resolve {σ : Type} (around : Surroundings σ) (request : Request) (searchPath : Option Bytes) (s : σ) :
    Except ToolError Toolchain × σ :=
  match Lookup.findProgram around assemblerName request.assemblerVersions searchPath s with
  | (.error error, s) => (.error error, s)
  | (.ok assembler, s) =>
    match Lookup.findProgram around interpreterName request.interpreterVersions searchPath s with
    | (.error error, s) => (.error error, s)
    | (.ok interpreter, s) =>
      match Lookup.locate (around.isExecutable s) request.candidate searchPath with
      | .error error => (.error error, s)
      | .ok candidate =>
        (.ok {
          assembler := (Tool.ofProgram assembler).withOutput true
          interpreter := ((Tool.ofProgram interpreter).withTimeout request.timeout).withOutput request.showOutput
          candidate := ((((Tool.ofProgram candidate).withArgs request.candidateArgs).withEnv versionVariable
            request.versionTag).withTimeout request.timeout).withOutput request.showOutput }, s)

/-- The tool that answers a call. -/
def toolFor (tools : Toolchain) : Call → Tool
  | .assemble _ => tools.assembler
  | .interpret _ => tools.interpreter
  | .runCandidate _ => tools.candidate

def fileOf : Call → Path
  | .assemble path | .interpret path | .runCandidate path => path

/-- The tools as what answers calls on a host, beside any state that they
leave alone. -/
def responder {σ : Type} (tools : Toolchain) : Responder Watch (Host × σ) where
  begin call world :=
    let (stage, host) := (tools.toolFor call).begin (fileOf call) world.1
    (stage, (host, world.2))
  advance watch world :=
    let (stage, host) := watch.look world.1
    (stage, (host, world.2))
  due := Watch.due

end Toolchain

namespace Host

/-- A host as what a search for programs asks. -/
def surroundings : Surroundings Host where
  isExecutable host := host.tree.isExecutable
  versionText := versionText

def searchPath (host : Host) : Option Bytes := host.env.get? (utf8 "PATH")

end Host
end ExitParity
