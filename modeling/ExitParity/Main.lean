import ExitParity.Host.Manifest
import ExitParity.Session

open ExitParity

/-- The variables that the program and its tools look at. -/
def inheritedVariables : List String :=
  ["PATH", "HOME", "IRDIFF_CANDIDATE", "IRDIFF_CACHE_DIR", "IRDIFF_GENERATE_CMD", "IRWRITER_LLVM_VERSION", "IRDIFF_SUITE",
    "IRDIFF_GENERATOR", "IRDIFF_EXTENSION_FILTER", "IRDIFF_COMPILE_TARGET"]

def inheritedEnv : IO Env :=
  inheritedVariables.foldlM (fun env name => do
    return env.put (utf8 name) ((← IO.getEnv name).map utf8)) Env.empty

partial def readAll (input : IO.FS.Stream) : IO String := do
  let line ← input.getLine
  if line.isEmpty then return "" else return line ++ (← readAll input)

/-- The working directory described by a text; no text is an empty directory. -/
def workingTree? (text : String) : Option FileTree :=
  if text.trimAscii.isEmpty then some FileTree.bare
  else do
    let entries ← (Json.parse? text).bind ManifestEntry.listOfJson?
    (FileTree.bare.addAll entries).toOption

/-- Run the command line on the working directory that standard input
describes, as a JSON array of files, links and directories. -/
def main (args : List String) : IO UInt32 := do
  match workingTree? (← readAll (← IO.getStdin)) with
  | none =>
    (← IO.getStderr).putStr "Error: the working directory is not described by a JSON array of entries\n"
    return Session.usageStatus.toUInt32
  | some tree =>
    let env ← inheritedEnv
    let host := Host.idle tree env (inheritedVariables.map utf8) Token.unset SinkFaults.never 1
    let (status, host) := Session.execute (args.map utf8) (fun _ => 0) host
    for (stream, bytes) in host.pieces do
      let output ← if stream == .err then IO.getStderr else IO.getStdout
      output.write (ByteArray.mk bytes.toArray)
    return status.toUInt32
