import ExitParity.Path

namespace ExitParity

/-- A program that is started for one file at a time. The file is always its
last argument. -/
structure Tool where
  program : Path
  args : List Bytes
  env : List (Bytes × Bytes)
  /-- The time limit of a run, in milliseconds. -/
  timeout : Option Nat
  /-- Whether the program's output is let through. -/
  showOutput : Bool
  deriving DecidableEq

namespace Tool

def ofProgram (program : Path) : Tool := ⟨program, [], [], none, false⟩

def withArgs (tool : Tool) (args : List Bytes) : Tool := { tool with args := tool.args ++ args }

def withEnv (tool : Tool) (name value : Bytes) : Tool := { tool with env := tool.env ++ [(name, value)] }

def withTimeout (tool : Tool) (timeout : Option Nat) : Tool := { tool with timeout }

def withOutput (tool : Tool) (showOutput : Bool) : Tool := { tool with showOutput }

/-- The program's file name, or the program as given when it has none. -/
def name (tool : Tool) : String := Utf8.display (tool.program.fileName?.getD tool.program.bytes)

end Tool
end ExitParity
