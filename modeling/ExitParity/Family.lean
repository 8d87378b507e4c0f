namespace ExitParity

/-- The release family that artifacts are written for. -/
inductive Family where
  | llvm32
  | llvm38
  deriving DecidableEq

namespace Family

def tag : Family → String
  | .llvm32 => "3.2"
  | .llvm38 => "3.8"

/-- The releases whose tools read this family's bitcode, the preferred first. -/
def versions : Family → List String
  | .llvm32 => ["3.2", "3.3"]
  | .llvm38 => ["3.8", "3.9", "4.0", "5.0"]

def all : List Family := [.llvm32, .llvm38]

end Family
end ExitParity
