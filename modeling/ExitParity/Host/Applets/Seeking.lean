import ExitParity.Host.Applets.Inputs
import ExitParity.Host.Image

/-! The program that tells where programs are found. -/

namespace ExitParity.Program

/-- Whether a path leads to a file that can be run. -/
def isRunnable (tree : FileTree) (path : Bytes) : Bool :=
  match tree.node ⟨path⟩ with
  | .ok (.file mode _) => FileTree.mayEnter mode
  | _ => false

/-- Tell the paths of the programs that names stand for. -/
def seekPrograms (program : Program) : Deed Nat := do
  let options := (⟨"as", [], false⟩ : OptionGrammar).read program.args
  let fault? := if options.any ["version", "help"] then some (OptionFault.unknownName []) else options.fault
  match fault? with
  | some fault =>
    let _ ← program.write 2 (utf8 "Illegal option " ++ (match fault with
      | .unknownLetter letter => [0x2d, letter]
      | _ => utf8 "--") ++ [0x0a])
    program.print (utf8 "Usage: /usr/bin/which [-as] args\n")
    return 2
  | none =>
    let tree ← program.tree
    let places := Bytes.split 0x3a ((program.valueOf? (utf8 "PATH")).getD Image.defaultSearchPath)
    let code ← forEach (fun name => do
      let candidates := if name.elem Path.slash then [name]
        else places.map fun place => (if place.isEmpty then Path.dot else place) ++ Path.slash :: name
      let found := candidates.filter (isRunnable tree)
      for path in (if options.has "a" then found else found.take 1) do
        if !options.has "s" then program.print (path ++ [0x0a])
      return !found.isEmpty) options.operands
    return if options.operands.isEmpty then 1 else code

end ExitParity.Program
