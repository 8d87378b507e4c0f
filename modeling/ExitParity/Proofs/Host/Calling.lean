import ExitParity.Host.Image

namespace ExitParity.Image

/-- The ways in which a program is called with some arguments: by its name, or
through an interpreter, which is given the script in front of them. -/
inductive CalledWith (program : Bytes) (args : List Bytes) : List Bytes → Prop
  | itself : CalledWith program args (program :: args)
  | script {interpreter : List Bytes} {script : Bytes} (named : interpreter ≠ []) :
      CalledWith program args (interpreter ++ script :: args)

/-- An interpreter is itself called by its name or through another one. -/
theorem CalledWith.throughInterpreter {program interpreter script : Bytes} {argument args argv : List Bytes}
    (called : CalledWith interpreter (argument ++ script :: args) argv) : CalledWith program args argv := by
  cases called with
  | itself => exact .script (List.cons_ne_nil interpreter argument)
  | @script others other named =>
    have joined : others ++ other :: (argument ++ script :: args) = (others ++ other :: argument) ++ script :: args := by
      rw [List.append_assoc, List.cons_append]
    rw [joined]
    exact .script (List.append_ne_nil_of_left_ne_nil named _)

variable {tree : FileTree} {env : List (Bytes × Bytes)} {path : Path} {program : Bytes} {args : List Bytes}
  {image : Image}

/-- What is loaded is the program itself, or the interpreter of a script. -/
theorem load_cases {depth : Nat} {argv : List Bytes} (loaded : load tree env (depth + 1) path argv = .ok image) :
    image.argv = argv ∨ ∃ name argument,
      load tree env depth ⟨name⟩ (name :: argument ++ path.bytes :: argv.drop 1) = .ok image := by
  unfold load at loaded
  split at loaded
  · cases loaded
  · split at loaded
    · cases loaded
    · split at loaded
      · cases loaded
      · split at loaded
        · obtain rfl := Except.ok.inj loaded
          exact .inl rfl
        · split at loaded
          · cases loaded
          · exact .inr ⟨_, _, loaded⟩
  · cases loaded

theorem load_calledWith {depth : Nat} (loaded : load tree env depth path (program :: args) = .ok image) :
    CalledWith program args image.argv := by
  induction depth generalizing path program args with
  | zero => cases loaded
  | succ depth ih =>
    rcases load_cases loaded with same | ⟨name, argument, interpreted⟩
    · exact same ▸ .itself
    · exact (ih interpreted).throughInterpreter

theorem ofFile_calledWith (loaded : ofFile tree env path (program :: args) = .ok image) :
    CalledWith program args image.argv := load_calledWith loaded

theorem ofFileOrText_calledWith (loaded : ofFileOrText tree env path (program :: args) = .ok image) :
    CalledWith program args image.argv := by
  unfold ofFileOrText at loaded
  split at loaded
  · exact @CalledWith.throughInterpreter program shellPath path.bytes [] args image.argv (ofFile_calledWith loaded)
  · exact ofFile_calledWith loaded

theorem search_calledWith {load : Path → Except Errno Image} {name : Bytes}
    (each : ∀ path image, load path = .ok image → CalledWith program args image.argv) {denied : Bool}
    {directories : List Bytes} {fault : Errno} (found : search load name denied directories fault = .ok image) :
    CalledWith program args image.argv := by
  induction directories generalizing denied fault with
  | nil => cases found
  | cons directory rest ih =>
    unfold search at found
    split at found
    · next loaded =>
      obtain rfl := Except.ok.inj found
      exact each _ _ loaded
    · split at found
      · exact ih found
      · cases found

/-- However a program is found, its arguments reach it as they are. -/
theorem find_calledWith {searchPath : Option Bytes} {textToo : Bool} {file : Path}
    (found : find tree env searchPath textToo file (program :: args) = .ok image) :
    CalledWith program args image.argv := by
  have each (path : Path) (image : Image)
      (loaded : (if textToo then ofFileOrText tree env path (program :: args) else ofFile tree env path (program :: args)) =
        .ok image) : CalledWith program args image.argv := by
    split at loaded
    · exact ofFileOrText_calledWith loaded
    · exact ofFile_calledWith loaded
  unfold find at found
  simp only at found
  split at found
  · cases found
  · split at found
    · exact each _ _ found
    · exact search_calledWith each found

end ExitParity.Image
