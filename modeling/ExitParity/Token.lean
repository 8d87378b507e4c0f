namespace ExitParity

/-- A switch that is set at one moment, or never, and stays set. -/
structure Token where
  setAt : Option Nat
  deriving DecidableEq

namespace Token

def unset : Token := ⟨none⟩

def isSet (token : Token) (now : Nat) : Bool := token.setAt.any (· ≤ now)

/-- Set the token now. A token that is set keeps its moment. -/
def cancel (token : Token) (now : Nat) : Token :=
  if token.isSet now then token else ⟨some now⟩

theorem isSet_of_le {token : Token} {earlier later : Nat} (order : earlier ≤ later)
    (set : token.isSet earlier = true) : token.isSet later = true := by
  cases moment : token.setAt with
  | none => simp [isSet, moment] at set
  | some setAt =>
    simp only [isSet, moment, Option.any_some, decide_eq_true_eq] at set ⊢
    omega

theorem isSet_cancel (token : Token) {now later : Nat} (order : now ≤ later) :
    (token.cancel now).isSet later = true := by
  unfold cancel
  split
  · next set => exact isSet_of_le order set
  · simpa [isSet] using order

end Token

/-- Token handles in the order of their making. A copy of a handle shares the
flag of the handle it was made from. -/
structure TokenHandles where
  flags : List Bool
  flagOf : List Nat

namespace TokenHandles

def one : TokenHandles := ⟨[false], [0]⟩

/-- Add a handle with a flag of its own. -/
def fresh (handles : TokenHandles) : TokenHandles :=
  ⟨handles.flags ++ [false], handles.flagOf ++ [handles.flags.length]⟩

/-- Add a copy of a handle. -/
def copy (handles : TokenHandles) (handle : Nat) : TokenHandles :=
  { handles with flagOf := handles.flagOf ++ handles.flagOf[handle]?.toList }

def cancel (handles : TokenHandles) (handle : Nat) : TokenHandles :=
  match handles.flagOf[handle]? with
  | some flag => { handles with flags := handles.flags.set flag true }
  | none => handles

/-- What every handle reads. -/
def readings (handles : TokenHandles) : List Bool :=
  handles.flagOf.map fun flag => handles.flags[flag]?.getD false

end TokenHandles
end ExitParity
