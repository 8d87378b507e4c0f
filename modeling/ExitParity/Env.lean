import ExitParity.Bytes

namespace ExitParity

/-- Environment variables. A variable may be absent, and an empty value is
not absence. -/
@[ext] structure Env where
  get? : Bytes → Option Bytes

namespace Env

def empty : Env := ⟨fun _ => none⟩

/-- Give a variable a value, or remove it. -/
def put (env : Env) (name : Bytes) (value : Option Bytes) : Env :=
  ⟨fun other => if other = name then value else env.get? other⟩

/-- A name that a variable can have: not empty, with no `=` and no zero byte. -/
def validName (name : Bytes) : Bool := !name.isEmpty && name.all fun byte => byte != 0x3d && byte != 0

/-- A value that a variable can have. -/
def validValue (value : Bytes) : Bool := value.all (· != 0)

/-- Change a variable, if the name and the value can be had. -/
def change? (env : Env) (name : Bytes) (value : Option Bytes) : Option Env :=
  if validName name && value.all validValue then some (env.put name value) else none

/-- What reading a name gives. A variable is kept as `name=value`, so a name
with an `=` in it is also met where a value begins with the rest of it. -/
def read (env : Env) (name : Bytes) : Option Bytes :=
  let start := name.takeWhile (· != 0x3d)
  if start.length == name.length then env.get? name
  else (env.get? start).bind fun value =>
    Bytes.stripPrefix? (name.drop (start.length + 1) ++ [0x3d]) value

/-- The variables of some names that are there. -/
def entries (env : Env) (names : List Bytes) : List (Bytes × Bytes) :=
  names.eraseDups.filterMap fun name => (env.get? name).map (name, ·)

/-- The entries that remain of a list in which the last one of a name counts. -/
def lastEntries : List (Bytes × Bytes) → List (Bytes × Bytes)
  | [] => []
  | entry :: rest =>
    if rest.any (·.1 == entry.1) then lastEntries rest else entry :: lastEntries rest

/-- The variable that an entry stands for: the entry is handed over as
`name=value` and taken apart at the first `=`. -/
def effect (entry : Bytes × Bytes) : Bytes × Bytes :=
  (entry.1.takeWhile (· != 0x3d),
    ((entry.1 ++ 0x3d :: entry.2).dropWhile (· != 0x3d)).drop 1)

/-- The environment of a child: inherited, with the entries put over it in the
order of their names. -/
def overlay (env : Env) (entries : List (Bytes × Bytes)) : Env :=
  ((lastEntries entries).mergeSort fun x y => Bytes.precedes x.1 y.1).foldl
    (fun env entry => env.put (effect entry).1 (some (effect entry).2)) env

theorem get?_put (env : Env) (name other : Bytes) (value : Option Bytes) :
    (env.put name value).get? other = if other = name then value else env.get? other := rfl

theorem put_put (env : Env) (name : Bytes) (value other : Option Bytes) :
    (env.put name value).put name other = env.put name other := by
  ext1
  funext name'
  simp only [put]
  split <;> rfl

theorem put_get? (env : Env) (name : Bytes) : env.put name (env.get? name) = env := by
  ext1
  funext other
  simp only [put]
  split
  · next same => rw [same]
  · rfl

theorem put_comm (env : Env) {name other : Bytes} (distinct : name ≠ other) (value value' : Option Bytes) :
    (env.put name value).put other value' = (env.put other value').put name value := by
  ext1
  funext name'
  simp only [put]
  split
  · next same => subst same; simp [Ne.symm distinct]
  · rfl

end Env
end ExitParity
