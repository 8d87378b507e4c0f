import ExitParity.Env

namespace ExitParity

/-- An override of one variable, with what the variable was before. -/
structure Scope where
  name : Bytes
  prior : Option Bytes

namespace Scope

/-- Override a variable. -/
def enter (env : Env) (name value : Bytes) : Scope × Env :=
  (⟨name, env.get? name⟩, env.put name (some value))

/-- Put the variable back to what it was before. -/
def leave (scope : Scope) (env : Env) : Env := env.put scope.name scope.prior

/-- Override a variable, if the name and the value can be had. -/
def enter? (env : Env) (name value : Bytes) : Option (Scope × Env) :=
  if Env.validName name && Env.validValue value then some (enter env name value) else none

/-- Put the variable back, if its name and its former value can be had. -/
def leave? (scope : Scope) (env : Env) : Option Env := env.change? scope.name scope.prior

/-- Leave scopes, the last one first. -/
def leaveAll? : List Scope → Env → Option Env
  | [], env => some env
  | scope :: rest, env => (leaveAll? rest env).bind scope.leave?

/-- How a piece of work ends. -/
inductive Ending where
  | value
  | error
  | panic
  deriving DecidableEq

/-- One thing done to the environment. -/
inductive Action where
  | set (name value : Bytes)
  | remove (name : Bytes)
  | enter (name value : Bytes)
  /-- Leave one of the level's scopes, by its place among them, or the last. -/
  | leave (index : Option Nat)
  /-- Work on a level of its own, with a variable overridden around it. -/
  | within (name value : Bytes) (body : List Action) (ending : Ending)
  deriving Inhabited

/-- The environment and the live scopes of the current level, oldest first. -/
structure Level where
  env : Env
  scopes : List Scope

/-- What was done, how deep, and the environment behind it. The beginning of
a body is noted too. -/
inductive Note where
  | body (depth : Nat) (env : Env)
  | done (depth : Nat) (action : Action) (ending : Ending) (env : Env)

/-- Leave every scope of a level. A restore that fails is a panic. -/
def Level.close (level : Level) (ending : Ending) : Ending × Env :=
  match leaveAll? level.scopes level.env with
  | some env => (ending, env)
  | none => (.panic, level.env)

/-- A plain change, or a panic that leaves the environment as it was. -/
def Level.change (level : Level) (name : Bytes) (value : Option Bytes) : Ending × Level :=
  match level.env.change? name value with
  | some env => (.value, { level with env })
  | none => (.panic, level)

/-- Leave the scope at a place; a place without a scope is passed over. -/
def Level.leaveAt (level : Level) (index : Nat) : Ending × Level :=
  match level.scopes[index]? with
  | none => (.value, level)
  | some scope =>
    match scope.leave? level.env with
    | some env => (.value, ⟨env, level.scopes.eraseIdx index⟩)
    | none => (.panic, { level with scopes := level.scopes.eraseIdx index })

mutual

/-- Carry out one action. A panic inside a body unwinds through it. -/
def Action.run (depth : Nat) (level : Level) : Action → Ending × Level × List Note
  | .set name value => let (ending, level) := level.change name (some value); (ending, level, [])
  | .remove name => let (ending, level) := level.change name none; (ending, level, [])
  | .enter name value =>
    match enter? level.env name value with
    | some (scope, env) => (.value, ⟨env, level.scopes ++ [scope]⟩, [])
    | none => (.panic, level, [])
  | .leave index =>
    let (ending, level) := level.leaveAt (index.getD (level.scopes.length - 1))
    (ending, level, [])
  | .within name value body ending =>
    match enter? level.env name value with
    | none => (.panic, level, [])
    | some (scope, inside) =>
      let ((ended, left), notes) := runAll (depth + 1) ⟨inside, []⟩ body ending
      let (ended, env) := Level.close ⟨left, [scope]⟩ ended
      (ended, { level with env }, .body (depth + 1) inside :: notes)

/-- Carry out a body up to its first panic, with the scopes left at its end. -/
def runAll (depth : Nat) (level : Level) : List Action → Ending → (Ending × Env) × List Note
  | [], ending => (level.close ending, [])
  | action :: rest, ending =>
    match action.run depth level with
    | (.panic, level, notes) => (level.close .panic, notes)
    | (ended, level, notes) =>
      let (closed, more) := runAll depth level rest ending
      (closed, notes ++ .done depth action ended level.env :: more)

end

/-- Carry out a program on the outermost level, where a panic ends only the
action that it struck. -/
def runProgram (level : Level) : List Action → Env × List Note
  | [] => ((level.close .value).2, [])
  | action :: rest =>
    let (ended, level, notes) := action.run 0 level
    let (env, more) := runProgram level rest
    (env, notes ++ .done 0 action ended level.env :: more)

end Scope
end ExitParity
