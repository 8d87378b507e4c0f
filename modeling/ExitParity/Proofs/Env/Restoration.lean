import ExitParity.Env.Scope
import Mathlib.Data.List.Basic

namespace ExitParity

namespace Env

/-- Every value is one that a variable can have, as in every environment that a
process is given. -/
def Sound (env : Env) : Prop := ∀ name value, env.get? name = some value → validValue value = true

/-- Two environments differ in nothing but these variables. -/
def AgreeOff (names : List Bytes) (env other : Env) : Prop := ∀ name ∉ names, env.get? name = other.get? name

theorem AgreeOff.refl (names : List Bytes) (env : Env) : env.AgreeOff names env := fun _ _ => rfl

theorem AgreeOff.trans {names : List Bytes} {env between other : Env} (left : env.AgreeOff names between)
    (right : between.AgreeOff names other) : env.AgreeOff names other :=
  fun name outside => (left name outside).trans (right name outside)

theorem AgreeOff.eq {env other : Env} (agree : env.AgreeOff [] other) : env = other := by
  ext1
  funext name
  exact agree name List.not_mem_nil

theorem agreeOff_put {names : List Bytes} {name : Bytes} (member : name ∈ names) (env : Env) (value : Option Bytes) :
    (env.put name value).AgreeOff names env := by
  intro other outside
  rw [get?_put, if_neg]
  rintro rfl
  exact outside member

theorem sound_empty : empty.Sound := nofun

theorem Sound.prior {env : Env} (sound : env.Sound) (name : Bytes) : (env.get? name).all validValue = true := by
  cases here : env.get? name with
  | none => rfl
  | some value => exact sound name value here

theorem Sound.put {env : Env} (sound : env.Sound) (name : Bytes) {value : Option Bytes}
    (valid : value.all validValue = true) : (env.put name value).Sound := by
  intro other held there
  rw [get?_put] at there
  split at there
  · subst there
    exact valid
  · exact sound other held there

theorem change?_eq_some {env changed : Env} {name : Bytes} {value : Option Bytes}
    (done : env.change? name value = some changed) :
    validName name = true ∧ value.all validValue = true ∧ changed = env.put name value := by
  unfold change? at done
  split at done
  · next valid =>
    rw [Bool.and_eq_true] at valid
    exact ⟨valid.1, valid.2, (Option.some.inj done).symm⟩
  · cases done

end Env

namespace Scope

/-- A scope that can be left: what it puts back can be had. -/
structure Restorable (scope : Scope) : Prop where
  name : Env.validName scope.name = true
  prior : scope.prior.all Env.validValue = true

theorem Restorable.leave?_eq {scope : Scope} (restorable : scope.Restorable) (env : Env) :
    scope.leave? env = some (scope.leave env) := by
  simp only [leave?, Env.change?, restorable.name, restorable.prior, Bool.and_self, if_true, leave]

theorem enter?_eq_some {env inside : Env} {name value : Bytes} {scope : Scope}
    (entered : enter? env name value = some (scope, inside)) :
    Env.validName name = true ∧ Env.validValue value = true ∧ scope = ⟨name, env.get? name⟩ ∧
      inside = env.put name (some value) := by
  unfold enter? at entered
  split at entered
  · next valid =>
    rw [Bool.and_eq_true] at valid
    obtain ⟨rfl, rfl⟩ := Prod.mk.inj (Option.some.inj entered)
    exact ⟨valid.1, valid.2, rfl, rfl⟩
  · cases entered

/-- The environment behind scopes that are left, the last one first. -/
def unwind (scopes : List Scope) (env : Env) : Env := scopes.foldr leave env

theorem leaveAll?_eq {scopes : List Scope} (restorable : ∀ scope ∈ scopes, scope.Restorable) (env : Env) :
    leaveAll? scopes env = some (unwind scopes env) := by
  induction scopes with
  | nil => rfl
  | cons scope rest ih =>
    obtain ⟨here, later⟩ := List.forall_mem_cons.mp restorable
    rw [leaveAll?, ih later, Option.bind_some, here.leave?_eq]
    rfl

theorem unwind_concat (scopes : List Scope) (scope : Scope) (env : Env) :
    unwind (scopes ++ [scope]) env = unwind scopes (scope.leave env) := by
  simp [unwind]

/-- What the scopes override does not matter behind them. -/
theorem unwind_agree {outer : List Bytes} {scopes : List Scope} {env other : Env}
    (agree : env.AgreeOff (outer ++ scopes.map Scope.name) other) :
    (unwind scopes env).AgreeOff outer (unwind scopes other) := by
  induction scopes generalizing outer with
  | nil => simpa [unwind] using agree
  | cons scope rest ih =>
    have later : (unwind rest env).AgreeOff (outer ++ [scope.name]) (unwind rest other) := by
      apply ih
      simpa using agree
    intro name outside
    change ((unwind rest env).put scope.name scope.prior).get? name =
      ((unwind rest other).put scope.name scope.prior).get? name
    rw [Env.get?_put, Env.get?_put]
    split
    · rfl
    · next other => exact later name (by simp [outside, other])

theorem leave_put (env : Env) (name : Bytes) (value : Option Bytes) :
    leave ⟨name, env.get? name⟩ (env.put name value) = env := by
  simp only [leave, Env.put_put, Env.put_get?]

/-- The variables that the scopes of a level override. -/
def Level.names (level : Level) : List Bytes := level.scopes.map Scope.name

/-- The place of the scope that is to be left. -/
def Level.place (level : Level) (index : Option Nat) : Nat := index.getD (level.scopes.length - 1)

mutual

/-- How an action is carried out when every restore in it goes well. What ends
the body of a scope ends the scope too. -/
inductive Action.Goes : Level → Action → Ending → Level → Prop
  | set {level : Level} {name value : Bytes} {env : Env} (changed : level.env.change? name (some value) = some env) :
      Action.Goes level (.set name value) .value { level with env }
  | setRefused {level : Level} {name value : Bytes} (refused : level.env.change? name (some value) = none) :
      Action.Goes level (.set name value) .panic level
  | remove {level : Level} {name : Bytes} {env : Env} (changed : level.env.change? name none = some env) :
      Action.Goes level (.remove name) .value { level with env }
  | removeRefused {level : Level} {name : Bytes} (refused : level.env.change? name none = none) :
      Action.Goes level (.remove name) .panic level
  | enter {level : Level} {name value : Bytes} {scope : Scope} {env : Env}
      (entered : enter? level.env name value = some (scope, env)) :
      Action.Goes level (.enter name value) .value ⟨env, level.scopes ++ [scope]⟩
  | enterRefused {level : Level} {name value : Bytes} (refused : enter? level.env name value = none) :
      Action.Goes level (.enter name value) .panic level
  | leave {level : Level} {index : Option Nat} {scope : Scope} {restored : Env}
      (found : level.scopes[level.place index]? = some scope) (back : scope.leave? level.env = some restored) :
      Action.Goes level (.leave index) .value ⟨restored, level.scopes.eraseIdx (level.place index)⟩
  | leaveNothing {level : Level} {index : Option Nat} (nothing : level.scopes[level.place index]? = none) :
      Action.Goes level (.leave index) .value level
  | within {level : Level} {name value : Bytes} {body : List Action} {ending ended : Ending} {scope : Scope}
      {inside left restored : Env} (entered : enter? level.env name value = some (scope, inside))
      (course : Level.Goes ⟨inside, []⟩ body ending ended left) (back : scope.leave? left = some restored) :
      Action.Goes level (.within name value body ending) ended { level with env := restored }
  | withinRefused {level : Level} {name value : Bytes} {body : List Action} {ending : Ending}
      (refused : enter? level.env name value = none) : Action.Goes level (.within name value body ending) .panic level

/-- How a level goes, up to its end or the first panic, with the environment
behind its scopes. -/
inductive Level.Goes : Level → List Action → Ending → Ending → Env → Prop
  | ended {level : Level} {ending : Ending} {env : Env} (back : leaveAll? level.scopes level.env = some env) :
      Level.Goes level [] ending ending env
  | struck {level left : Level} {action : Action} {rest : List Action} {ending : Ending} {env : Env}
      (goes : action.Goes level .panic left) (back : leaveAll? left.scopes left.env = some env) :
      Level.Goes level (action :: rest) ending .panic env
  | next {level after : Level} {action : Action} {rest : List Action} {ending done ended : Ending} {env : Env}
      (goes : action.Goes level done after) (unstruck : done ≠ .panic) (later : Level.Goes after rest ending ended env) :
      Level.Goes level (action :: rest) ending ended env

end

mutual

/-- Whether the plain changes of an action touch only what a live scope of the
level or of those around it overrides at that moment, and only the last scope
of a level is ever left. A change that is refused touches nothing. -/
def Action.isConfined (depth : Nat) (outer : List Bytes) (level : Level) : Action → Bool
  | .set name value => (level.env.change? name (some value)).isNone || (outer ++ level.names).elem name
  | .remove name => (level.env.change? name none).isNone || (outer ++ level.names).elem name
  | .enter .. => true
  | .leave index => level.scopes.length ≤ level.place index + 1
  | .within name value body _ =>
    match enter? level.env name value with
    | none => true
    | some (_, inside) => allConfined (depth + 1) (name :: (outer ++ level.names)) ⟨inside, []⟩ body

/-- Whether the actions of a level are confined, up to the first panic. -/
def allConfined (depth : Nat) (outer : List Bytes) (level : Level) : List Action → Bool
  | [] => true
  | action :: rest =>
    action.isConfined depth outer level &&
      match action.run depth level with
      | (.panic, _, _) => true
      | (_, after, _) => allConfined depth outer after rest

end

/-- What links the live scopes of a level to the environment before it: behind
them it is that environment again, but for the variables overridden around the
level. -/
structure Level.Rests (outer : List Bytes) (base : Env) (level : Level) : Prop where
  sound : level.env.Sound
  restorable : ∀ scope ∈ level.scopes, scope.Restorable
  back : (unwind level.scopes level.env).AgreeOff outer base

theorem Restorable.sound_leave {scope : Scope} (restorable : scope.Restorable) {env : Env} (sound : env.Sound) :
    (scope.leave env).Sound :=
  sound.put scope.name restorable.prior

theorem sound_unwind {scopes : List Scope} (restorable : ∀ scope ∈ scopes, scope.Restorable) {env : Env}
    (sound : env.Sound) : (unwind scopes env).Sound := by
  induction scopes with
  | nil => exact sound
  | cons scope rest ih =>
    obtain ⟨here, later⟩ := List.forall_mem_cons.mp restorable
    exact here.sound_leave (ih later)

theorem concat_of_getElem? {α : Type} {items : List α} {index : Nat} {item : α} (found : items[index]? = some item)
    (last : items.length ≤ index + 1) : ∃ before, items = before ++ [item] ∧ index = before.length := by
  obtain ⟨inside, here⟩ := List.getElem?_eq_some_iff.mp found
  refine ⟨items.take index, ?_, by simp; omega⟩
  calc items
      = items.take (index + 1) := (List.take_of_length_le last).symm
    _ = items.take index ++ [item] := by rw [List.take_add_one, found, Option.toList_some]

namespace Level.Rests

variable {outer : List Bytes} {base : Env} {level : Level}

theorem start {env : Env} (sound : env.Sound) (outer : List Bytes) : Level.Rests outer env ⟨env, []⟩ :=
  ⟨sound, nofun, .refl outer env⟩

theorem change (rests : level.Rests outer base) {env : Env} (sound : env.Sound)
    (agree : env.AgreeOff (outer ++ level.names) level.env) : Level.Rests outer base { level with env } :=
  ⟨sound, rests.restorable, (unwind_agree agree).trans rests.back⟩

theorem enter (rests : level.Rests outer base) {name value : Bytes} {scope : Scope} {inside : Env}
    (entered : enter? level.env name value = some (scope, inside)) :
    Level.Rests outer base ⟨inside, level.scopes ++ [scope]⟩ := by
  obtain ⟨validName, validValue, rfl, rfl⟩ := enter?_eq_some entered
  refine ⟨rests.sound.put name validValue, fun scope member => ?_, ?_⟩
  · rcases List.mem_append.mp member with old | new
    · exact rests.restorable scope old
    · obtain rfl := List.mem_singleton.mp new
      exact ⟨validName, rests.sound.prior name⟩
  · change (unwind (level.scopes ++ [_]) _).AgreeOff outer base
    rw [unwind_concat, leave_put]
    exact rests.back

theorem leave (rests : level.Rests outer base) {index : Nat} {scope : Scope}
    (found : level.scopes[index]? = some scope) (last : level.scopes.length ≤ index + 1) :
    scope.leave? level.env = some (scope.leave level.env) ∧
      Level.Rests outer base ⟨scope.leave level.env, level.scopes.eraseIdx index⟩ := by
  obtain ⟨env, scopes⟩ := level
  obtain ⟨before, rfl, rfl⟩ := concat_of_getElem? found last
  have restorable : scope.Restorable := rests.restorable scope (by simp)
  have left : (before ++ [scope]).eraseIdx before.length = before := by
    rw [List.eraseIdx_append_of_length_le (Nat.le_refl _), Nat.sub_self, List.eraseIdx_cons_zero, List.append_nil]
  have back := rests.back
  rw [unwind_concat] at back
  refine ⟨restorable.leave?_eq env, restorable.sound_leave rests.sound, fun other member => ?_, ?_⟩
  · rw [left] at member
    exact rests.restorable other (List.mem_append_left _ member)
  · rw [left]
    exact back

theorem close (rests : level.Rests outer base) (ending : Ending) :
    leaveAll? level.scopes level.env = some (unwind level.scopes level.env) ∧
      level.close ending = (ending, unwind level.scopes level.env) ∧ (unwind level.scopes level.env).Sound := by
  have all := leaveAll?_eq rests.restorable level.env
  refine ⟨all, ?_, sound_unwind rests.restorable rests.sound⟩
  simp only [Level.close, all]

end Level.Rests

/-- A plain change that is confined changes nothing behind the scopes. -/
theorem Level.Rests.change? {outer : List Bytes} {base : Env} {level : Level} (rests : level.Rests outer base)
    {name : Bytes} {value : Option Bytes} {env : Env} (changed : level.env.change? name value = some env)
    (member : (outer ++ level.names).elem name = true) : Level.Rests outer base { level with env } := by
  obtain ⟨-, valid, rfl⟩ := Env.change?_eq_some changed
  exact rests.change (rests.sound.put name valid) (Env.agreeOff_put (List.mem_of_elem_eq_true member) _ _)

mutual

theorem Action.goes (depth : Nat) {outer : List Bytes} {base : Env} {level : Level} (rests : level.Rests outer base)
    (action : Action) (confined : action.isConfined depth outer level = true) :
    Action.Goes level action (action.run depth level).1 (action.run depth level).2.1 ∧
      (action.run depth level).2.1.Rests outer base := by
  match action with
  | .set name value =>
    cases changed : level.env.change? name (some value) with
    | none =>
      simp only [Action.run, Level.change, changed]
      exact ⟨.setRefused changed, rests⟩
    | some env =>
      simp only [Action.isConfined, changed, Option.isNone_some, Bool.false_or] at confined
      simp only [Action.run, Level.change, changed]
      exact ⟨.set changed, rests.change? changed confined⟩
  | .remove name =>
    cases changed : level.env.change? name none with
    | none =>
      simp only [Action.run, Level.change, changed]
      exact ⟨.removeRefused changed, rests⟩
    | some env =>
      simp only [Action.isConfined, changed, Option.isNone_some, Bool.false_or] at confined
      simp only [Action.run, Level.change, changed]
      exact ⟨.remove changed, rests.change? changed confined⟩
  | .enter name value =>
    cases entered : enter? level.env name value with
    | none =>
      simp only [Action.run, entered]
      exact ⟨.enterRefused entered, rests⟩
    | some pair =>
      simp only [Action.run, entered]
      exact ⟨.enter entered, rests.enter entered⟩
  | .leave index =>
    simp only [Action.isConfined, decide_eq_true_eq] at confined
    change Action.Goes level (.leave index) (level.leaveAt (level.place index)).1
      (level.leaveAt (level.place index)).2 ∧ (level.leaveAt (level.place index)).2.Rests outer base
    cases found : level.scopes[level.place index]? with
    | none =>
      simp only [Level.leaveAt, found]
      exact ⟨.leaveNothing found, rests⟩
    | some scope =>
      obtain ⟨back, left⟩ := rests.leave found confined
      simp only [Level.leaveAt, found, back]
      exact ⟨.leave found back, left⟩
  | .within name value body ending =>
    cases entered : enter? level.env name value with
    | none =>
      simp only [Action.run, entered]
      exact ⟨.withinRefused entered, rests⟩
    | some pair =>
      obtain ⟨scope, inside⟩ := pair
      simp only [Action.isConfined, entered] at confined
      obtain ⟨validName, validValue, scopeEq, insideEq⟩ := enter?_eq_some entered
      have soundInside : inside.Sound := insideEq ▸ rests.sound.put name validValue
      have restorable : scope.Restorable := scopeEq ▸ ⟨validName, rests.sound.prior name⟩
      obtain ⟨course, soundLeft, agree⟩ := runAll_goes (depth + 1) (.start soundInside _) body ending confined
      rcases ran : runAll (depth + 1) ⟨inside, []⟩ body ending with ⟨⟨ended, left⟩, notes⟩
      rw [ran] at course soundLeft agree
      have back := restorable.leave?_eq left
      have closed : Level.close ⟨left, [scope]⟩ ended = (ended, scope.leave left) := by
        simp only [Level.close, leaveAll?, Option.bind_some, back]
      simp only [Action.run, entered, ran, closed]
      refine ⟨.within entered course back, rests.change (restorable.sound_leave soundLeft) fun other outside => ?_⟩
      subst scopeEq insideEq
      by_cases same : other = name
      · subst same
        simp [leave, Env.get?_put]
      · have kept := agree other (by simp [same, outside])
        simpa [leave, Env.get?_put, same] using kept

theorem runAll_goes (depth : Nat) {outer : List Bytes} {base : Env} {level : Level} (rests : level.Rests outer base)
    (actions : List Action) (ending : Ending) (confined : allConfined depth outer level actions = true) :
    Level.Goes level actions ending (runAll depth level actions ending).1.1 (runAll depth level actions ending).1.2 ∧
      (runAll depth level actions ending).1.2.Sound ∧
      (runAll depth level actions ending).1.2.AgreeOff outer base := by
  match actions with
  | [] =>
    obtain ⟨all, closed, sound⟩ := rests.close ending
    simp only [runAll, closed]
    exact ⟨.ended all, sound, rests.back⟩
  | action :: rest =>
    simp only [allConfined, Bool.and_eq_true] at confined
    obtain ⟨here, later⟩ := confined
    obtain ⟨goes, restsAfter⟩ := action.goes depth rests here
    rcases ran : action.run depth level with ⟨done, after, notes⟩
    rw [ran] at goes restsAfter later
    cases done with
    | panic =>
      obtain ⟨all, closed, sound⟩ := restsAfter.close .panic
      simp only [runAll, ran, closed]
      exact ⟨.struck goes all, sound, restsAfter.back⟩
    | value | error =>
      obtain ⟨course, sound, agree⟩ := runAll_goes depth restsAfter rest ending later
      simp only [runAll, ran]
      exact ⟨.next goes (by nofun) course, sound, agree⟩

end

theorem Level.Goes.ended_cases {level : Level} {actions : List Action} {ending ended : Ending} {env : Env}
    (goes : Level.Goes level actions ending ended env) : ended = ending ∨ ended = .panic := by
  match goes with
  | .ended _ => exact .inl rfl
  | .struck _ _ => exact .inr rfl
  | .next _ _ later => exact later.ended_cases

/-- Whichever way a confined program ends, the environment behind it is the one
before it. Every restore goes well, and what ends a body ends its scope. -/
theorem restored_of_confined {env : Env} (sound : env.Sound) {program : List Action} {ending : Ending}
    (confined : allConfined 0 [] ⟨env, []⟩ program = true) :
    ∃ ended notes, runAll 0 ⟨env, []⟩ program ending = ((ended, env), notes) ∧
      Level.Goes ⟨env, []⟩ program ending ended env ∧ (ended = ending ∨ ended = .panic) := by
  obtain ⟨goes, -, agree⟩ := runAll_goes 0 (.start sound []) program ending confined
  have same : (runAll 0 ⟨env, []⟩ program ending).1.2 = env := agree.eq
  rw [same] at goes
  exact ⟨_, _, Prod.ext (Prod.ext rfl same) rfl, goes, goes.ended_cases⟩

/-- One variable is absent and one empty, both are overridden twice, and the
innermost body is struck by a name that no variable can have. -/
theorem struck_restored :
    let absent : Bytes := [0x41]
    let empty : Bytes := [0x42]
    let env : Env := Env.empty.put empty (some [])
    let innermost : Action := .within absent [0x33] [.set absent [0x34], .set [] [0x35]] .value
    let inner : Action := .within empty [0x78] [.set empty [0x79], .remove absent, .enter empty [0x7a],
      .enter absent [0x32], .leave none, .remove empty, innermost] .error
    ∃ notes, runAll 0 ⟨env, []⟩ [.enter absent [0x31], inner, .set absent [0x36]] .value = ((.panic, env), notes) := by
  intro absent empty env innermost inner
  have sound : env.Sound := Env.sound_empty.put empty (by decide)
  have confined : allConfined 0 [] ⟨env, []⟩ [.enter absent [0x31], inner, .set absent [0x36]] = true := by decide
  obtain ⟨ended, notes, ran, -, -⟩ := @restored_of_confined env sound _ .value confined
  have struck : (runAll 0 ⟨env, []⟩ [.enter absent [0x31], inner, .set absent [0x36]] .value).1.1 = .panic := by decide
  rw [ran] at struck
  subst struck
  exact ⟨notes, ran⟩

/-- Whether the actions of a program are confined when a panic ends only the
action that it struck. -/
def programConfined (level : Level) : List Action → Bool
  | [] => true
  | action :: rest => action.isConfined 0 [] level && programConfined (action.run 0 level).2.1 rest

/-- Catching the panics one by one makes no difference to the environment. -/
theorem runProgram_restored {base : Env} {level : Level} (rests : level.Rests [] base) {program : List Action}
    (confined : programConfined level program = true) : (runProgram level program).1 = base := by
  induction program generalizing level with
  | nil =>
    obtain ⟨-, closed, -⟩ := rests.close .value
    simp only [runProgram, closed]
    exact rests.back.eq
  | cons action rest ih =>
    simp only [programConfined, Bool.and_eq_true] at confined
    exact ih (action.goes 0 rests confined.1).2 confined.2

end Scope
end ExitParity
