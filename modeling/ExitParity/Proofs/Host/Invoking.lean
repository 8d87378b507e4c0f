import ExitParity.Host.Watch

namespace ExitParity

theorem Token.isSet_unset (now : Nat) : unset.isSet now = false := rfl

namespace Host

theorem passes_readToken (host : Host) : host.Passes host.readToken.2 := ⟨rfl, rfl⟩

theorem passes_start (host : Host) (image : Image) (env : List (Bytes × Bytes)) (files : List OpenFile) :
    host.Passes (host.start image env files).2 := ⟨rfl, rfl⟩

end Host

namespace Watch

theorem passes_cleanUp (watch : Watch) (cleanup : Invocation.Cleanup) (host : Host) :
    host.Passes (watch.cleanUp cleanup host) := by
  cases cleanup <;> exact ⟨rfl, rfl⟩

theorem passes_conclude (watch : Watch) (ending : Invocation.Ending) (host : Host) :
    host.Passes (watch.conclude ending host).2 :=
  (watch.passes_cleanUp ending.cleanup host).trans ⟨rfl, rfl⟩

/-- A look ends the watch, or it leads to one more look a pause later. -/
theorem lookBy_cases (polling : Polling) (watch : Watch) (host : Host) :
    let polled := polling.poll watch.process watch.due host
    (∃ ending, Invocation.look host.token watch.tool.limit watch.started watch.phase polled.1 = .error ending ∧
      watch.lookBy polling host = (.finished (watch.conclude ending polled.2).1, (watch.conclude ending polled.2).2)) ∨
    ∃ phase, Invocation.look host.token watch.tool.limit watch.started watch.phase polled.1 = .ok phase ∧
      watch.lookBy polling host =
        (.pending { watch with phase, due := polled.2.clock + Invocation.pollInterval }, polled.2) := by
  intro polled
  have token : polled.2.token = host.token := polling.token watch.process watch.due host
  cases stage : Invocation.look host.token watch.tool.limit watch.started watch.phase polled.1 with
  | error ending =>
    refine .inl ⟨ending, rfl, ?_⟩
    simp only [lookBy, polled] at token stage ⊢
    simp only [token, stage]
  | ok phase =>
    refine .inr ⟨phase, rfl, ?_⟩
    simp only [lookBy, polled] at token stage ⊢
    simp only [token, stage]

theorem passes_look (watch : Watch) (host : Host) : host.Passes (watch.look host).2 := by
  have advanced : host.Passes (Polling.ofHost.poll watch.process watch.due host).2 := host.passes_advanceTo watch.due
  rcases watch.lookBy_cases .ofHost host with ⟨ending, -, looked⟩ | ⟨phase, -, looked⟩
  · rw [look, looked]
    exact advanced.trans (watch.passes_conclude ending _)
  · rw [look, looked]
    exact advanced

theorem passes_toEnd (looks : Nat) (watch : Watch) (host : Host) :
    host.Passes (toEndBy .ofHost looks watch host).2 := by
  induction looks generalizing watch host with
  | zero => exact .refl host
  | succ looks ih =>
    have looked : host.Passes (watch.lookBy .ofHost host).2 := watch.passes_look host
    unfold toEndBy
    split
    · next answer after seen =>
      rw [seen] at looked
      exact looked
    · next later after seen =>
      rw [seen] at looked
      exact looked.trans (ih later after)

/-- Whether a watch comes to an end within so many looks. -/
def endsWithin (polling : Polling) : Nat → Watch → Host → Bool
  | 0, _, _ => false
  | looks + 1, watch, host =>
    match watch.lookBy polling host with
    | (.finished _, _) => true
    | (.pending watch, host) => endsWithin polling looks watch host

end Watch

namespace Tool

/-- What the start of a tool on a file comes to. -/
inductive Begins (tool : Tool) (file : Path) (host : Host) : Stage Watch Answer × Host → Prop
  | interrupted (set : host.token.isSet host.clock = true) :
      Begins tool file host (.finished (.error (tool.interrupted file)), host.readToken.2)
  | unlaunched (cause : Fault) :
      Begins tool file host (.finished (.error (tool.unlaunched file cause)), host.readToken.2)
  | started {image : Image} {process : Nat} {started : Host}
      (loaded : host.readToken.2.imageOf tool.program (tool.argv file) tool.env = .ok image)
      (start : host.readToken.2.start image (host.environment tool.env) tool.openFiles = (process, started)) :
      Begins tool file host (.pending (tool.watchOver file process started), started)

theorem begins (tool : Tool) (file : Path) (host : Host) : tool.Begins file host (tool.begin file host) := by
  unfold begin
  simp only
  split
  · next set => exact .interrupted set
  · split
    · exact .unlaunched _
    · split
      · exact .unlaunched _
      · next loaded => exact .started loaded rfl

theorem passes_begin (tool : Tool) (file : Path) (host : Host) : host.Passes (tool.begin file host).2 := by
  have begins := tool.begins file host
  generalize tool.begin file host = begun at begins ⊢
  cases begins with
  | interrupted set => exact host.passes_readToken
  | unlaunched cause => exact host.passes_readToken
  | @started image process after loaded start =>
    have started := host.readToken.2.passes_start image (host.environment tool.env) tool.openFiles
    rw [start] at started
    exact host.passes_readToken.trans started

/-- What is watched over is the program that was found for the tool, started
with the tool's variables put over the program's own environment. -/
theorem begin_found {tool : Tool} {file : Path} {host after : Host} {watch : Watch}
    (begun : tool.begin file host = (.pending watch, after)) :
    ∃ image process, host.readToken.2.imageOf tool.program (tool.argv file) tool.env = .ok image ∧
      host.readToken.2.start image (host.environment tool.env) tool.openFiles = (process, after) ∧
      watch = tool.watchOver file process after := by
  have begins := tool.begins file host
  rw [begun] at begins
  cases begins with
  | started loaded start => exact ⟨_, _, loaded, start, rfl⟩

/-- A program that can be loaded is started, unless the token is set. -/
theorem begin_loaded {tool : Tool} {file : Path} {host started : Host} {image : Image} {process : Nat}
    (unset : host.token.isSet host.clock = false) (plain : tool.hasZero file = false)
    (loaded : host.readToken.2.imageOf tool.program (tool.argv file) tool.env = .ok image)
    (start : host.readToken.2.start image (host.environment tool.env) tool.openFiles = (process, started)) :
    tool.begin file host = (.pending (tool.watchOver file process started), started) := by
  have reading : host.readToken.1 = false := unset
  have same : host.readToken.2.environment tool.env = host.environment tool.env := rfl
  simp only [begin, reading, plain, loaded, same, start, Bool.false_eq_true, if_false]

theorem begin_pending {tool : Tool} {file : Path} {host : Host} {image : Image}
    (unset : host.token.isSet host.clock = false) (plain : tool.hasZero file = false)
    (loaded : host.readToken.2.imageOf tool.program (tool.argv file) tool.env = .ok image) :
    ∃ watch, tool.begin file host =
      (.pending watch, (host.readToken.2.start image (host.environment tool.env) tool.openFiles).2) :=
  ⟨_, begin_loaded unset plain loaded rfl⟩

/-- A tool that runs on a file leaves the program's own environment and the
token as they are. -/
theorem passes_invoke (tool : Tool) (file : Path) (host : Host) : host.Passes (tool.invoke file host).2 := by
  have begun := tool.passes_begin file host
  unfold invoke invokeBy
  split
  · next answer after first =>
    rw [first] at begun
    exact begun
  · next watch after first =>
    rw [first] at begun
    exact begun.trans (watch.passes_toEnd _ after)

/-- Whether a tool that is run on a file comes to its end, by some way to poll
its process. -/
def returnsBy (polling : Polling) (tool : Tool) (file : Path) (host : Host) : Bool :=
  match tool.begin file host with
  | (.finished _, _) => true
  | (.pending watch, host) => watch.endsWithin polling Watch.lookLimit host

/-- Whether a tool that is run on a file comes to its end. -/
def returns (tool : Tool) (file : Path) (host : Host) : Bool := tool.returnsBy .ofHost file host

/-- The answers of a tool that nobody interrupts. -/
inductive Concludes (tool : Tool) (file : Path) : Answer → Prop
  | ran (run : Execution) : Concludes tool file (.ok run)
  | unlaunched (cause : Fault) : Concludes tool file (.error (tool.unlaunched file cause))
  | lost (cause : Fault) : Concludes tool file (.error (.wait tool.program.display file.display cause))

theorem Concludes.genuine {tool : Tool} {file : Path} {error : ToolError}
    (concludes : tool.Concludes file (.error error)) : error.isInterrupt = false := by
  cases concludes <;> rfl

end Tool

namespace Invocation

theorem settle_unset {code : Int} {since : Nat} {poll : Poll} {ending : Ending}
    (ended : settle .unset code since poll = .error ending) : ending.result ≠ .interrupted := by
  unfold settle at ended
  split at ended
  · obtain rfl := Except.error.inj ended
    nofun
  · cases ended

/-- A look under a token that is not set ends in no interrupt. -/
theorem look_unset {limit : Option Nat} {started : Nat} {phase : Phase} {poll : Poll} {ending : Ending}
    (ended : look .unset limit started phase poll = .error ending) : ending.result ≠ .interrupted := by
  unfold look at ended
  simp only [Token.isSet_unset, Bool.false_eq_true, if_false] at ended
  cases phase with
  | settling code since => exact settle_unset ended
  | watching =>
    simp only at ended
    split at ended
    · split at ended
      · exact settle_unset ended
      · obtain rfl := Except.error.inj ended
        nofun
    · obtain rfl := Except.error.inj ended
      nofun
    · split at ended
      · obtain rfl := Except.error.inj ended
        nofun
      · cases ended

end Invocation

namespace Watch

theorem answer_concludes {watch : Watch} {result : Invocation.Result} (genuine : result ≠ .interrupted) :
    watch.tool.Concludes watch.file (watch.answer result) := by
  cases result with
  | exited code => exact .ran _
  | timedOut => exact .ran _
  | lost cause => exact .lost cause
  | interrupted => exact absurd rfl genuine

theorem look_cases {watch : Watch} {host : Host} (unset : host.token = .unset) :
    (∃ later, (watch.look host).1 = .pending later ∧ later.tool = watch.tool ∧ later.file = watch.file) ∨
      ∃ answer, (watch.look host).1 = .finished answer ∧ watch.tool.Concludes watch.file answer := by
  rcases watch.lookBy_cases .ofHost host with ⟨ending, ended, looked⟩ | ⟨phase, -, looked⟩
  · rw [unset] at ended
    rw [look, looked]
    exact .inr ⟨_, rfl, answer_concludes (Invocation.look_unset ended)⟩
  · rw [look, looked]
    exact .inl ⟨_, rfl, rfl, rfl⟩

theorem toEnd_concludes {looks : Nat} {watch : Watch} {host : Host} (unset : host.token = .unset)
    (ends : watch.endsWithin .ofHost looks host = true) :
    watch.tool.Concludes watch.file (toEndBy .ofHost looks watch host).1 := by
  induction looks generalizing watch host with
  | zero => cases ends
  | succ looks ih =>
    have cases_ := @look_cases watch host unset
    have kept := (watch.passes_look host).token.trans unset
    unfold look at cases_ kept
    unfold endsWithin at ends
    unfold toEndBy
    rcases looked : watch.lookBy .ofHost host with ⟨stage, after⟩
    rw [looked] at cases_ kept
    simp only [looked] at ends
    rcases cases_ with ⟨later, rfl, tool, file⟩ | ⟨answer, rfl, concludes⟩
    · have concludes := ih kept ends
      rwa [tool, file] at concludes
    · exact concludes

end Watch

/-- When the token is not set and the program comes to its end, a tool is not
interrupted. -/
theorem Tool.invoke_concludes {tool : Tool} {file : Path} {host : Host} (unset : host.token = .unset)
    (returns : tool.returns file host = true) : tool.Concludes file (tool.invoke file host).1 := by
  have begins := tool.begins file host
  have kept := (tool.passes_begin file host).token.trans unset
  unfold Tool.returns Tool.returnsBy at returns
  unfold invoke invokeBy
  rcases first : tool.begin file host with ⟨stage, after⟩
  rw [first] at begins kept
  simp only [first] at returns
  cases begins with
  | interrupted set =>
    rw [unset] at set
    cases set
  | unlaunched cause => exact .unlaunched cause
  | started loaded start => exact Watch.toEnd_concludes kept returns

end ExitParity
