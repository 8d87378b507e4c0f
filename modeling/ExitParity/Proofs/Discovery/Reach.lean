import ExitParity.Proofs.Evaluation.Discovery

namespace ExitParity
namespace Walk

/-- A directory is none of those that one is in, which can all be opened. -/
def Outside (tree : FileTree) (above : List Path) (path : Path) : Prop :=
  ∃ number, identity? tree path = some number ∧
    ∀ outer ∈ above, ∃ other, identity? tree outer = some other ∧ other ≠ number

/-- What there is at an entry: itself, or what a link leads to, unless that is
a directory that one is in. -/
inductive Shows (tree : FileTree) (above : List Path) (path : Path) : EntryKind → EntryKind → Prop
  | entry {kind : EntryKind} (plain : kind ≠ .link) : Shows tree above path kind kind
  | link {node : Node} (leads : tree.node path = .ok node)
      (outside : node.entryKind = .directory → Outside tree above path) : Shows tree above path .link node.entryKind

/-- The entries at and below an entry, each with the directories that one is in
there. -/
inductive Below (tree : FileTree) : List Path → Path → EntryKind → List Path → Path → EntryKind → Prop
  | here (above : List Path) (path : Path) (kind : EntryKind) : Below tree above path kind above path kind
  | within {above outer : List Path} {path file : Path} {kind entry last : EntryKind} {name : Bytes}
      (directory : Shows tree above path kind .directory) (listed : (name, entry) ∈ entriesOf tree path)
      (later : Below tree (path :: above) (path.join ⟨name⟩) entry outer file last) :
      Below tree above path kind outer file last

/-- A regular file is at or below an entry, links followed. -/
def Leads (tree : FileTree) (above : List Path) (path : Path) (kind : EntryKind) (file : Path) : Prop :=
  ∃ outer last, Below tree above path kind outer file last ∧ Shows tree outer file last .regular

/-- No link at or below an entry leads nowhere. -/
def Firm (tree : FileTree) (above : List Path) (path : Path) (kind : EntryKind) : Prop :=
  ∀ outer link, Below tree above path kind outer link .link → tree.node link ≠ .error .noEntry

variable {tree : FileTree} {above : List Path} {path file : Path} {kind shown : EntryKind}

theorem Shows.unique {else_ : EntryKind} (shows_ : Shows tree above path kind shown)
    (too : Shows tree above path kind else_) : else_ = shown := by
  cases shows_ with
  | entry plain =>
    cases too with
    | entry => rfl
    | link => exact absurd rfl plain
  | link leads =>
    cases too with
    | entry plain => exact absurd rfl plain
    | link same =>
      obtain rfl := Except.ok.inj (leads.symm.trans same)
      rfl

theorem leads_of_regular (regular : Shows tree above path kind .regular) :
    Leads tree above path kind file ↔ file = path := by
  constructor
  · rintro ⟨outer, last, below, -⟩
    cases below with
    | here => rfl
    | within directory => cases regular.unique directory
  · rintro rfl
    exact ⟨above, kind, .here above file kind, regular⟩

theorem leads_of_directory (directory : Shows tree above path kind .directory) :
    Leads tree above path kind file ↔
      ∃ name entry, (name, entry) ∈ entriesOf tree path ∧ Leads tree (path :: above) (path.join ⟨name⟩) entry file := by
  constructor
  · rintro ⟨outer, last, below, regular⟩
    cases below with
    | here => cases directory.unique regular
    | within _ listed later => exact ⟨_, _, listed, outer, last, later, regular⟩
  · rintro ⟨name, entry, listed, outer, last, later, regular⟩
    exact ⟨outer, last, .within directory listed later, regular⟩

theorem not_leads (other : ∀ shown, Shows tree above path kind shown → shown ≠ .regular ∧ shown ≠ .directory) :
    ¬Leads tree above path kind file := by
  rintro ⟨outer, last, below, regular⟩
  cases below with
  | here => exact (other _ regular).1 rfl
  | within directory => exact (other _ directory).2 rfl

theorem isOutside_iff {walk : Walk} : walk.isOutside tree path = true ↔
    Outside tree (walk.levels.map (·.path)) path := by
  simp only [isOutside, Outside, Option.any_eq_true, List.all_eq_true, bne_iff_ne, List.mem_map, forall_exists_index,
    and_imp, forall_apply_eq_imp_iff₂]

/-- A walk sees what there is at an entry. -/
theorem shows_iff {walk : Walk} : (if kind = .link then walk.follow tree path else some kind) = some shown ↔
    Shows tree (walk.levels.map (·.path)) path kind shown := by
  by_cases link : kind = .link
  · subst link
    rw [if_pos rfl, follow]
    constructor
    · intro followed
      split at followed
      · cases followed
      · next node leads =>
        split at followed
        · cases followed
        · next outside =>
          obtain rfl := Option.some.inj followed
          exact .link leads fun directory => isOutside_iff.mp (by simpa [directory] using outside)
    · intro shows_
      cases shows_ with
      | entry plain => exact absurd rfl plain
      | link leads outside =>
        simp only [leads]
        rw [if_neg]
        intro inside
        obtain ⟨directory, inside⟩ := Bool.and_eq_true_iff.mp inside
        have outside := isOutside_iff.mpr (outside (of_decide_eq_true directory))
        simp [outside] at inside
  · rw [if_neg link, Option.some.injEq]
    constructor
    · rintro rfl
      exact .entry link
    · intro shows_
      cases shows_ with
      | entry => rfl
      | link => exact absurd rfl link

/-- What meeting an entry can come to. -/
inductive Meeting (tree : FileTree) (levels : List Level) (path : Path) (kind : EntryKind) : Option Path → Walk → Prop
  | file (regular : Shows tree (levels.map (·.path)) path kind .regular) :
      Meeting tree levels path kind (some path) ⟨none, levels⟩
  | opened (directory : Shows tree (levels.map (·.path)) path kind .directory) :
      Meeting tree levels path kind none ⟨none, ⟨path, entriesOf tree path⟩ :: levels⟩
  | passed (other : ∀ shown, Shows tree (levels.map (·.path)) path kind shown → shown ≠ .regular ∧ shown ≠ .directory) :
      Meeting tree levels path kind none ⟨none, levels⟩

theorem meeting_of_meet {levels : List Level} {yield : Option Path} {rest : Walk}
    (met : meet ⟨none, levels⟩ tree path kind = (yield, rest)) : Meeting tree levels path kind yield rest := by
  have seen (shown : EntryKind) := @shows_iff tree path kind shown ⟨none, levels⟩
  unfold meet at met
  cases there : if kind = .link then follow ⟨none, levels⟩ tree path else some kind with
  | none =>
    rw [there] at met
    obtain ⟨rfl, rfl⟩ := Prod.mk.inj met
    exact .passed fun shown shows_ => by simp [(seen shown).mpr shows_] at there
  | some shown =>
    have shows_ := (seen shown).mp there
    rw [there] at met
    cases shown with
    | regular =>
      obtain ⟨rfl, rfl⟩ := Prod.mk.inj met
      exact .file shows_
    | directory =>
      obtain ⟨rfl, rfl⟩ := Prod.mk.inj met
      exact .opened shows_
    | link | other =>
      obtain ⟨rfl, rfl⟩ := Prod.mk.inj met
      exact .passed fun shown too => by simp [shows_.unique too]

/-- What a walk can do in one step. -/
inductive Steps (tree : FileTree) : Walk → Option Path → Walk → Prop
  | absent {path : Path} {levels : List Level} {errno : Errno} (absent : tree.entryNode path = .error errno) :
      Steps tree ⟨some path, levels⟩ none ⟨none, levels⟩
  | start {path : Path} {levels : List Level} {node : Node} {yield : Option Path} {rest : Walk}
      (entered : tree.entryNode path = .ok node) (met : Meeting tree levels path node.entryKind yield rest) :
      Steps tree ⟨some path, levels⟩ yield rest
  | next {path : Path} {name : Bytes} {kind : EntryKind} {more : List (Bytes × EntryKind)} {outer : List Level}
      {yield : Option Path} {rest : Walk}
      (met : Meeting tree (⟨path, more⟩ :: outer) (path.join ⟨name⟩) kind yield rest) :
      Steps tree ⟨none, ⟨path, (name, kind) :: more⟩ :: outer⟩ yield rest
  | leave (path : Path) (outer : List Level) : Steps tree ⟨none, ⟨path, []⟩ :: outer⟩ none ⟨none, outer⟩

theorem steps_of_step? {walk rest : Walk} {yield : Option Path} (stepped : walk.step? tree = some (yield, rest)) :
    Steps tree walk yield rest := by
  obtain ⟨start, levels⟩ := walk
  cases start with
  | some path =>
    cases entered : tree.entryNode path with
    | error errno =>
      simp only [step?, entered] at stepped
      obtain ⟨rfl, rfl⟩ := Prod.mk.inj (Option.some.inj stepped)
      exact .absent entered
    | ok node =>
      simp only [step?, entered] at stepped
      exact .start entered (meeting_of_meet (Option.some.inj stepped))
  | none =>
    cases levels with
    | nil => cases stepped
    | cons level outer =>
      obtain ⟨path, entries⟩ := level
      cases entries with
      | nil =>
        simp only [step?] at stepped
        obtain ⟨rfl, rfl⟩ := Prod.mk.inj (Option.some.inj stepped)
        exact .leave path outer
      | cons entry more =>
        simp only [step?] at stepped
        exact .next (meeting_of_meet (Option.some.inj stepped))

/-- The files below the entries that a walk has not met yet. -/
inductive Ahead (tree : FileTree) : List Level → Path → Prop
  | here {level : Level} {outer : List Level} {name : Bytes} {kind : EntryKind} {file : Path}
      (listed : (name, kind) ∈ level.entries)
      (leads : Leads tree (level.path :: outer.map (·.path)) (level.path.join ⟨name⟩) kind file) :
      Ahead tree (level :: outer) file
  | outer {level : Level} {outer : List Level} {file : Path} (later : Ahead tree outer file) :
      Ahead tree (level :: outer) file

/-- The files that a walk has not met yet. -/
inductive Awaits (tree : FileTree) : Walk → Path → Prop
  | start {path file : Path} {levels : List Level} {node : Node} (entered : tree.entryNode path = .ok node)
      (leads : Leads tree (levels.map (·.path)) path node.entryKind file) : Awaits tree ⟨some path, levels⟩ file
  | levels {start : Option Path} {levels : List Level} {file : Path} (ahead : Ahead tree levels file) :
      Awaits tree ⟨start, levels⟩ file

theorem ahead_cons {level : Level} {outer : List Level} : Ahead tree (level :: outer) file ↔
    (∃ name kind, (name, kind) ∈ level.entries ∧
      Leads tree (level.path :: outer.map (·.path)) (level.path.join ⟨name⟩) kind file) ∨ Ahead tree outer file := by
  constructor
  · intro ahead
    cases ahead with
    | here listed leads => exact .inl ⟨_, _, listed, leads⟩
    | outer later => exact .inr later
  · rintro (⟨name, kind, listed, leads⟩ | later)
    · exact .here listed leads
    · exact .outer later

theorem ahead_cons_cons {name : Bytes} {entries : List (Bytes × EntryKind)} {outer : List Level} :
    Ahead tree (⟨path, (name, kind) :: entries⟩ :: outer) file ↔
      Leads tree (path :: outer.map (·.path)) (path.join ⟨name⟩) kind file ∨
        Ahead tree (⟨path, entries⟩ :: outer) file := by
  rw [ahead_cons, ahead_cons, ← or_assoc]
  refine or_congr_left ⟨?_, ?_⟩
  · rintro ⟨other, entry, listed, leads⟩
    rcases List.mem_cons.mp listed with same | later
    · obtain ⟨rfl, rfl⟩ := Prod.mk.inj same
      exact .inl leads
    · exact .inr ⟨other, entry, later, leads⟩
  · rintro (leads | ⟨other, entry, later, leads⟩)
    · exact ⟨name, kind, List.mem_cons_self, leads⟩
    · exact ⟨other, entry, List.mem_cons_of_mem _ later, leads⟩

theorem awaits_levels {levels : List Level} : Awaits tree ⟨none, levels⟩ file ↔ Ahead tree levels file := by
  constructor
  · intro awaits
    cases awaits
    assumption
  · exact .levels

theorem awaits_start {levels : List Level} : Awaits tree ⟨some path, levels⟩ file ↔
    (∃ node, tree.entryNode path = .ok node ∧ Leads tree (levels.map (·.path)) path node.entryKind file) ∨
      Ahead tree levels file := by
  constructor
  · intro awaits
    cases awaits with
    | start entered leads => exact .inl ⟨_, entered, leads⟩
    | levels ahead => exact .inr ahead
  · rintro (⟨node, entered, leads⟩ | ahead)
    · exact .start entered leads
    · exact .levels ahead

/-- Meeting an entry yields the file there, or opens the directory there. -/
theorem awaits_meeting {levels : List Level} {yield : Option Path} {rest : Walk}
    (met : Meeting tree levels path kind yield rest) :
    Leads tree (levels.map (·.path)) path kind file ∨ Ahead tree levels file ↔
      file ∈ yield ∨ Awaits tree rest file := by
  cases met with
  | file regular =>
    rw [leads_of_regular regular, awaits_levels]
    simp only [Option.mem_some_iff, eq_comm]
  | opened directory =>
    rw [awaits_levels, ahead_cons, leads_of_directory directory]
    exact (or_iff_right nofun).symm
  | passed other => rw [awaits_levels, or_iff_right (not_leads other), or_iff_right nofun]

/-- What a step of a walk yields is what it does not wait for any more. -/
theorem awaits_step {walk rest : Walk} {yield : Option Path} (stepped : walk.step? tree = some (yield, rest)) :
    Awaits tree walk file ↔ file ∈ yield ∨ Awaits tree rest file := by
  cases steps_of_step? stepped with
  | absent absent => rw [awaits_start, awaits_levels, or_iff_right (by simp [absent]), or_iff_right nofun]
  | start entered met => simp only [awaits_start, entered, Except.ok.injEq, exists_eq_left', awaits_meeting met]
  | next met =>
    rw [awaits_levels, ahead_cons_cons, ← awaits_meeting met]
    rfl
  | leave path outer =>
    rw [awaits_levels, awaits_levels, ahead_cons, or_iff_right (by simp), or_iff_right nofun]

theorem not_awaits {walk : Walk} (ended : walk.step? tree = none) : ¬Awaits tree walk file := by
  obtain ⟨start, levels⟩ := walk
  cases start with
  | some path =>
    unfold step? at ended
    simp only at ended
    split at ended <;> cases ended
  | none =>
    cases levels with
    | nil =>
      intro awaits
      cases awaits with
      | levels ahead => cases ahead
    | cons level outer =>
      obtain ⟨path, entries⟩ := level
      cases entries <;> cases ended

/-- What a walk yields is what it waited for. -/
theorem awaits_of_mem_files {walk : Walk} {fuel : Nat} (member : file ∈ files tree fuel walk) :
    Awaits tree walk file := by
  induction fuel generalizing walk with
  | zero => cases member
  | succ fuel ih =>
    cases stepped : walk.step? tree with
    | none => simp [files, stepped] at member
    | some step =>
      simp only [files, stepped, List.mem_append, Option.mem_toList] at member
      exact (awaits_step stepped).mpr (member.imp_right ih)

/-- A walk that comes to its end yields all that it waited for. -/
theorem mem_files_iff {walk : Walk} {fuel : Nat} (ends : walk.endsWithin tree fuel = true) :
    file ∈ files tree fuel walk ↔ Awaits tree walk file := by
  refine ⟨awaits_of_mem_files, fun awaits => ?_⟩
  induction fuel generalizing walk with
  | zero => cases ends
  | succ fuel ih =>
    cases stepped : walk.step? tree with
    | none => exact absurd awaits (not_awaits stepped)
    | some step =>
      have endsLater : step.2.endsWithin tree fuel = true := by simpa only [endsWithin, stepped] using ends
      simp only [files, stepped, List.mem_append, Option.mem_toList]
      exact ((awaits_step stepped).mp awaits).imp_right (ih endsLater)

end Walk

namespace FileTree

/-- A regular file is at or below a path, links followed. -/
def Reaches (tree : FileTree) (dir file : Path) : Prop :=
  ∃ node, tree.entryNode dir = .ok node ∧ Walk.Leads tree [] dir node.entryKind file

/-- No link at or below a path leads nowhere. -/
def Undangling (tree : FileTree) (dir : Path) : Prop :=
  ∀ node, tree.entryNode dir = .ok node → Walk.Firm tree [] dir node.entryKind

theorem awaits_at_iff {tree : FileTree} {dir file : Path} :
    Walk.Awaits tree (.at_ dir) file ↔ tree.Reaches dir file :=
  Walk.awaits_start.trans (or_iff_left nofun)

end FileTree
end ExitParity
