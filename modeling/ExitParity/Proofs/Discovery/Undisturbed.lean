import ExitParity.Proofs.Discovery.Reach
import ExitParity.Proofs.Files.Writing
import ExitParity.Proofs.Naming.Joining
import Mathlib.Logic.Relation

namespace ExitParity
namespace Walk

variable {tree later : FileTree} {above outer : List Path} {path file : Path} {kind shown last : EntryKind}

/-- A path ends in the name of a binary. -/
def IsBinary (path : Path) : Prop := ∃ name, path.fileName? = some name ∧ Suffix.IsBinary name

theorem firm_of_regular (tree : FileTree) (above : List Path) (path : Path) : Firm tree above path .regular := by
  intro outer link below
  cases below with
  | within directory => cases directory

theorem firm_of_link (somewhere : tree.node path ≠ .error .noEntry)
    (outside : ¬Shows tree above path .link .directory) : Firm tree above path .link := by
  intro outer link below
  cases below with
  | here => exact somewhere
  | within directory => exact absurd directory outside

theorem firm_of_directory
    (each : ∀ entry ∈ entriesOf tree path, Firm tree (path :: above) (path.join ⟨entry.1⟩) entry.2) :
    Firm tree above path .directory := by
  intro outer link below
  cases below with
  | within _ listed later => exact each _ listed _ _ later

theorem Firm.within (firm : Firm tree above path kind) (directory : Shows tree above path kind .directory)
    {name : Bytes} {entry : EntryKind} (listed : (name, entry) ∈ entriesOf tree path) :
    Firm tree (path :: above) (path.join ⟨name⟩) entry := fun _ _ below => firm _ _ (.within directory listed below)

section Growth

variable (grows : tree.Grows later) (closed : tree.Closed)
include grows closed

theorem outside_iff : Outside later above path ↔ Outside tree above path := by
  simp only [Outside, grows.identity? closed]

theorem Shows.grown (shows_ : Shows tree above path kind shown) : Shows later above path kind shown := by
  cases shows_ with
  | entry plain => exact .entry plain
  | @link node leads outside =>
    have kept := grows.node closed path
    rw [leads] at kept
    generalize stays : later.node path = after at kept
    cases kept with
    | ok how =>
      rw [← how.entryKind]
      refine .link stays fun directory => ?_
      rw [how.entryKind] at directory
      exact (outside_iff grows closed).mpr (outside directory)

/-- An entry shows what it showed before, unless it is a link that led
nowhere. -/
theorem Shows.before (shows_ : Shows later above path kind shown) : Shows tree above path kind shown ∨
    kind = .link ∧ shown = .regular ∧ tree.node path = .error .noEntry := by
  cases shows_ with
  | entry plain => exact .inl (.entry plain)
  | @link node leads outside =>
    have kept := grows.node closed path
    rw [leads] at kept
    generalize stays : tree.node path = before at kept
    cases kept with
    | ok how =>
      rw [how.entryKind] at outside ⊢
      exact .inl (.link stays fun directory => (outside_iff grows closed).mp (outside directory))
    | filled => exact .inr ⟨rfl, rfl, rfl⟩

theorem Shows.directory_before (directory : Shows later above path kind .directory) :
    Shows tree above path kind .directory := by
  rcases directory.before grows closed with same | ⟨-, other, -⟩
  · exact same
  · cases other

theorem Below.grown (below : Below tree above path kind outer file last) :
    Below later above path kind outer file last := by
  induction below with
  | here above path kind => exact .here above path kind
  | @within above outer path file kind entry last name directory listed below ih =>
    obtain ⟨more, entries, -⟩ := grows.entriesOf closed path
    exact .within (directory.grown grows closed) (entries ▸ List.mem_append_left _ listed) ih

/-- What is below an entry was there before, or is a new binary. -/
theorem Below.before (below : Below later above path kind outer file last) :
    Below tree above path kind outer file last ∨ last = .regular ∧ IsBinary file := by
  induction below with
  | here above path kind => exact .inl (.here above path kind)
  | @within above outer path file kind entry last name directory listed below ih =>
    obtain ⟨more, entries, fresh⟩ := grows.entriesOf closed path
    rw [entries] at listed
    rcases List.mem_append.mp listed with old | new
    · exact ih.imp_left (.within (directory.directory_before grows closed) old)
    · obtain ⟨isBinary, regular⟩ := fresh _ new
      obtain rfl : entry = .regular := regular
      cases below with
      | here =>
        have last := path.fileName?_join (Path.fileName?_of_step? isBinary.plain isBinary.step?)
        exact .inr ⟨rfl, name, last, isBinary⟩
      | within other => cases other

theorem Leads.grown (leads : Leads tree above path kind file) : Leads later above path kind file := by
  obtain ⟨outer, last, below, regular⟩ := leads
  exact ⟨outer, last, below.grown grows closed, regular.grown grows closed⟩

theorem Leads.before (firm : Firm tree above path kind) (leads : Leads later above path kind file) :
    Leads tree above path kind file ∨ IsBinary file := by
  obtain ⟨outer, last, below, regular⟩ := leads
  rcases below.before grows closed with below | ⟨-, isBinary⟩
  · rcases regular.before grows closed with regular | ⟨rfl, -, nowhere⟩
    · exact .inl ⟨outer, last, below, regular⟩
    · exact absurd nowhere (firm _ _ below)
  · exact .inr isBinary

theorem leads_iff (firm : Firm tree above path kind) (old : ¬IsBinary file) :
    Leads later above path kind file ↔ Leads tree above path kind file :=
  ⟨fun leads => (leads.before grows closed firm).resolve_right old, fun leads => leads.grown grows closed⟩

end Growth

/-- No link at or below what a walk has not met yet leads nowhere. -/
inductive FirmLevels (tree : FileTree) : List Level → Prop
  | nothing : FirmLevels tree []
  | next {level : Level} {outer : List Level}
      (here : ∀ {name kind}, (name, kind) ∈ level.entries →
        Firm tree (level.path :: outer.map (·.path)) (level.path.join ⟨name⟩) kind)
      (others : FirmLevels tree outer) : FirmLevels tree (level :: outer)

inductive FirmWalk (tree : FileTree) : Walk → Prop
  | start {path : Path} {node : Node} (entered : tree.entryNode path = .ok node)
      (firm : Firm tree [] path node.entryKind) : FirmWalk tree (.at_ path)
  | levels {levels : List Level} (firm : FirmLevels tree levels) : FirmWalk tree ⟨none, levels⟩

section Growth

variable (grows : tree.Grows later) (closed : tree.Closed)
include grows closed

theorem ahead_iff {levels : List Level} (firm : FirmLevels tree levels) (old : ¬IsBinary file) :
    Ahead later levels file ↔ Ahead tree levels file := by
  induction firm with
  | nothing => exact ⟨nofun, nofun⟩
  | next here others ih =>
    rw [ahead_cons, ahead_cons, ih]
    refine or_congr_left ⟨?_, ?_⟩
    · rintro ⟨name, kind, listed, leads⟩
      exact ⟨name, kind, listed, (leads_iff grows closed (here listed) old).mp leads⟩
    · rintro ⟨name, kind, listed, leads⟩
      exact ⟨name, kind, listed, (leads_iff grows closed (here listed) old).mpr leads⟩

theorem entered_later {node : Node} (entered : tree.entryNode path = .ok node) :
    ∃ after, later.entryNode path = .ok after ∧ after.entryKind = node.entryKind := by
  have kept := grows.entryNode closed path
  rw [entered] at kept
  generalize stays : later.entryNode path = after at kept
  cases kept with
  | ok how => exact ⟨_, rfl, how.entryKind⟩

/-- A walk waits for the same files in both trees, new binaries apart. -/
theorem awaits_iff {walk : Walk} (firm : FirmWalk tree walk) (old : ¬IsBinary file) :
    Awaits later walk file ↔ Awaits tree walk file := by
  cases firm with
  | levels firm => rw [awaits_levels, awaits_levels, ahead_iff grows closed firm old]
  | @start path node entered firm =>
    obtain ⟨after, stays, same⟩ := entered_later grows closed entered
    rw [FileTree.awaits_at_iff, FileTree.awaits_at_iff]
    simp only [FileTree.Reaches, stays, entered, Except.ok.injEq, exists_eq_left', same]
    exact leads_iff grows closed firm old

/-- What a walk goes into shows what it showed before, and new binaries, below
which there is nothing. -/
theorem FirmLevels.meeting {levels : List Level} (firm : FirmLevels tree levels)
    (here : Firm tree (levels.map (·.path)) path kind) {yield : Option Path} {rest : Walk}
    (met : Meeting later levels path kind yield rest) : FirmWalk tree rest := by
  cases met with
  | file => exact .levels firm
  | passed => exact .levels firm
  | opened directory =>
    refine .levels (.next (fun {name entry} listed => ?_) firm)
    obtain ⟨more, entries, fresh⟩ := grows.entriesOf closed path
    rw [show (⟨path, entriesOf later path⟩ : Level).entries = _ from entries] at listed
    rcases List.mem_append.mp listed with old | new
    · exact here.within (directory.directory_before grows closed) old
    · obtain rfl : entry = .regular := (fresh _ new).2
      exact firm_of_regular tree _ _

theorem FirmWalk.step {walk rest : Walk} {yield : Option Path} (firm : FirmWalk tree walk)
    (stepped : walk.step? later = some (yield, rest)) : FirmWalk tree rest := by
  have steps := steps_of_step? stepped
  cases firm with
  | start entered firm =>
    cases steps with
    | absent => exact .levels .nothing
    | start enteredLater met =>
      obtain ⟨after, stays, same⟩ := entered_later grows closed entered
      obtain rfl := Except.ok.inj (stays.symm.trans enteredLater)
      exact FirmLevels.meeting grows closed .nothing (same ▸ firm) met
  | levels firm =>
    cases steps with
    | @next path name kind more outer _ _ met =>
      cases firm with
      | next here others =>
        have left : FirmLevels tree (⟨path, more⟩ :: outer) :=
          .next (fun listed => here (List.mem_cons_of_mem _ listed)) others
        exact left.meeting grows closed (here List.mem_cons_self) met
    | leave =>
      cases firm with
      | next here others => exact .levels others

end Growth

/-- A walk on which the files change. -/
inductive Tour (changes : FileTree → FileTree → Prop) : FileTree → Walk → List Path → FileTree → Walk → Prop
  | stop (tree : FileTree) (walk : Walk) : Tour changes tree walk [] tree walk
  | step {tree last : FileTree} {walk next rest : Walk} {yield : Option Path} {files : List Path}
      (stepped : walk.step? tree = some (yield, next)) (further : Tour changes tree next files last rest) :
      Tour changes tree walk (yield.toList ++ files) last rest
  | change {tree between last : FileTree} {walk rest : Walk} {files : List Path} (changed : changes tree between)
      (further : Tour changes between walk files last rest) : Tour changes tree walk files last rest

theorem Tour.account {changes : FileTree → FileTree → Prop} {between last : FileTree} {walk rest : Walk}
    {files : List Path} (tour : Tour changes between walk files last rest) (closed : tree.Closed)
    (each : ∀ {before after}, changes before after → before.Grows after) (grows : tree.Grows between)
    (firm : FirmWalk tree walk) : tree.Grows last ∧ FirmWalk tree rest ∧
      ∀ {file}, ¬IsBinary file → (Awaits tree walk file ↔ file ∈ files ∨ Awaits tree rest file) := by
  induction tour with
  | stop => exact ⟨grows, firm, fun _ => by simp⟩
  | step stepped further ih =>
    obtain ⟨grown, ended, same⟩ := ih grows (firm.step grows closed stepped)
    refine ⟨grown, ended, fun old => ?_⟩
    rw [← awaits_iff grows closed firm old, awaits_step stepped,
      awaits_iff grows closed (firm.step grows closed stepped) old, same old]
    simp only [List.mem_append, Option.mem_toList, Option.mem_def, or_assoc]
  | change changed further ih => exact ih (grows.trans (each changed)) firm

/-- On a walk on which nothing changes, what was yielded is what is not
awaited any more. -/
theorem Tour.still {changes : FileTree → FileTree → Prop} {last : FileTree} {walk rest : Walk} {files : List Path}
    (tour : Tour changes tree walk files last rest) (never : ∀ {before after}, ¬changes before after) :
    Awaits tree walk file ↔ file ∈ files ∨ Awaits last rest file := by
  induction tour with
  | stop => simp
  | step stepped further ih =>
    rw [awaits_step stepped, ih]
    simp only [List.mem_append, Option.mem_toList, Option.mem_def, or_assoc]
  | change changed => exact absurd changed never

theorem Tour.pass {changes : FileTree → FileTree → Prop} {last : FileTree} {walk next rest : Walk} {files : List Path}
    (stepped : walk.step? tree = some (none, next)) (further : Tour changes tree next files last rest) :
    Tour changes tree walk files last rest := .step stepped further

theorem Tour.meet {changes : FileTree → FileTree → Prop} {last : FileTree} {walk next rest : Walk} {files : List Path}
    (stepped : walk.step? tree = some (some file, next)) (further : Tour changes tree next files last rest) :
    Tour changes tree walk (file :: files) last rest := .step stepped further

/-- A walk that waits while the files change. -/
theorem Tour.of_changes {changes : FileTree → FileTree → Prop} (walk : Walk)
    (changed : Relation.ReflTransGen changes tree later) : Tour changes tree walk [] later walk := by
  induction changed using Relation.ReflTransGen.head_induction_on with
  | refl => exact .stop later walk
  | head first _ further => exact .change first further

end Walk

theorem Layout.mem_filterMap_pairRoot? {layout : Layout} {files : List Path} {pair : ArtifactPair} :
    pair ∈ files.filterMap layout.pairRoot? ↔ pair.root ∈ files ∧ layout.pairRoot? pair.root = some pair := by
  rw [List.mem_filterMap]
  constructor
  · rintro ⟨file, member, rooted⟩
    obtain rfl := root_of_pairRoot? rooted
    exact ⟨member, rooted⟩
  · rintro ⟨member, rooted⟩
    exact ⟨pair.root, member, rooted⟩

namespace FileTree

/-- A path is the root of a pair that is discovered below a directory. -/
def IsRoot (tree : FileTree) (dir : Path) (layout : Layout) (path : Path) : Prop :=
  ∃ pair ∈ tree.discover dir layout, pair.root = path

/-- A module that was discovered in a tree, under either layout, is assembled. -/
def Assembles (tree : FileTree) (dir : Path) (before after : FileTree) : Prop :=
  ∃ layout root, tree.IsRoot dir layout root ∧ before.Writes (assembledPath root) after

variable {tree last : FileTree} {dir path file : Path} {layout : Layout} {pair : ArtifactPair}

/-- What is discovered is awaited. -/
theorem awaits_of_mem_discover (discovered : pair ∈ tree.discover dir layout) :
    Walk.Awaits tree (.at_ dir) pair.root ∧ layout.pairRoot? pair.root = some pair :=
  (Layout.mem_filterMap_pairRoot?.mp discovered).imp_left Walk.awaits_of_mem_files

theorem mem_discover_iff (ends : (Walk.at_ dir).endsWithin tree Walk.stepLimit = true) :
    pair ∈ tree.discover dir layout ↔
      Walk.Awaits tree (.at_ dir) pair.root ∧ layout.pairRoot? pair.root = some pair := by
  rw [discover, Layout.mem_filterMap_pairRoot?, Walk.mem_files_iff ends]

theorem isSome_of_isRoot (rooted : tree.IsRoot dir layout path) : (layout.pairRoot? path).isSome = true := by
  obtain ⟨pair, discovered, rfl⟩ := rooted
  exact Option.isSome_of_eq_some (awaits_of_mem_discover discovered).2

theorem isRoot_iff (ends : (Walk.at_ dir).endsWithin tree Walk.stepLimit = true) :
    tree.IsRoot dir layout path ↔ tree.Reaches dir path ∧ (layout.pairRoot? path).isSome = true := by
  rw [← awaits_at_iff, Option.isSome_iff_exists]
  constructor
  · rintro ⟨pair, discovered, rfl⟩
    exact (awaits_of_mem_discover discovered).imp_right (⟨pair, ·⟩)
  · rintro ⟨awaits, pair, rooted⟩
    obtain rfl := Layout.root_of_pairRoot? rooted
    exact ⟨pair, (mem_discover_iff ends).mpr ⟨awaits, rooted⟩, rfl⟩

theorem Assembles.grows {before after : FileTree} (assembles : tree.Assembles dir before after) :
    before.Grows after := by
  obtain ⟨layout, root, rooted, writes⟩ := assembles
  exact writes.grows (isSome_of_isRoot rooted)

/-- A module is yielded by a walk, or still awaited, exactly if it was awaited
before anything was assembled. -/
theorem awaits_of_tour {rest : Walk} {files : List Path}
    (tour : Walk.Tour (tree.Assembles dir) tree (.at_ dir) files last rest) (closed : tree.Closed)
    (undangling : tree.Undangling dir) (rooted : layout.pairRoot? file = some pair) :
    Walk.Awaits tree (.at_ dir) file ↔ file ∈ files ∨ Walk.Awaits last rest file := by
  have old : ¬Walk.IsBinary file := by
    rintro ⟨name, last, isBinary⟩
    simp [Layout.pairRoot?_of_isBinary layout last isBinary] at rooted
  cases entered : tree.entryNode dir with
  | ok node =>
    have firm : Walk.FirmWalk tree (.at_ dir) := .start entered (undangling node entered)
    obtain ⟨grows, ended, same⟩ := tour.account closed Assembles.grows (.refl tree) firm
    rw [same old, Walk.awaits_iff grows closed ended old]
  | error errno =>
    -- Nothing is there, so nothing is discovered and nothing assembled.
    refine tour.still ?_
    rintro before after ⟨layout, root, ⟨pair, discovered, -⟩, -⟩
    obtain ⟨node, there, -⟩ := awaits_at_iff.mp (awaits_of_mem_discover discovered).1
    simp [there] at entered

/-- The two layouts share the modules at and below a directory among them,
and a walk meets the same ones however many of them are assembled before it or
under way. -/
theorem discovery_undisturbed {tree : FileTree} {dir : Path} (closed : tree.Closed) (undangling : tree.Undangling dir)
    (ends : (Walk.at_ dir).endsWithin tree Walk.stepLimit = true) :
    (∀ path, ¬(tree.IsRoot dir .reassembly path ∧ tree.IsRoot dir .selfConsistency path)) ∧
    (∀ path, (tree.IsRoot dir .reassembly path ∨ tree.IsRoot dir .selfConsistency path) ↔
      tree.Reaches dir path ∧ ArtifactKind.of path = some .generatedTextual) ∧
    (∀ later, Relation.ReflTransGen (tree.Assembles dir) tree later → ∀ layout pair,
      (pair ∈ later.discover dir layout → pair ∈ tree.discover dir layout) ∧
      ((Walk.at_ dir).endsWithin later Walk.stepLimit = true →
        pair ∈ tree.discover dir layout → pair ∈ later.discover dir layout)) ∧
    ∀ files last rest, Walk.Tour (tree.Assembles dir) tree (.at_ dir) files last rest → ∀ layout pair,
      (pair ∈ files.filterMap layout.pairRoot? → pair ∈ tree.discover dir layout) ∧
      (rest.step? last = none → pair ∈ tree.discover dir layout → pair ∈ files.filterMap layout.pairRoot?) := by
  refine ⟨?disjoint, ?shared, ?afterwards, ?underway⟩
  case disjoint =>
    rintro path ⟨left, right⟩
    cases Layout.eq_of_pairRoot? (isSome_of_isRoot left) (isSome_of_isRoot right)
  case shared =>
    intro path
    rw [isRoot_iff ends, isRoot_iff ends, ← and_or_left, ← Layout.exists_pairRoot?_iff]
    refine and_congr_right fun _ => ⟨?_, ?_⟩
    · rintro (rooted | rooted) <;> exact ⟨_, rooted⟩
    · rintro ⟨layout, rooted⟩
      cases layout with
      | reassembly => exact .inl rooted
      | selfConsistency => exact .inr rooted
  case afterwards =>
    intro later assembled layout pair
    have tour := Walk.Tour.of_changes (.at_ dir) assembled
    constructor
    · intro discovered
      obtain ⟨awaits, rooted⟩ := awaits_of_mem_discover discovered
      exact (mem_discover_iff ends).mpr ⟨(awaits_of_tour tour closed undangling rooted).mpr (.inr awaits), rooted⟩
    · intro endsLater discovered
      obtain ⟨awaits, rooted⟩ := awaits_of_mem_discover discovered
      have stillAwaits := ((awaits_of_tour tour closed undangling rooted).mp awaits).resolve_left List.not_mem_nil
      exact (mem_discover_iff endsLater).mpr ⟨stillAwaits, rooted⟩
  case underway =>
    intro files last rest tour layout pair
    rw [Layout.mem_filterMap_pairRoot?]
    constructor
    · rintro ⟨yielded, rooted⟩
      exact (mem_discover_iff ends).mpr ⟨(awaits_of_tour tour closed undangling rooted).mpr (.inl yielded), rooted⟩
    · intro ended discovered
      obtain ⟨awaits, rooted⟩ := awaits_of_mem_discover discovered
      exact ⟨((awaits_of_tour tour closed undangling rooted).mp awaits).resolve_right (Walk.not_awaits ended), rooted⟩

/-- Two modules, the second in a directory with a link to the first. -/
def linkedModules : FileTree where
  nodes := #[.directory 0o755 0 true [(utf8 "a.ll", 1), (utf8 "sub", 2)], .file 0o644 (.data []),
    .directory 0o755 0 true [(utf8 "b.out.ll", 3), (utf8 "c.ll", 4)], .file 0o644 (.data []),
    .link (utf8 "../a.ll")]
  times := #[0, 0, 0, 0, 0]
  now := 0
  cwd := 0

theorem linkedModules_closed : linkedModules.Closed where
  root := by decide
  cwd := by decide
  directory found := by
    have listed := Array.mem_of_getElem? found
    simp only [linkedModules, List.mem_toArray, List.mem_cons, List.not_mem_nil, Node.directory.injEq, reduceCtorEq,
      or_false, false_or] at listed
    rcases listed with ⟨-, rfl, -, rfl⟩ | ⟨-, rfl, -, rfl⟩ <;> decide

theorem linkedModules_undangling : linkedModules.Undangling (.ofString "/") := by
  intro node entered
  have top : linkedModules.entryNode (.ofString "/") =
      .ok (.directory 0o755 0 true [(utf8 "a.ll", 1), (utf8 "sub", 2)]) := by decide
  obtain rfl := Except.ok.inj (top.symm.trans entered)
  have modules : Walk.entriesOf linkedModules (.ofString "/") =
      [(utf8 "a.ll", .regular), (utf8 "sub", .directory)] := by decide
  have below : Walk.entriesOf linkedModules (.ofString "/sub") =
      [(utf8 "b.out.ll", .regular), (utf8 "c.ll", .link)] := by decide
  have shown : linkedModules.node (.ofString "/sub/c.ll") = .ok (.file 0o644 (.data [])) := by decide
  have linked : Walk.Firm linkedModules [.ofString "/sub", .ofString "/"] (.ofString "/sub/c.ll") .link := by
    refine Walk.firm_of_link (by rw [shown]; exact nofun) fun directory => ?_
    cases directory.unique (.link shown nofun)
  have inner : Walk.Firm linkedModules [.ofString "/"] (.ofString "/sub") .directory :=
    Walk.firm_of_directory (below ▸
      List.forall_mem_cons.mpr ⟨Walk.firm_of_regular _ _ _, List.forall_mem_singleton.mpr linked⟩)
  exact Walk.firm_of_directory (modules ▸
    List.forall_mem_cons.mpr ⟨Walk.firm_of_regular _ _ _, List.forall_mem_singleton.mpr inner⟩)

theorem linkedModules_discover : linkedModules.discover (.ofString "/") .selfConsistency =
    [⟨.ofString "/a.ll", none⟩, ⟨.ofString "/sub/c.ll", none⟩] := by
  have ends : (Walk.at_ (.ofString "/")).endsWithin linkedModules 8 = true := by decide
  rw [discover, Walk.files_of_endsWithin ends (by decide)]
  decide +kernel

/-- The modules with what the first one was assembled to. -/
def assembledModules : FileTree where
  nodes := #[.directory 0o755 0 true [(utf8 "a.ll", 1), (utf8 "sub", 2), (utf8 "a.bc", 5)], .file 0o644 (.data []),
    .directory 0o755 0 true [(utf8 "b.out.ll", 3), (utf8 "c.ll", 4)], .file 0o644 (.data []),
    .link (utf8 "../a.ll"), .file 0o644 (.data (utf8 "BC"))]
  times := #[0, 0, 0, 0, 0, 0]
  now := 0
  cwd := 0

/-- The first module is met and assembled before the others are met, and all
of them are met again on the next walk. -/
theorem linkedModules_undisturbed :
    Walk.Tour (linkedModules.Assembles (.ofString "/")) linkedModules (.at_ (.ofString "/"))
      [.ofString "/a.ll", .ofString "/sub/b.out.ll", .ofString "/sub/c.ll"] assembledModules ⟨none, []⟩ ∧
    ∀ layout pair, (pair ∈ linkedModules.discover (.ofString "/") layout ↔
        pair ∈ [.ofString "/a.ll", .ofString "/sub/b.out.ll", .ofString "/sub/c.ll"].filterMap layout.pairRoot?) ∧
      (pair ∈ linkedModules.discover (.ofString "/") layout ↔
        pair ∈ assembledModules.discover (.ofString "/") layout) := by
  have ends : (Walk.at_ (.ofString "/")).endsWithin linkedModules Walk.stepLimit = true := by rfl
  obtain ⟨-, roots, afterwards, underway⟩ := discovery_undisturbed linkedModules_closed linkedModules_undangling ends
  have rooted : linkedModules.IsRoot (.ofString "/") .selfConsistency (.ofString "/a.ll") :=
    ⟨_, linkedModules_discover ▸ List.mem_cons_self, rfl⟩
  have written : linkedModules.write (assembledPath (.ofString "/a.ll")) (.data (utf8 "BC")) =
      .ok assembledModules := by rfl
  have assembles : linkedModules.Assembles (.ofString "/") linkedModules assembledModules :=
    ⟨.selfConsistency, .ofString "/a.ll", rooted, .fresh (by decide) written⟩
  have tour : Walk.Tour (linkedModules.Assembles (.ofString "/")) linkedModules (.at_ (.ofString "/"))
      [.ofString "/a.ll", .ofString "/sub/b.out.ll", .ofString "/sub/c.ll"] assembledModules ⟨none, []⟩ :=
    .pass rfl (.meet rfl (.change assembles (.pass rfl (.meet rfl (.meet rfl (.pass rfl (.pass rfl (.stop _ _))))))))
  refine ⟨tour, fun layout pair => ⟨?_, ?_⟩⟩
  · have met := underway _ _ _ tour layout pair
    exact ⟨met.2 rfl, met.1⟩
  · have again := afterwards _ (.single assembles) layout pair
    exact ⟨again.2 (by rfl), again.1⟩

end FileTree
end ExitParity
