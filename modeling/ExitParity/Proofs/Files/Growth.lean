import ExitParity.Host.Walk
import ExitParity.Proofs.Naming.Kinds

namespace ExitParity

/-- What becomes of a node while binaries are written: a file holds something
else, and a directory has names of new binaries behind the ones it had. -/
inductive Node.Grows (size : Nat) : Node → Node → Prop
  | same (node : Node) : Grows size node node
  | content (mode : Nat) (before after : Content) : Grows size (.file mode before) (.file mode after)
  | entries {mode parent : Nat} {live : Bool} {before more : List (Bytes × Nat)}
      (fresh : ∀ entry ∈ more, Suffix.IsBinary entry.1 ∧ size ≤ entry.2) :
      Grows size (.directory mode parent live before) (.directory mode parent live (before ++ more))

namespace Node.Grows

variable {size larger : Nat} {node between after : Node}

theorem trans (early : node.Grows size between) (late : between.Grows larger after) (order : size ≤ larger) :
    node.Grows size after := by
  cases late with
  | same => exact early
  | content mode before content =>
    cases early with
    | same => exact .content mode before content
    | content mode first => exact .content mode first content
  | @entries mode parent live before more fresh =>
    have later : ∀ entry ∈ more, Suffix.IsBinary entry.1 ∧ size ≤ entry.2 := fun entry member =>
      ⟨(fresh entry member).1, order.trans (fresh entry member).2⟩
    cases early with
    | same => exact .entries later
    | @entries _ _ _ first some_ here =>
      rw [List.append_assoc]
      refine .entries fun entry member => ?_
      rcases List.mem_append.mp member with old | new
      · exact here entry old
      · exact later entry new

theorem entryKind (grows : node.Grows size after) : after.entryKind = node.entryKind := by
  cases grows <;> rfl

theorem directory {mode parent : Nat} {live : Bool} {entries : List (Bytes × Nat)}
    (grows : (Node.directory mode parent live entries).Grows size after) :
    ∃ more, after = .directory mode parent live (entries ++ more) ∧
      ∀ entry ∈ more, Suffix.IsBinary entry.1 ∧ size ≤ entry.2 := by
  cases grows with
  | same => exact ⟨[], by rw [List.append_nil], nofun⟩
  | entries fresh => exact ⟨_, rfl, fresh⟩

theorem link {target : Bytes} (grows : (Node.link target).Grows size after) : after = .link target := by
  cases grows
  rfl

end Node.Grows

namespace FileTree

/-- A tree with other contents of files and with new binaries. -/
structure Grows (tree later : FileTree) : Prop where
  cwd : later.cwd = tree.cwd
  size : tree.nodes.size ≤ later.nodes.size
  old : ∀ {number : Nat} {node : Node}, tree.nodes[number]? = some node →
    ∃ after, later.nodes[number]? = some after ∧ node.Grows tree.nodes.size after
  new : ∀ {number : Nat} {after : Node}, tree.nodes.size ≤ number → later.nodes[number]? = some after →
    ∃ mode content, after = .file mode content

/-- Every number in a tree is that of a node. -/
structure Closed (tree : FileTree) : Prop where
  root : root < tree.nodes.size
  cwd : tree.cwd < tree.nodes.size
  directory : ∀ {number mode parent : Nat} {live : Bool} {entries : List (Bytes × Nat)},
    tree.nodes[number]? = some (.directory mode parent live entries) →
    parent < tree.nodes.size ∧ ∀ entry ∈ entries, entry.2 < tree.nodes.size

variable {tree between later : FileTree}

theorem Grows.refl (tree : FileTree) : tree.Grows tree where
  cwd := rfl
  size := Nat.le_refl _
  old found := ⟨_, found, .same _⟩
  new {number after} beyond found := by
    rw [Array.getElem?_eq_none beyond] at found
    cases found

theorem Grows.trans (early : tree.Grows between) (late : between.Grows later) : tree.Grows later where
  cwd := late.cwd.trans early.cwd
  size := early.size.trans late.size
  old found := by
    obtain ⟨node, there, first⟩ := early.old found
    obtain ⟨after, last, second⟩ := late.old there
    exact ⟨after, last, first.trans second early.size⟩
  new {number after} beyond found := by
    by_cases newer : between.nodes.size ≤ number
    · exact late.new newer found
    · have there := Array.getElem?_eq_getElem (Nat.lt_of_not_le newer)
      obtain ⟨mode, content, file⟩ := early.new beyond there
      obtain ⟨node, same, grows⟩ := late.old there
      obtain rfl := Option.some.inj (same.symm.trans found)
      rw [file] at grows
      cases grows with
      | same => exact ⟨mode, content, rfl⟩
      | content _ _ more => exact ⟨mode, more, rfl⟩

theorem child?_append (name : Bytes) (entries more : List (Bytes × Nat)) :
    child? name (entries ++ more) = (child? name entries).or (child? name more) := by
  simp only [child?, List.find?_append]
  cases entries.find? (·.1 == name) <;> rfl

theorem mem_of_child? {name : Bytes} {entries : List (Bytes × Nat)} {number : Nat}
    (found : child? name entries = some number) : (name, number) ∈ entries := by
  obtain ⟨⟨other, value⟩, member, rfl⟩ := Option.map_eq_some_iff.mp found
  have same : other = name := by simpa using List.find?_some member
  exact same ▸ List.mem_of_find?_eq_some member

/-- What the new binaries make of the way down. -/
inductive Turn.Kept (size : Nat) : Turn → Turn → Prop
  | found {number : Nat} {entry : Option (Nat × Bytes)} (old : number < size) :
      Kept size (.arrived (.found number entry)) (.arrived (.found number entry))
  | vacant (directory : Nat) (name : Bytes) (slashed : Bool) :
      Kept size (.arrived (.vacant directory name slashed)) (.arrived (.vacant directory name slashed))
  | fault (errno : Errno) : Kept size (.fault errno) (.fault errno)
  | detour {directory : Nat} (target : Bytes) (rest : List Bytes) (old : directory < size) :
      Kept size (.detour directory target rest) (.detour directory target rest)
  | filled {directory number : Nat} {name : Bytes} {slashed : Bool} {entry : Option (Nat × Bytes)}
      (new : size ≤ number) :
      Kept size (.arrived (.vacant directory name slashed)) (.arrived (.found number entry))
  | blocked {directory : Nat} {name : Bytes} {slashed : Bool} (errno : Errno) :
      Kept size (.arrived (.vacant directory name slashed)) (.fault errno)
  | passed (errno : Errno) : Kept size (.fault .noEntry) (.fault errno)

theorem Turn.Kept.ite {size : Nat} {condition : Prop} [Decidable condition] {before after other otherAfter : Turn}
    (yes : Kept size before after) (no : ¬condition → Kept size other otherAfter) :
    Kept size (if condition then before else other) (if condition then after else otherAfter) := by
  split
  · exact yes
  · next unmet => exact no unmet

theorem Grows.descend (grows : tree.Grows later) (closed : tree.Closed) {purpose : Purpose} {slashed : Bool}
    {names : List Bytes} {place : Nat} {entry : Option (Nat × Bytes)} (old : place < tree.nodes.size) :
    Turn.Kept tree.nodes.size (tree.descend purpose slashed place entry names)
      (later.descend purpose slashed place entry names) := by
  induction names generalizing place entry with
  | nil => exact .found old
  | cons name rest ih =>
    have there : tree.nodes[place]? = some tree.nodes[place] := Array.getElem?_eq_getElem old
    generalize tree.nodes[place] = node at there
    obtain ⟨after, grown, how⟩ := grows.old there
    cases node with
    | file | link | device | pipe =>
      cases how <;> simp only [FileTree.descend, there, grown] <;> exact .fault _
    | directory mode parent live entries =>
      obtain ⟨more, rfl, fresh⟩ := how.directory
      obtain ⟨parentOld, entriesOld⟩ := closed.directory there
      simp only [FileTree.descend, there, grown, child?_append]
      refine .ite (.fault _) fun _ => .ite (.ite (.fault _) fun _ => ih old) fun _ =>
        .ite (.ite (.fault _) fun _ => ih parentOld) fun _ => .ite (.fault _) fun _ => .ite (.fault _) fun _ => ?_
      cases listed : child? name entries with
      | some next =>
        have nextOld : next < tree.nodes.size := entriesOld _ (mem_of_child? listed)
        have there : tree.nodes[next]? = some tree.nodes[next] := Array.getElem?_eq_getElem nextOld
        generalize tree.nodes[next] = node at there
        obtain ⟨after, grown, how⟩ := grows.old there
        cases node with
        | link target =>
          obtain rfl := how.link
          simp only [Option.some_or, there, grown]
          exact .ite (.found nextOld) fun _ => .detour target rest old
        | directory =>
          obtain ⟨_, rfl, -⟩ := how.directory
          simp only [Option.some_or, there, grown]
          exact ih nextOld
        | file | device | pipe =>
          cases how <;> simp only [Option.some_or, there, grown] <;> exact .ite (.found nextOld) fun _ => .fault _
      | none =>
        cases added : child? name more with
        | none => exact .ite (.vacant _ _ _) fun _ => .fault _
        | some next =>
          have new : tree.nodes.size ≤ next := (fresh _ (mem_of_child? added)).2
          have reached : Turn.Kept tree.nodes.size
              (if rest.isEmpty then .arrived (.vacant place name slashed) else .fault .noEntry)
              (if rest.isEmpty && !slashed then .arrived (.found next (some (place, name)))
                else .fault .notDirectory) := by
            split
            · split
              · exact .filled new
              · exact .blocked _
            · next longer =>
              rw [if_neg (by simp [longer])]
              exact .passed _
          cases whole : later.nodes[next]? with
          | none => simpa only [Option.none_or, whole] using reached
          | some after =>
            obtain ⟨mode, content, rfl⟩ := grows.new new whole
            simpa only [Option.none_or, whole] using reached

/-- What a path that led nowhere looked like. -/
inductive Nowhere : Except Errno Spot → Prop
  | vacant (directory : Nat) (name : Bytes) (slashed : Bool) : Nowhere (.ok (.vacant directory name slashed))
  | noEntry : Nowhere (.error .noEntry)

/-- What the new binaries make of a path. -/
inductive Kept (size : Nat) : Except Errno Spot → Except Errno Spot → Prop
  | found {number : Nat} (entry : Option (Nat × Bytes)) (old : number < size) :
      Kept size (.ok (.found number entry)) (.ok (.found number entry))
  | fault (errno : Errno) : Kept size (.error errno) (.error errno)
  | vacant (directory : Nat) (name : Bytes) (slashed : Bool) :
      Kept size (.ok (.vacant directory name slashed)) (.ok (.vacant directory name slashed))
  | filled {before : Except Errno Spot} {number : Nat} (entry : Option (Nat × Bytes)) (nowhere : Nowhere before)
      (new : size ≤ number) : Kept size before (.ok (.found number entry))
  | blocked {before : Except Errno Spot} (errno : Errno) (nowhere : Nowhere before) : Kept size before (.error errno)

/-- The end of a way down, with what comes of a link. -/
def Turn.settle (detoured : Nat → Bytes → List Bytes → Except Errno Spot) : Turn → Except Errno Spot
  | .arrived spot => .ok spot
  | .fault errno => .error errno
  | .detour directory target rest => detoured directory target rest

/-- Where the target of a link is looked up from. -/
def detourPlace (directory : Nat) (target : Bytes) : Nat :=
  if target.head? == some Path.slash then FileTree.root else directory

/-- Whether a path ends in a separator when a link stands for the names before
the rest. -/
def detourSlashed (slashed : Bool) (target : Bytes) (rest : List Bytes) : Bool :=
  if rest.isEmpty then slashed || (segments target).2 else slashed

theorem resolve_zero (tree : FileTree) (purpose : Purpose) (slashed : Bool) (place : Nat) (names : List Bytes) :
    tree.resolve purpose 0 slashed place names =
      (tree.descend purpose slashed place none names).settle fun _ _ _ => .error .tooManyLinks := by
  unfold FileTree.resolve
  cases tree.descend purpose slashed place none names <;> rfl

theorem resolve_succ (tree : FileTree) (purpose : Purpose) (links : Nat) (slashed : Bool) (place : Nat)
    (names : List Bytes) :
    tree.resolve purpose (links + 1) slashed place names =
      (tree.descend purpose slashed place none names).settle fun directory target rest =>
        tree.resolve purpose links (detourSlashed slashed target rest) (detourPlace directory target)
          ((segments target).1 ++ rest) := by
  rw [FileTree.resolve]
  cases tree.descend purpose slashed place none names <;> rfl

theorem Turn.Kept.settle {size : Nat} {before after : Turn} (turn : before.Kept size after)
    {detoured detouredAfter : Nat → Bytes → List Bytes → Except Errno Spot}
    (further : ∀ {directory : Nat} (target : Bytes) (rest : List Bytes), directory < size →
      FileTree.Kept size (detoured directory target rest) (detouredAfter directory target rest)) :
    FileTree.Kept size (before.settle detoured) (after.settle detouredAfter) := by
  cases turn with
  | found old => exact .found _ old
  | vacant => exact .vacant _ _ _
  | fault => exact .fault _
  | detour target rest old => exact further target rest old
  | filled new => exact .filled _ (.vacant _ _ _) new
  | blocked => exact .blocked _ (.vacant _ _ _)
  | passed => exact .blocked _ .noEntry

theorem Closed.detourPlace (closed : tree.Closed) {directory : Nat} (old : directory < tree.nodes.size)
    (target : Bytes) : FileTree.detourPlace directory target < tree.nodes.size := by
  unfold FileTree.detourPlace
  split
  · exact closed.root
  · exact old

theorem Grows.resolve (grows : tree.Grows later) (closed : tree.Closed) {purpose : Purpose} {links : Nat}
    {slashed : Bool} {names : List Bytes} {place : Nat} (old : place < tree.nodes.size) :
    Kept tree.nodes.size (tree.resolve purpose links slashed place names)
      (later.resolve purpose links slashed place names) := by
  induction links generalizing slashed place names with
  | zero =>
    rw [resolve_zero, resolve_zero]
    exact (grows.descend closed old).settle fun _ _ _ => .fault _
  | succ links ih =>
    rw [resolve_succ, resolve_succ]
    exact (grows.descend closed old).settle fun target _ directoryOld => ih (closed.detourPlace directoryOld target)

theorem Grows.lookup (grows : tree.Grows later) (closed : tree.Closed) (purpose : Purpose) (path : Path) :
    Kept tree.nodes.size (tree.lookup purpose path) (later.lookup purpose path) := by
  unfold FileTree.lookup
  split
  · exact .fault _
  · split
    · exact .fault _
    · simp only
      split
      · exact .fault _
      · rw [grows.cwd]
        refine grows.resolve closed ?_
        split
        · exact closed.root
        · exact closed.cwd

/-- What the new binaries make of the node that a path leads to. -/
inductive NodeKept (size : Nat) : Except Errno Node → Except Errno Node → Prop
  | ok {node after : Node} (grows : node.Grows size after) : NodeKept size (.ok node) (.ok after)
  | fault (errno : Errno) : NodeKept size (.error errno) (.error errno)
  | filled (mode : Nat) (content : Content) : NodeKept size (.error .noEntry) (.ok (.file mode content))
  | blocked (errno : Errno) : NodeKept size (.error .noEntry) (.error errno)

theorem Grows.nodeAt (grows : tree.Grows later) {before after : Except Errno Spot}
    (kept : Kept tree.nodes.size before after) :
    NodeKept tree.nodes.size (tree.nodeAt before) (later.nodeAt after) := by
  cases kept with
  | @found number entry old =>
    have there : tree.nodes[number]? = some tree.nodes[number] := Array.getElem?_eq_getElem old
    obtain ⟨node, grown, how⟩ := grows.old there
    simp only [FileTree.nodeAt, there, grown, Option.elim_some]
    exact .ok how
  | fault => exact .fault _
  | vacant => exact .fault _
  | @filled _ number entry nowhere new =>
    have missing : tree.nodeAt before = .error .noEntry := by cases nowhere <;> rfl
    rw [missing]
    cases whole : later.nodes[number]? with
    | none =>
      simp only [FileTree.nodeAt, whole, Option.elim_none]
      exact .fault _
    | some after =>
      obtain ⟨mode, content, rfl⟩ := grows.new new whole
      simp only [FileTree.nodeAt, whole, Option.elim_some]
      exact .filled _ _
  | @blocked _ errno nowhere =>
    have missing : tree.nodeAt before = .error .noEntry := by cases nowhere <;> rfl
    rw [missing]
    exact .blocked _

theorem Grows.node (grows : tree.Grows later) (closed : tree.Closed) (path : Path) :
    NodeKept tree.nodes.size (tree.node path) (later.node path) :=
  grows.nodeAt (grows.lookup closed _ path)

theorem Grows.entryNode (grows : tree.Grows later) (closed : tree.Closed) (path : Path) :
    NodeKept tree.nodes.size (tree.entryNode path) (later.entryNode path) :=
  grows.nodeAt (grows.lookup closed _ path)

/-- No directory becomes another one. -/
theorem Grows.identity? (grows : tree.Grows later) (closed : tree.Closed) (path : Path) :
    Walk.identity? later path = Walk.identity? tree path := by
  have kept := grows.lookup closed ⟨true, false⟩ path
  unfold Walk.identity? FileTree.number FileTree.node locate
  revert kept
  generalize tree.lookup ⟨true, false⟩ path = before
  generalize later.lookup ⟨true, false⟩ path = after
  intro kept
  cases kept with
  | @found number entry old =>
    have there : tree.nodes[number]? = some tree.nodes[number] := Array.getElem?_eq_getElem old
    generalize tree.nodes[number] = node at there
    obtain ⟨after, grown, how⟩ := grows.old there
    simp only [FileTree.nodeAt, there, grown, Option.elim_some]
    cases how <;> rfl
  | fault => rfl
  | vacant => rfl
  | @filled _ number entry nowhere new =>
    cases whole : later.nodes[number]? with
    | none => cases nowhere <;> simp only [FileTree.nodeAt, whole, Option.elim_none]
    | some after =>
      obtain ⟨mode, content, rfl⟩ := grows.new new whole
      cases nowhere <;> simp only [FileTree.nodeAt, whole, Option.elim_some]
  | blocked errno nowhere => cases nowhere <;> rfl

/-- What a directory shows of one entry. -/
def shown (tree : FileTree) (entry : Bytes × Nat) : Option (Bytes × EntryKind) :=
  (tree.nodes[entry.2]?).map fun node => (entry.1, node.entryKind)

/-- The entries of a node that is a directory and may be read. -/
def entriesIn (tree : FileTree) : Except Errno Node → List (Bytes × EntryKind)
  | .ok (.directory mode _ _ entries) => if mayRead mode then entries.filterMap tree.shown else []
  | _ => []

theorem entriesOf_eq (tree : FileTree) (path : Path) : Walk.entriesOf tree path = tree.entriesIn (tree.node path) := by
  unfold Walk.entriesOf list
  cases tree.node path with
  | error => rfl
  | ok node =>
    cases node with
    | directory mode parent live entries =>
      simp only [entriesIn, bind, Except.bind]
      cases mayRead mode <;> rfl
    | file | link | device | pipe => rfl

theorem exists_number {path : Path} {node : Node} (leads : tree.node path = .ok node) :
    ∃ number : Nat, tree.nodes[number]? = some node := by
  unfold FileTree.node FileTree.nodeAt at leads
  split at leads
  · cases leads
  · cases leads
  · next number entry _ =>
    cases there : tree.nodes[number]? with
    | none => simp [there] at leads
    | some other =>
      rw [there] at leads
      exact ⟨number, Except.ok.inj leads ▸ there⟩

theorem Grows.shown_old (grows : tree.Grows later) {entry : Bytes × Nat} (old : entry.2 < tree.nodes.size) :
    later.shown entry = tree.shown entry := by
  have there : tree.nodes[entry.2]? = some tree.nodes[entry.2] := Array.getElem?_eq_getElem old
  obtain ⟨after, grown, how⟩ := grows.old there
  simp only [shown, there, grown, Option.map_some, how.entryKind]

theorem Grows.shown_new (grows : tree.Grows later) {entry : Bytes × Nat} (new : tree.nodes.size ≤ entry.2)
    {seen : Bytes × EntryKind} (visible : later.shown entry = some seen) : seen = (entry.1, .regular) := by
  obtain ⟨node, there, rfl⟩ := Option.map_eq_some_iff.mp visible
  obtain ⟨mode, content, rfl⟩ := grows.new new there
  rfl

/-- A directory shows the new binaries behind all that it showed before. -/
theorem Grows.entriesOf (grows : tree.Grows later) (closed : tree.Closed) (path : Path) :
    ∃ more, Walk.entriesOf later path = Walk.entriesOf tree path ++ more ∧
      ∀ entry ∈ more, Suffix.IsBinary entry.1 ∧ entry.2 = .regular := by
  have kept := grows.node closed path
  rw [entriesOf_eq, entriesOf_eq]
  generalize leads : tree.node path = before at kept
  generalize later.node path = after at kept
  cases kept with
  | fault => exact ⟨[], rfl, nofun⟩
  | filled => exact ⟨[], rfl, nofun⟩
  | blocked => exact ⟨[], rfl, nofun⟩
  | @ok node after how =>
    cases node with
    | file | link | device | pipe => cases how <;> exact ⟨[], rfl, nofun⟩
    | directory mode parent live entries =>
      obtain ⟨number, there⟩ := exists_number leads
      obtain ⟨more, rfl, fresh⟩ := how.directory
      cases readable : mayRead mode with
      | false => exact ⟨[], by simp only [entriesIn, readable]; rfl, nofun⟩
      | true =>
        have same : entries.filterMap later.shown = entries.filterMap tree.shown :=
          List.filterMap_congr fun entry member => grows.shown_old ((closed.directory there).2 entry member)
        refine ⟨more.filterMap later.shown, ?_, fun seen member => ?_⟩
        · simp only [entriesIn, readable, if_true]
          rw [← same, ← List.filterMap_append]
        · obtain ⟨entry, listed, visible⟩ := List.mem_filterMap.mp member
          obtain ⟨binary, new⟩ := fresh entry listed
          obtain rfl := grows.shown_new new visible
          exact ⟨binary, rfl⟩

end FileTree
end ExitParity
