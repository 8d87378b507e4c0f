import ExitParity.Proofs.Files.Growth

namespace ExitParity
namespace FileTree

variable {tree later : FileTree}

/-- One way down ends in a fault, or the other one ends likewise, but for what
becomes of the spot. -/
inductive Turn.Leads (become : Spot → Spot) : Turn → Turn → Prop
  | fault (errno : Errno) (other : Turn) : Leads become (.fault errno) other
  | arrived (spot : Spot) : Leads become (.arrived spot) (.arrived (become spot))
  | detour (directory : Nat) (target : Bytes) (rest : List Bytes) :
      Leads become (.detour directory target rest) (.detour directory target rest)

theorem Turn.Leads.refl (turn : Turn) : Turn.Leads id turn turn := by
  cases turn with
  | arrived spot => exact .arrived spot
  | fault errno => exact .fault errno _
  | detour directory target rest => exact .detour directory target rest

theorem Turn.Leads.ite {become : Spot → Spot} {condition : Prop} [Decidable condition]
    {turn after other otherAfter : Turn} (yes : Turn.Leads become turn after)
    (no : ¬condition → Turn.Leads become other otherAfter) :
    Turn.Leads become (if condition then turn else other) (if condition then after else otherAfter) := by
  split
  · exact yes
  · next unmet => exact no unmet

/-- What becomes of every way down becomes of the whole path, through any links. -/
theorem resolve_leads {become : Spot → Spot} {purpose other : Purpose}
    (turns : ∀ {slashed : Bool} {place : Nat} {names : List Bytes}, Turn.Leads become
      (tree.descend purpose slashed place none names) (later.descend other slashed place none names))
    {links : Nat} {slashed : Bool} {place : Nat} {names : List Bytes} {spot : Spot}
    (leads : tree.resolve purpose links slashed place names = .ok spot) :
    later.resolve other links slashed place names = .ok (become spot) := by
  induction links generalizing slashed place names with
  | zero =>
    rw [resolve_zero] at leads ⊢
    have turn := @turns slashed place names
    generalize tree.descend purpose slashed place none names = before at turn leads
    generalize later.descend other slashed place none names = after at turn ⊢
    cases turn with
    | fault => cases leads
    | arrived spot =>
      obtain rfl := Except.ok.inj leads
      rfl
    | detour => cases leads
  | succ links ih =>
    rw [resolve_succ] at leads ⊢
    have turn := @turns slashed place names
    generalize tree.descend purpose slashed place none names = before at turn leads
    generalize later.descend other slashed place none names = after at turn ⊢
    cases turn with
    | fault => cases leads
    | arrived spot =>
      obtain rfl := Except.ok.inj leads
      rfl
    | detour => exact ih leads

theorem descend_makes {slashed : Bool} {names : List Bytes} {place : Nat} {entry : Option (Nat × Bytes)} :
    Turn.Leads id (tree.descend ⟨true, true⟩ slashed place entry names)
      (tree.descend ⟨true, false⟩ slashed place entry names) := by
  induction names generalizing place entry with
  | nil => exact .refl _
  | cons name rest ih =>
    have either {turn other : Turn} (goesOn : Turn.Leads id turn other) :
        Turn.Leads id (if rest.isEmpty then .fault .isDirectory else turn) other := by
      split
      · exact .fault _ _
      · exact goesOn
    simp only [FileTree.descend, Bool.and_true, Bool.and_false, Bool.false_eq_true, if_false]
    split
    · refine .ite (.refl _) fun _ => .ite (either ih) fun _ => .ite (either ih) fun _ => ?_
      split
      · exact .fault _ _
      · refine .ite (.refl _) fun _ => ?_
        split
        · exact .refl _
        · split
          · exact .refl _
          · exact ih
          · exact .refl _
    · exact .refl _

/-- A path that a file can be made at leads where it leads anyway. -/
theorem locate_of_makes {path : Path} {spot : Spot} (leads : tree.lookup ⟨true, true⟩ path = .ok spot) :
    tree.locate path = .ok spot := by
  unfold locate FileTree.lookup at *
  split at leads
  · cases leads
  · next some_ =>
    rw [if_neg some_]
    split at leads
    · cases leads
    · next short =>
      rw [if_neg short]
      simp only [Bool.and_true, Bool.and_false, Bool.false_eq_true, if_false] at leads ⊢
      split at leads
      · cases leads
      · exact resolve_leads descend_makes leads

/-- A name is free in a directory. -/
def IsFree (tree : FileTree) (directory : Nat) (name : Bytes) : Prop :=
  ∃ mode parent live entries, tree.nodes[directory]? = some (.directory mode parent live entries) ∧
    child? name entries = none

/-- The ways to the end of a path, one with a link at the end followed, and one
with such a link taken as it is. -/
inductive Turn.Twin (tree : FileTree) (last : Option Bytes) : Turn → Turn → Prop
  | found (number : Nat) (entry : Option (Nat × Bytes)) :
      Twin tree last (.arrived (.found number entry)) (.arrived (.found number entry))
  | vacant {directory : Nat} {name : Bytes} {slashed : Bool} (free : tree.IsFree directory name)
      (ends : last = some name) :
      Twin tree last (.arrived (.vacant directory name slashed)) (.arrived (.vacant directory name slashed))
  | fault (errno : Errno) : Twin tree last (.fault errno) (.fault errno)
  | detour {directory : Nat} {target : Bytes} {rest : List Bytes} (more : rest ≠ []) (ends : rest.getLast? = last) :
      Twin tree last (.detour directory target rest) (.detour directory target rest)
  | link {number : Nat} {target : Bytes} {entry : Option (Nat × Bytes)} (follows : Turn)
      (there : tree.nodes[number]? = some (.link target)) : Twin tree last follows (.arrived (.found number entry))

theorem Turn.Twin.ite {condition : Prop} [Decidable condition] {last : Option Bytes}
    {follows keeps other otherKeeps : Turn}
    (yes : condition → Turn.Twin tree last follows keeps) (no : ¬condition → Turn.Twin tree last other otherKeeps) :
    Turn.Twin tree last (if condition then follows else other) (if condition then keeps else otherKeeps) := by
  split
  · next met => exact yes met
  · next unmet => exact no unmet

theorem descend_twin {names : List Bytes} {place : Nat} {entry : Option (Nat × Bytes)} :
    Turn.Twin tree names.getLast? (tree.descend ⟨true, false⟩ false place entry names)
      (tree.descend ⟨false, false⟩ false place entry names) := by
  induction names generalizing place entry with
  | nil => exact .found _ _
  | cons name rest ih =>
    have goesOn {place : Nat} {entry : Option (Nat × Bytes)} :
        Turn.Twin tree (name :: rest).getLast? (tree.descend ⟨true, false⟩ false place entry rest)
          (tree.descend ⟨false, false⟩ false place entry rest) := by
      cases rest with
      | nil => exact .found _ _
      | cons next others => simpa only [List.getLast?_cons_cons] using ih
    have behind (more : rest ≠ []) : rest.getLast? = (name :: rest).getLast? := by
      cases rest with
      | nil => exact absurd rfl more
      | cons next others => rw [List.getLast?_cons_cons]
    simp only [FileTree.descend, Bool.and_false, Bool.and_true, Bool.false_eq_true, if_false, Bool.not_true,
      Bool.not_false]
    split
    · next mode parent live entries there =>
      refine .ite (fun _ => .fault _) fun _ => .ite (fun _ => goesOn) fun _ => .ite (fun _ => goesOn) fun _ =>
        .ite (fun _ => .fault _) fun _ => ?_
      cases listed : child? name entries with
      | none =>
        refine .ite (fun last => .vacant ⟨mode, parent, live, entries, there, listed⟩ ?_) fun _ => .fault _
        rw [List.isEmpty_iff.mp last]
        rfl
      | some next =>
        simp only
        split
        · next target link =>
          split
          · exact .link _ link
          · next more => exact .detour (by simpa using more) (behind (by simpa using more))
        · exact goesOn
        · exact .ite (fun _ => .found _ _) fun _ => .fault _
    · exact .fault _

/-- What a spot that a path leads to says of the path when a link at its end
is taken as it is: that there is one, or else that the spot, if it is free, has
the last name of the path. -/
inductive Entered (tree : FileTree) (last : Option Bytes) (spot : Spot) : Except Errno Spot → Prop
  | link {number : Nat} {target : Bytes} {entry : Option (Nat × Bytes)}
      (there : tree.nodes[number]? = some (.link target)) : Entered tree last spot (.ok (.found number entry))
  | spot {keeps : Except Errno Spot}
      (free : ∀ {directory name slashed}, spot = .vacant directory name slashed →
        tree.IsFree directory name ∧ last = some name) : Entered tree last spot keeps

theorem Turn.Twin.settle {last : Option Bytes} {follows keeps : Turn} {spot : Spot}
    {detoured keepsDetoured : Nat → Bytes → List Bytes → Except Errno Spot} (twin : Turn.Twin tree last follows keeps)
    (leads : follows.settle detoured = .ok spot)
    (further : ∀ {directory target rest}, rest ≠ [] → rest.getLast? = last → detoured directory target rest = .ok spot →
      Entered tree last spot (keepsDetoured directory target rest)) :
    Entered tree last spot (keeps.settle keepsDetoured) := by
  cases twin with
  | found =>
    obtain rfl := Except.ok.inj leads
    exact .spot nofun
  | vacant free ends =>
    obtain rfl := Except.ok.inj leads
    refine .spot fun same => ?_
    obtain ⟨rfl, rfl, rfl⟩ := Spot.vacant.inj same
    exact ⟨free, ends⟩
  | fault => cases leads
  | detour more ends => exact further more ends leads
  | link _ there => exact .link there

theorem resolve_entered {links : Nat} {place : Nat} {names : List Bytes} {spot : Spot}
    (leads : tree.resolve ⟨true, false⟩ links false place names = .ok spot) :
    Entered tree names.getLast? spot (tree.resolve ⟨false, false⟩ links false place names) := by
  induction links generalizing place names with
  | zero =>
    rw [resolve_zero] at leads ⊢
    exact descend_twin.settle leads fun _ _ error => by cases error
  | succ links ih =>
    rw [resolve_succ] at leads ⊢
    refine descend_twin.settle leads fun {directory target rest} more ends later => ?_
    have plain : detourSlashed false target rest = false := by simp [detourSlashed, more]
    have last : ((segments target).1 ++ rest).getLast? = names.getLast? := by
      obtain ⟨name, final⟩ := Option.ne_none_iff_exists'.mp (mt List.getLast?_eq_none_iff.mp more)
      rw [List.getLast?_append, ← ends, final, Option.some_or]
    rw [plain] at later ⊢
    rw [← last]
    exact ih later

/-- Where no entry is, a free spot has the last name of the path. -/
theorem free_of_absent {path : Path} {names : List Bytes} {directory : Nat} {name : Bytes} {slashed : Bool}
    (written : segments path.bytes = (names, false)) (leads : tree.locate path = .ok (.vacant directory name slashed))
    (absent : tree.entryNode path = .error .noEntry) : tree.IsFree directory name ∧ names.getLast? = some name := by
  unfold locate FileTree.lookup at leads
  unfold FileTree.entryNode locateEntry FileTree.lookup at absent
  split at leads
  · cases leads
  · next some_ =>
    rw [if_neg some_] at absent
    split at leads
    · cases leads
    · next short =>
      rw [if_neg short] at absent
      simp only [written, Bool.and_false, Bool.false_eq_true, if_false] at leads absent
      have entered := resolve_entered leads
      generalize tree.resolve ⟨false, false⟩ linkLimit false (if path.isAbsolute then root else tree.cwd) names = keeps
        at entered absent
      cases entered with
      | link there => simp [FileTree.nodeAt, there] at absent
      | spot free => exact free rfl

theorem putEntry_of_free {name : Bytes} {number : Nat} {entries : List (Bytes × Nat)}
    (free : child? name entries = none) : putEntry name (some number) entries = entries ++ [(name, number)] := by
  induction entries with
  | nil => rfl
  | cons entry rest ih =>
    simp only [child?, Option.map_eq_none_iff, List.find?_cons] at free
    split at free
    · cases free
    · next other =>
      rw [putEntry, if_neg (by simpa using other), List.cons_append, ih (by simpa [child?] using free)]

theorem size_set (tree : FileTree) (number : Nat) (node : Node) :
    (tree.set number node).nodes.size = tree.nodes.size := by
  simp only [FileTree.set, adjust, setTime, Array.size_setIfInBounds]

theorem getElem?_set (tree : FileTree) (number other : Nat) (node : Node) : (tree.set number node).nodes[other]? =
    if number = other then if number < tree.nodes.size then some node else none else tree.nodes[other]? := by
  simp only [FileTree.set, adjust, setTime, Array.getElem?_setIfInBounds]

theorem lt_of_there {number : Nat} {node : Node} (there : tree.nodes[number]? = some node) :
    number < tree.nodes.size := (Array.getElem?_eq_some_iff.mp there).1

theorem getElem?_grow {number : Nat} {node : Node} (there : tree.nodes[number]? = some node) (more : Node) :
    (tree.grow more).2.nodes[number]? = some node := by
  have old := lt_of_there there
  simp only [grow]
  rwa [Array.getElem?_push_lt old, ← Array.getElem?_eq_getElem old]

theorem Grows.set {between : FileTree} (grows : tree.Grows between) {number : Nat} {node after : Node}
    (there : tree.nodes[number]? = some node) (how : node.Grows tree.nodes.size after) :
    tree.Grows (between.set number after) where
  cwd := grows.cwd
  size := by
    rw [size_set]
    exact grows.size
  old {other otherNode} found := by
    rw [getElem?_set]
    split
    · next same =>
      subst same
      obtain rfl := Option.some.inj (there.symm.trans found)
      exact ⟨after, if_pos (Nat.lt_of_lt_of_le (lt_of_there there) grows.size), how⟩
    · exact grows.old found
  new {other otherNode} beyond found := by
    have old := lt_of_there there
    rw [getElem?_set, if_neg (by omega)] at found
    exact grows.new beyond found

/-- What is new can be given any content. -/
theorem Grows.setNew {between : FileTree} (grows : tree.Grows between) {number : Nat} (new : tree.nodes.size ≤ number)
    (mode : Nat) (content : Content) : tree.Grows (between.set number (.file mode content)) where
  cwd := grows.cwd
  size := by
    rw [size_set]
    exact grows.size
  old {other otherNode} found := by
    have old := lt_of_there found
    rw [getElem?_set, if_neg (by omega)]
    exact grows.old found
  new {other otherNode} beyond found := by
    rw [getElem?_set] at found
    split at found
    · split at found
      · exact ⟨mode, content, (Option.some.inj found).symm⟩
      · cases found
    · exact grows.new beyond found

theorem grows_grow (tree : FileTree) (mode : Nat) (content : Content) :
    tree.Grows (tree.grow (.file mode content)).2 where
  cwd := rfl
  size := by simp [grow]
  old {number node} found := ⟨node, getElem?_grow found _, .same node⟩
  new {number after} beyond found := by
    simp only [grow, Array.getElem?_push] at found
    split at found
    · exact ⟨mode, content, (Option.some.inj found).symm⟩
    · rw [Array.getElem?_eq_none beyond] at found
      cases found

/-- A new binary is put under a free name. -/
theorem Grows.plant {directory number mode : Nat} {name : Bytes} {content : Content} (free : tree.IsFree directory name)
    (isBinary : Suffix.IsBinary name) (planted : tree.plant directory name (.file mode content) = .ok (number, later)) :
    number = tree.nodes.size ∧ tree.Grows later := by
  obtain ⟨mode', parent, live, entries, there, absent⟩ := free
  have grown := tree.grows_grow mode content
  have kept := getElem?_grow there (.file mode content)
  unfold FileTree.plant at planted
  cases checked : tree.checkChange directory with
  | error => simp [checked, bind, Except.bind] at planted
  | ok =>
    simp only [checked, bind, Except.bind, pure, Except.pure] at planted
    obtain ⟨rfl, rfl⟩ := Prod.mk.inj (Except.ok.inj planted)
    refine ⟨rfl, ?_⟩
    simp only [setEntry, kept, putEntry_of_free absent]
    refine grown.set there (.entries fun entry member => ?_)
    obtain rfl := List.mem_singleton.mp member
    exact ⟨isBinary, Nat.le_refl _⟩

/-- Opening a file to write to it empties it, or makes a binary. -/
theorem grows_of_open {path : Path} {target : Target} {mode : Nat}
    (opened : tree.openForWriting path ⟨true, false, true, mode⟩ = .ok (target, later))
    (free : ∀ {directory name slashed}, tree.lookup ⟨true, true⟩ path = .ok (.vacant directory name slashed) →
      tree.IsFree directory name ∧ Suffix.IsBinary name) :
    tree.Grows later ∧ ∀ {number}, target = .store number →
      tree.nodes.size ≤ number ∨ ∃ mode content, tree.nodes[number]? = some (.file mode content) := by
  unfold openForWriting at opened
  simp only [Bool.not_false, Bool.false_eq_true, if_false, if_true] at opened
  cases leads : tree.lookup ⟨true, true⟩ path with
  | error errno => simp [leads] at opened
  | ok spot =>
    simp only [leads] at opened
    cases spot with
    | vacant directory name slashed =>
      obtain ⟨isFree, isBinary⟩ := free leads
      cases planted : tree.plant directory name (.file mode (.data [])) with
      | error errno => simp [planted, bind, Except.bind] at opened
      | ok made =>
        simp only [planted, bind, Except.bind, pure, Except.pure] at opened
        obtain ⟨number, between⟩ := made
        obtain ⟨new, grows⟩ := Grows.plant isFree isBinary planted
        obtain ⟨rfl, rfl⟩ := Prod.mk.inj (Except.ok.inj opened)
        refine ⟨grows, fun same => .inl ?_⟩
        obtain rfl := Target.store.inj same
        exact Nat.le_of_eq new.symm
    | found number entry =>
      simp only at opened
      split at opened
      · next mode content there =>
        split at opened
        · cases opened
        · obtain ⟨rfl, rfl⟩ := Prod.mk.inj (Except.ok.inj opened)
          refine ⟨(Grows.refl tree).set there (.content mode content _), fun same => .inr ?_⟩
          obtain rfl := Target.store.inj same
          exact ⟨mode, content, there⟩
      · obtain ⟨rfl, rfl⟩ := Prod.mk.inj (Except.ok.inj opened)
        exact ⟨.refl tree, nofun⟩
      · split at opened
        · obtain ⟨rfl, rfl⟩ := Prod.mk.inj (Except.ok.inj opened)
          exact ⟨.refl tree, nofun⟩
        · cases opened
      · cases opened

/-- Writing changes the contents of a file that is there, or makes a binary. -/
theorem grows_of_write {path : Path} {bytes : Bytes} (written : tree.write path (.data bytes) = .ok later)
    (free : ∀ {directory name slashed}, tree.lookup ⟨true, true⟩ path = .ok (.vacant directory name slashed) →
      tree.IsFree directory name ∧ Suffix.IsBinary name) : tree.Grows later := by
  unfold FileTree.write at written
  cases opened : tree.openForWriting path ⟨true, false, true, newFileMode⟩ with
  | error errno => simp [opened] at written
  | ok pair =>
    obtain ⟨target, between⟩ := pair
    obtain ⟨grows, store⟩ := grows_of_open opened free
    simp only [opened] at written
    cases target with
    | device device =>
      cases device with
      | full => cases written
      | null | zero => exact Except.ok.inj written ▸ grows
    | pipe => exact Except.ok.inj written ▸ grows
    | store number =>
      simp only at written
      split at written
      · next mode content there =>
        rw [← Except.ok.inj written]
        rcases store rfl with new | ⟨mode', content', before⟩
        · exact grows.setNew new mode _
        · obtain ⟨node, same, how⟩ := grows.old before
          obtain rfl := Option.some.inj (same.symm.trans there)
          refine grows.set before ?_
          cases how <;> exact .content _ _ _
      · exact Except.ok.inj written ▸ grows

theorem segments_ofSegments {front : List Bytes} {name : Bytes}
    (plain : ∀ segment ∈ front ++ [name], Path.slash ∉ segment)
    (some_ : name ≠ []) : ∃ names, segments (Path.ofSegments (front ++ [name])).bytes = (names, false) ∧
      names.getLast? = some name := by
  have ends : (front ++ [name]).getLast? = some name := by simp
  obtain ⟨before, written⟩ := Path.exists_front ends
  have cut : Bytes.split Path.slash (Path.ofSegments (front ++ [name])).bytes = front ++ [name] :=
    Bytes.split_joinWith (by simp) plain
  have final := List.getLast?_eq_some_getLast some_
  have other : name.getLast some_ ≠ Path.slash := fun same =>
    plain name (by simp) (same ▸ List.getLast_mem some_)
  refine ⟨_, Prod.ext rfl ?_, ?_⟩
  · rw [segments, written, List.getLast?_append, final, Option.some_or]
    simpa using other
  · simp only [segments, cut, List.filter_append, List.getLast?_append]
    simp [some_]

/-- What a module is assembled to has the name of a binary, with nothing
behind it. -/
theorem segments_assembledPath {layout : Layout} {root : Path} (rooted : (layout.pairRoot? root).isSome = true) :
    ∃ names binary, segments (assembledPath root).bytes = (names, false) ∧ names.getLast? = some binary ∧
      Suffix.IsBinary binary := by
  obtain ⟨name, last, wellFormed, ends⟩ :=
    ArtifactKind.of_eq_generatedTextual.mp (Layout.exists_pairRoot?_iff.mp ⟨layout, rooted⟩)
  obtain ⟨binary, isBinary, assembled⟩ := assembledPath_eq last wellFormed ends
  obtain ⟨anchor, before, after, named⟩ := Path.exists_named last
  have some_ : binary ≠ [] := by
    rintro rfl
    exact absurd isBinary.ends.length_le (by decide)
  have plain : ∀ segment ∈ anchor ++ Path.trimEnd before ++ [binary], Path.slash ∉ segment := by
    intro segment member
    rcases List.mem_append.mp member with kept | new
    · exact named.plain_kept segment kept
    · exact List.mem_singleton.mp new ▸ isBinary.plain
  obtain ⟨names, written, final⟩ := segments_ofSegments plain some_
  rw [assembled, named.withFileName isBinary.plain]
  exact ⟨names, binary, written, final, isBinary⟩

/-- A file is written at a path where nothing is, or over a regular file. -/
inductive Writes (tree : FileTree) (path : Path) (later : FileTree) : Prop
  | fresh {bytes : Bytes} (absent : tree.entryNode path = .error .noEntry)
      (written : tree.write path (.data bytes) = .ok later)
  | again {mode : Nat} {content : Content} {bytes : Bytes} (regular : tree.node path = .ok (.file mode content))
      (written : tree.write path (.data bytes) = .ok later)

theorem Writes.grows {layout : Layout} {root : Path} (rooted : (layout.pairRoot? root).isSome = true)
    (writes : tree.Writes (assembledPath root) later) : tree.Grows later := by
  obtain ⟨names, binary, written, final, isBinary⟩ := segments_assembledPath rooted
  cases writes with
  | fresh absent made =>
    refine grows_of_write made fun leads => ?_
    obtain ⟨free, last⟩ := free_of_absent written (locate_of_makes leads) absent
    obtain rfl := Option.some.inj (final.symm.trans last)
    exact ⟨free, isBinary⟩
  | again regular made =>
    refine grows_of_write made fun leads => ?_
    simp only [FileTree.node, locate_of_makes leads, nodeAt] at regular
    cases regular

end FileTree
end ExitParity
