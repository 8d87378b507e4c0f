import ExitParity.Proofs.Files.Writing

namespace ExitParity

/-- What a way down sees of a node. -/
inductive Aspect where
  | directory (mode parent : Nat) (entries : List (Bytes × Nat))
  | link (target : Bytes)
  | closed

def Aspect.of : Option Node → Aspect
  | some (.directory mode parent _ entries) => .directory mode parent entries
  | some (.link target) => .link target
  | _ => .closed

namespace FileTree

variable {tree later : FileTree}

def aspect (tree : FileTree) (number : Nat) : Aspect := .of tree.nodes[number]?

theorem aspect_file {number mode : Nat} {content : Content}
    (there : tree.nodes[number]? = some (.file mode content)) : tree.aspect number = .closed := by
  rw [aspect, there]
  rfl

theorem aspect_directory {number mode parent : Nat} {live : Bool} {entries : List (Bytes × Nat)}
    (there : tree.nodes[number]? = some (.directory mode parent live entries)) :
    tree.aspect number = .directory mode parent entries := by
  rw [aspect, there]
  rfl

theorem descend_cons (tree : FileTree) (purpose : Purpose) (slashed : Bool) (place : Nat)
    (entry : Option (Nat × Bytes)) (name : Bytes) (rest : List Bytes) :
    tree.descend purpose slashed place entry (name :: rest) =
      match tree.aspect place with
      | .directory mode parent entries =>
        if !mayEnter mode then .fault .denied
        else if name == Path.dot then
          if rest.isEmpty && purpose.makesFile then .fault .isDirectory
          else tree.descend purpose slashed place none rest
        else if name == Path.dotdot then
          if rest.isEmpty && purpose.makesFile then .fault .isDirectory
          else tree.descend purpose slashed parent none rest
        else if rest.isEmpty && slashed && purpose.makesFile then .fault .isDirectory
        else if name.length > nameLimit then .fault .nameTooLong
        else match child? name entries with
          | none => if rest.isEmpty then .arrived (.vacant place name slashed) else .fault .noEntry
          | some next =>
            match tree.aspect next with
            | .link target =>
              if rest.isEmpty && !purpose.follow && !slashed then .arrived (.found next (some (place, name)))
              else .detour place target rest
            | .directory .. => tree.descend purpose slashed next (some (place, name)) rest
            | .closed =>
              if rest.isEmpty && !slashed then .arrived (.found next (some (place, name)))
              else .fault .notDirectory
      | _ => .fault .notDirectory := by
  rw [descend, aspect]
  cases tree.nodes[place]? with
  | none => rfl
  | some node =>
    cases node with
    | file | link | device | pipe => rfl
    | directory mode parent live entries =>
      simp only [Aspect.of]
      cases child? name entries with
      | none => rfl
      | some next =>
        simp only [aspect]
        cases tree.nodes[next]? with
        | none => rfl
        | some node => cases node <;> rfl

/-- A tree whose nodes look the same from above has the same ways down. -/
theorem descend_congr (same : ∀ number, later.aspect number = tree.aspect number) (purpose : Purpose)
    (slashed : Bool) (place : Nat) (entry : Option (Nat × Bytes)) (names : List Bytes) :
    later.descend purpose slashed place entry names = tree.descend purpose slashed place entry names := by
  induction names generalizing place entry with
  | nil => rfl
  | cons name rest ih => simp only [descend_cons, same, ih]

/-- What becomes of every way down from the two places becomes of a path. -/
theorem lookup_leads {become : Spot → Spot} {purpose : Purpose} (cwd : later.cwd = tree.cwd)
    (turns : ∀ {slashed : Bool} {place : Nat} {names : List Bytes}, Turn.Leads become
      (tree.descend purpose slashed place none names) (later.descend purpose slashed place none names))
    {path : Path} {spot : Spot} (leads : tree.lookup purpose path = .ok spot) :
    later.lookup purpose path = .ok (become spot) := by
  unfold FileTree.lookup at *
  split at leads
  · cases leads
  · next some_ =>
    rw [if_neg some_]
    split at leads
    · cases leads
    · next short =>
      rw [if_neg short]
      simp only at leads ⊢
      split at leads
      · cases leads
      · next named =>
        rw [if_neg named, cwd]
        exact resolve_leads turns leads

theorem lookup_congr (same : ∀ number, later.aspect number = tree.aspect number) (cwd : later.cwd = tree.cwd)
    {purpose : Purpose} {path : Path} {spot : Spot} (leads : tree.lookup purpose path = .ok spot) :
    later.lookup purpose path = .ok spot := by
  have turns {slashed : Bool} {place : Nat} {names : List Bytes} : Turn.Leads id
      (tree.descend purpose slashed place none names) (later.descend purpose slashed place none names) := by
    rw [descend_congr same]
    exact .refl _
  exact lookup_leads cwd turns leads

/-- A file in the place of a file looks the same. -/
theorem aspect_set {number mode : Nat} {content : Content} (file : tree.aspect number = .closed) (other : Nat) :
    (tree.set number (.file mode content)).aspect other = tree.aspect other := by
  unfold aspect at *
  rw [getElem?_set]
  split
  · next same =>
    subst same
    split <;> exact file.symm
  · rfl

theorem aspect_grow {mode : Nat} {content : Content} (other : Nat) :
    (tree.grow (.file mode content)).2.aspect other = tree.aspect other := by
  simp only [aspect, grow, Array.getElem?_push]
  split
  · next last =>
    rw [last, Array.getElem?_eq_none (Nat.le_refl _)]
    rfl
  · rfl

/-- Where a path leads some way down ends. -/
theorem exists_descend {purpose : Purpose} {links : Nat} {slashed : Bool} {place : Nat} {names : List Bytes}
    {spot : Spot} (leads : tree.resolve purpose links slashed place names = .ok spot) :
    ∃ slashed place names, tree.descend purpose slashed place none names = .arrived spot := by
  have settled {turn : Turn} {detoured : Nat → Bytes → List Bytes → Except Errno Spot}
      (ends : turn.settle detoured = .ok spot) :
      turn = .arrived spot ∨ ∃ directory target rest, detoured directory target rest = .ok spot := by
    cases turn with
    | arrived other => exact .inl (congrArg Turn.arrived (Except.ok.inj ends))
    | fault => cases ends
    | detour directory target rest => exact .inr ⟨directory, target, rest, ends⟩
  induction links generalizing slashed place names with
  | zero =>
    rw [resolve_zero] at leads
    rcases settled leads with arrived | ⟨_, _, _, broken⟩
    · exact ⟨_, _, _, arrived⟩
    · cases broken
  | succ links ih =>
    rw [resolve_succ] at leads
    rcases settled leads with arrived | ⟨_, _, _, further⟩
    · exact ⟨_, _, _, arrived⟩
    · exact ih further

/-- If a way down ends at a vacant spot, the name is free there, and no
separator follows it. -/
def Turn.IsOpen (tree : FileTree) (turn : Turn) : Prop :=
  ∀ directory name slashed, turn = .arrived (.vacant directory name slashed) →
    tree.IsFree directory name ∧ slashed = false

theorem Turn.IsOpen.ite {condition : Prop} [Decidable condition] {turn other : Turn}
    (yes : condition → Turn.IsOpen tree turn) (no : ¬condition → Turn.IsOpen tree other) :
    Turn.IsOpen tree (if condition then turn else other) := by
  split
  · next met => exact yes met
  · next unmet => exact no unmet

theorem descend_isOpen {follow slashed : Bool} {names : List Bytes} {place : Nat} {entry : Option (Nat × Bytes)} :
    Turn.IsOpen tree (tree.descend ⟨follow, true⟩ slashed place entry names) := by
  have fault (errno : Errno) : Turn.IsOpen tree (.fault errno) := nofun
  induction names generalizing place entry with
  | nil => exact nofun
  | cons first rest ih =>
    simp only [FileTree.descend, Bool.and_true]
    split
    · next mode parent live entries there =>
      refine .ite (fun _ => fault _) fun _ => .ite (fun _ => .ite (fun _ => fault _) fun _ => ih) fun _ =>
        .ite (fun _ => .ite (fun _ => fault _) fun _ => ih) fun _ => .ite (fun _ => fault _) fun plain =>
          .ite (fun _ => fault _) fun _ => ?_
      cases free : child? first entries with
      | none =>
        refine .ite (fun last directory name ends same => ?_) fun _ => fault _
        obtain ⟨rfl, rfl, rfl⟩ := Spot.vacant.inj (Turn.arrived.inj same)
        exact ⟨⟨mode, parent, live, entries, there, free⟩, by simpa [last] using plain⟩
      | some next =>
        simp only
        split
        · exact .ite (fun _ => nofun) fun _ => nofun
        · exact ih
        · exact .ite (fun _ => nofun) fun _ => fault _
    · exact fault _

/-- A file can only be made under a name that is free. -/
theorem lookup_vacant {path : Path} {directory : Nat} {name : Bytes} {slashed : Bool}
    (leads : tree.lookup ⟨true, true⟩ path = .ok (.vacant directory name slashed)) :
    tree.IsFree directory name ∧ slashed = false := by
  unfold FileTree.lookup at leads
  split at leads
  · cases leads
  · split at leads
    · cases leads
    · simp only at leads
      split at leads
      · cases leads
      · obtain ⟨_, _, _, arrived⟩ := exists_descend leads
        exact descend_isOpen _ _ _ arrived

/-- A tree in which a name that was free stands for a new file. -/
structure Gains (tree : FileTree) (directory : Nat) (name : Bytes) (number : Nat) (later : FileTree) : Prop where
  cwd : later.cwd = tree.cwd
  free : ∃ mode parent entries, tree.aspect directory = .directory mode parent entries ∧
    child? name entries = none ∧ later.aspect directory = .directory mode parent (entries ++ [(name, number)])
  other : ∀ other, other ≠ directory → later.aspect other = tree.aspect other
  file : later.aspect number = .closed

/-- The free name is now found. -/
def filled (directory : Nat) (name : Bytes) (number : Nat) : Spot → Spot
  | .vacant place last slashed =>
    if place = directory ∧ last = name then .found number (some (place, last)) else .vacant place last slashed
  | spot => spot

theorem filled_of_ne {directory number place : Nat} {name last : Bytes} (other : ¬(place = directory ∧ last = name))
    (slashed : Bool) : filled directory name number (.vacant place last slashed) = .vacant place last slashed :=
  if_neg other

theorem filled_self (directory number : Nat) (name : Bytes) (slashed : Bool) :
    filled directory name number (.vacant directory name slashed) = .found number (some (directory, name)) :=
  if_pos ⟨rfl, rfl⟩

theorem child?_singleton (name other : Bytes) (number : Nat) :
    child? name [(other, number)] = if other = name then some number else none := by
  by_cases same : other = name <;> simp [child?, same]

namespace Gains

variable {directory number : Nat} {name : Bytes}

/-- A directory is one as before, and has the names it had beside the new one. -/
theorem of_directory (gains : tree.Gains directory name number later) {place mode parent : Nat}
    {entries : List (Bytes × Nat)} (there : tree.aspect place = .directory mode parent entries) :
    ∃ more, later.aspect place = .directory mode parent more ∧ ∀ last,
      (place = directory ∧ last = name) ∧ child? last entries = none ∧ child? last more = some number ∨
        ¬(place = directory ∧ last = name) ∧ child? last more = child? last entries := by
  by_cases here : place = directory
  · subst here
    obtain ⟨_, _, _, before, free, after⟩ := gains.free
    obtain ⟨rfl, rfl, rfl⟩ := Aspect.directory.inj (before.symm.trans there)
    refine ⟨_, after, fun last => ?_⟩
    rw [child?_append, child?_singleton]
    by_cases named : last = name
    · subst named
      exact .inl ⟨⟨rfl, rfl⟩, free, by rw [free, if_pos rfl]; rfl⟩
    · exact .inr ⟨fun same => named same.2, by rw [if_neg (Ne.symm named), Option.or_none]⟩
  · exact ⟨entries, (gains.other place here).trans there, fun last => .inr ⟨fun same => here same.1, rfl⟩⟩

/-- What is no directory looks the same. -/
theorem aspect (gains : tree.Gains directory name number later) {place : Nat}
    (elsewhere : ∀ mode parent entries, tree.aspect place ≠ .directory mode parent entries) :
    later.aspect place = tree.aspect place := by
  refine gains.other place ?_
  rintro rfl
  obtain ⟨mode, parent, entries, before, -, -⟩ := gains.free
  exact elsewhere mode parent entries before

theorem descend (gains : tree.Gains directory name number later) {follow slashed : Bool} {names : List Bytes}
    {place : Nat} {entry : Option (Nat × Bytes)} :
    Turn.Leads (filled directory name number) (tree.descend ⟨follow, true⟩ slashed place entry names)
      (later.descend ⟨follow, true⟩ slashed place entry names) := by
  induction names generalizing place entry with
  | nil => exact .arrived (.found place entry)
  | cons last rest ih =>
    simp only [descend_cons]
    cases there : tree.aspect place with
    | link | closed => exact .fault _ _
    | directory mode parent entries =>
      obtain ⟨more, after, listed⟩ := gains.of_directory there
      simp only [after, Bool.and_true]
      refine .ite (.fault _ _) fun _ => .ite (.ite (.fault _ _) fun _ => ih) fun _ =>
        .ite (.ite (.fault _ _) fun _ => ih) fun _ => .ite (.fault _ _) fun plain => .ite (.fault _ _) fun _ => ?_
      rcases listed last with ⟨⟨rfl, rfl⟩, none_, some_⟩ | ⟨elsewhere, same⟩
      · simp only [none_, some_, gains.file]
        -- The separator behind the name was ruled out on the way here.
        cases ends : rest.isEmpty with
        | false => exact .fault _ _
        | true =>
          rw [ends, Bool.true_and] at plain
          rw [(Bool.not_eq_true slashed).mp plain]
          exact filled_self place number last false ▸ .arrived (.vacant place last false)
      · rw [same]
        cases child? last entries with
        | none =>
          refine .ite ?_ fun _ => .fault _ _
          have arrived : Turn.Leads (filled directory name number) (.arrived (.vacant place last slashed)) _ :=
            .arrived _
          rwa [filled_of_ne elsewhere] at arrived
        | some next =>
          simp only
          cases seen : tree.aspect next with
          | directory =>
            obtain ⟨_, after, -⟩ := gains.of_directory seen
            rw [after]
            exact ih
          | link target =>
            rw [gains.aspect (by simp [seen]), seen]
            exact .ite (.arrived (.found next _)) fun _ => .detour place target rest
          | closed =>
            rw [gains.aspect (by simp [seen]), seen]
            exact .ite (.arrived (.found next _)) fun _ => .fault _ _

end Gains

/-- A file that is put under a free name is found there. -/
theorem lookup_plant {path : Path} {directory number mode : Nat} {name : Bytes} {slashed : Bool} {content : Content}
    (leads : tree.lookup ⟨true, true⟩ path = .ok (.vacant directory name slashed))
    (planted : tree.plant directory name (.file mode content) = .ok (number, later)) :
    later.lookup ⟨true, true⟩ path = .ok (.found number (some (directory, name))) ∧
      later.nodes[number]? = some (.file mode content) := by
  obtain ⟨⟨dirMode, parent, live, entries, there, free⟩, rfl⟩ := lookup_vacant leads
  have old := lt_of_there there
  have kept := getElem?_grow there (.file mode content)
  unfold plant at planted
  cases checked : tree.checkChange directory with
  | error => simp [checked, bind, Except.bind] at planted
  | ok =>
    simp only [checked, bind, Except.bind, pure, Except.pure, setEntry, kept, putEntry_of_free free] at planted
    obtain ⟨rfl, rfl⟩ := Prod.mk.inj (Except.ok.inj planted)
    have size : (tree.grow (.file mode content)).1 = tree.nodes.size := rfl
    generalize made : (tree.grow (.file mode content)).2.set directory
      (.directory dirMode parent live (entries ++ [(name, (tree.grow (.file mode content)).1)])) = later
    have file : later.nodes[tree.nodes.size]? = some (.file mode content) := by
      rw [← made, getElem?_set, if_neg (by omega)]
      simp [grow]
    have named : later.nodes[directory]? =
        some (.directory dirMode parent live (entries ++ [(name, tree.nodes.size)])) := by
      rw [← made, getElem?_set, if_pos rfl, if_pos (lt_of_there kept), size]
    have gains : tree.Gains directory name tree.nodes.size later := {
      cwd := made ▸ rfl
      free := ⟨dirMode, parent, entries, aspect_directory there, free, aspect_directory named⟩
      other := fun other elsewhere => by
        rw [← made, aspect, getElem?_set, if_neg (Ne.symm elsewhere)]
        exact aspect_grow other
      file := aspect_file file }
    have leads := lookup_leads gains.cwd gains.descend leads
    rw [filled_self] at leads
    exact ⟨leads, file⟩

/-- There is a file at a path that may be written, or one may be made there. -/
inductive Admits (tree : FileTree) (path : Path) : Prop
  | existing {number mode : Nat} {entry : Option (Nat × Bytes)} {content : Content}
      (leads : tree.lookup ⟨true, true⟩ path = .ok (.found number entry))
      (there : tree.nodes[number]? = some (.file mode content)) (writable : mayWrite mode = true)
  | missing {directory : Nat} {name : Bytes} {slashed : Bool}
      (leads : tree.lookup ⟨true, true⟩ path = .ok (.vacant directory name slashed))
      (changeable : tree.checkChange directory = .ok ())

/-- Such a path is opened as a file, and goes on leading to it. -/
theorem Admits.opened {path : Path} (admits : tree.Admits path) : ∃ number entry mode content opened,
    tree.openForWriting path ⟨true, false, true, newFileMode⟩ = .ok (.store number, opened) ∧
      opened.lookup ⟨true, true⟩ path = .ok (.found number entry) ∧
      opened.nodes[number]? = some (.file mode content) := by
  unfold openForWriting
  simp only [Bool.not_false, Bool.false_eq_true, if_false, if_true]
  cases admits with
  | @existing number mode entry content leads there writable =>
    refine ⟨number, entry, mode, .data [], tree.set number (.file mode (.data [])), ?_, ?_, ?_⟩
    · simp [leads, there, writable]
    · exact lookup_congr (aspect_set (aspect_file there)) rfl leads
    · rw [getElem?_set, if_pos rfl, if_pos (lt_of_there there)]
  | @missing directory name slashed leads changeable =>
    have planted : ∃ made, tree.plant directory name (.file newFileMode (.data [])) = .ok made := by
      simp [plant, changeable, bind, Except.bind, pure, Except.pure]
    obtain ⟨⟨number, later⟩, planted⟩ := planted
    obtain ⟨found, there⟩ := lookup_plant leads planted
    refine ⟨number, some (directory, name), newFileMode, .data [], later, ?_, found, there⟩
    simp [leads, planted, bind, Except.bind, pure, Except.pure]

/-- What is written to such a path is all that is there afterwards. -/
theorem Admits.write {path : Path} (admits : tree.Admits path) (content : Content) :
    ∃ later mode, tree.write path content = .ok later ∧ later.node path = .ok (.file mode content) := by
  obtain ⟨number, entry, mode, before, opened, opens, leads, there⟩ := admits.opened
  refine ⟨opened.set number (.file mode content), mode, ?_, ?_⟩
  · simp only [FileTree.write, opens, there]
  · have still : (opened.set number (.file mode content)).lookup ⟨true, true⟩ path = .ok (.found number entry) :=
      lookup_congr (aspect_set (aspect_file there)) rfl leads
    rw [node, locate_of_makes still, nodeAt, getElem?_set, if_pos rfl, if_pos (lt_of_there there), Option.elim_some]

/-- No other path is opened as a file. -/
theorem admits_iff {path : Path} : tree.Admits path ↔
    ∃ number opened, tree.openForWriting path ⟨true, false, true, newFileMode⟩ = .ok (.store number, opened) := by
  constructor
  · intro admits
    obtain ⟨number, _, _, _, opened, opens, -, -⟩ := admits.opened
    exact ⟨number, opened, opens⟩
  · rintro ⟨number, opened, opens⟩
    unfold openForWriting at opens
    simp only [Bool.not_false, Bool.false_eq_true, if_false, if_true] at opens
    split at opens
    · cases opens
    · next directory name slashed leads =>
      cases checked : tree.checkChange directory with
      | error => simp [plant, checked, bind, Except.bind] at opens
      | ok => exact .missing leads checked
    · next leads =>
      split at opens
      · next there =>
        split at opens
        · cases opens
        · next writable => exact .existing leads there (by simpa using writable)
      · cases opens
      · split at opens <;> cases opens
      · cases opens

end FileTree
end ExitParity
