import ExitParity.Path

namespace ExitParity

namespace Bytes

variable {separator : UInt8}

theorem split_of_not_mem {bytes : Bytes} (free : separator ∉ bytes) : split separator bytes = [bytes] := by
  induction bytes with
  | nil => rfl
  | cons byte rest ih =>
    obtain ⟨other, later⟩ := List.ne_and_not_mem_of_not_mem_cons free
    rw [split, if_neg (Ne.symm other), ih later]

/-- At a separator the parts of a byte string come apart. -/
theorem split_cut (front rest : Bytes) :
    split separator (front ++ separator :: rest) = split separator front ++ split separator rest := by
  induction front with
  | nil => simp [split]
  | cons byte front ih =>
    rw [List.cons_append, split, split, ih]
    by_cases same : byte = separator
    · rw [if_pos same, if_pos same, List.cons_append]
    · rw [if_neg same, if_neg same]
      cases parts : split separator front with
      | nil => exact absurd parts (split_ne_nil separator front)
      | cons => rfl

theorem split_append {part : Bytes} (free : separator ∉ part) (rest : Bytes) :
    split separator (part ++ separator :: rest) = part :: split separator rest := by
  rw [split_cut, split_of_not_mem free, List.singleton_append]

theorem joinWith_cons {separator part : Bytes} {parts : List Bytes} (more : parts ≠ []) :
    joinWith separator (part :: parts) = part ++ separator ++ joinWith separator parts := by
  cases parts with
  | nil => exact absurd rfl more
  | cons => rfl

theorem joinWith_concat {separator : Bytes} {parts : List Bytes} (more : parts ≠ []) (last : Bytes) :
    joinWith separator (parts ++ [last]) = joinWith separator parts ++ separator ++ last := by
  induction parts with
  | nil => exact absurd rfl more
  | cons part parts ih =>
    by_cases single : parts = []
    · subst single
      rfl
    · rw [List.cons_append, joinWith_cons (by simp), ih single, joinWith_cons single]
      simp only [List.append_assoc]

/-- Parts that hold no separator come back from what joins them. -/
theorem split_joinWith {parts : List Bytes} (some_ : parts ≠ []) (free : ∀ part ∈ parts, separator ∉ part) :
    split separator (joinWith [separator] parts) = parts := by
  induction parts with
  | nil => exact absurd rfl some_
  | cons part parts ih =>
    have here : separator ∉ part := free part List.mem_cons_self
    by_cases more : parts = []
    · subst more
      exact split_of_not_mem here
    · rw [joinWith_cons more, List.append_assoc, List.singleton_append, split_append here,
        ih more fun other member => free other (List.mem_cons_of_mem _ member)]

theorem not_mem_of_mem_split {bytes part : Bytes} (member : part ∈ split separator bytes) : separator ∉ part := by
  induction bytes generalizing part with
  | nil => simp_all [split]
  | cons byte rest ih =>
    rw [split] at member
    split at member
    · rcases List.mem_cons.mp member with rfl | later
      · exact List.not_mem_nil
      · exact ih later
    · next other =>
      split at member
      · simp_all [Ne.symm other]
      · next first parts cut =>
        rcases List.mem_cons.mp member with rfl | later
        · have first_free : separator ∉ first := ih (cut ▸ List.mem_cons_self)
          simp [Ne.symm other, first_free]
        · exact ih (cut ▸ List.mem_cons_of_mem _ later)

end Bytes

namespace Path

/-- The path that is written as these segments. -/
def ofSegments (segments : List Bytes) : Path := ⟨Bytes.joinWith [slash] segments⟩

/-- How a path begins: at the root, at the directory that one is in, or with
neither of the two. -/
inductive Begins : List Bytes → List Bytes → Prop
  | root {body : List Bytes} (more : body ≠ []) : Begins [[]] body
  | here (body : List Bytes) : Begins [dot] body
  | free {first : Bytes} {rest : List Bytes} (step : first ≠ dot) (alone : first = [] → rest = []) :
      Begins [] (first :: rest)

/-- The steps that the beginning of a path stands for. -/
def mark : List Bytes → List Component
  | [] => []
  | first :: _ => [if first.isEmpty then .root else .here]

variable {path : Path} {anchor body : List Bytes}

theorem isAbsolute_ofSegments {first : Bytes} {rest : List Bytes} (plain : slash ∉ first) :
    (ofSegments (first :: rest)).isAbsolute = (first.isEmpty && !rest.isEmpty) := by
  cases first with
  | nil => cases rest <;> rfl
  | cons byte first =>
    have other : byte ≠ slash := fun same => plain (same ▸ List.mem_cons_self)
    have head : (ofSegments ((byte :: first) :: rest)).bytes.head? = some byte := by cases rest <;> rfl
    simp [isAbsolute, head, other]

theorem isAbsolute_of_not_mem {name : Bytes} (plain : slash ∉ name) : (⟨name⟩ : Path).isAbsolute = false :=
  (isAbsolute_ofSegments plain : (ofSegments [name]).isAbsolute = _).trans (by simp)

theorem anchored_ofSegments {first : Bytes} {rest : List Bytes} (plain : ∀ segment ∈ first :: rest, slash ∉ segment) :
    (ofSegments (first :: rest)).anchored =
      if (first.isEmpty && !rest.isEmpty) || first == dot then ([first], rest) else ([], first :: rest) := by
  have cut : Bytes.split slash (ofSegments (first :: rest)).bytes = first :: rest :=
    Bytes.split_joinWith (by simp) plain
  rw [anchored, cut]
  simp only [isAbsolute_ofSegments (plain first List.mem_cons_self)]

theorem Begins.anchored (begins : Begins anchor body) (plain : ∀ segment ∈ anchor ++ body, slash ∉ segment) :
    (ofSegments (anchor ++ body)).anchored = (anchor, body) := by
  cases begins with
  | root more =>
    rw [List.singleton_append] at plain ⊢
    rw [anchored_ofSegments plain, if_pos (by simp [more])]
  | here body =>
    rw [List.singleton_append] at plain ⊢
    rw [anchored_ofSegments plain, if_pos (by simp)]
  | free step alone =>
    rw [List.nil_append] at plain ⊢
    rw [anchored_ofSegments plain, if_neg (by simpa using ⟨alone, step⟩)]

theorem Begins.components (begins : Begins anchor body) (plain : ∀ segment ∈ anchor ++ body, slash ∉ segment) :
    (ofSegments (anchor ++ body)).components = mark anchor ++ body.filterMap step? := by
  rw [Path.components, begins.anchored plain]
  cases anchor <;> rfl

/-- Every path is written as segments that hold no separator. -/
theorem exists_begins (path : Path) : ∃ anchor body, Begins anchor body ∧
    (∀ segment ∈ anchor ++ body, slash ∉ segment) ∧ path = ofSegments (anchor ++ body) := by
  have plain : ∀ segment ∈ Bytes.split slash path.bytes, slash ∉ segment := fun _ => Bytes.not_mem_of_mem_split
  have joined : path = ofSegments (Bytes.split slash path.bytes) := by
    rw [ofSegments, Bytes.joinWith_split]
  cases cut : Bytes.split slash path.bytes with
  | nil => exact absurd cut (Bytes.split_ne_nil slash path.bytes)
  | cons first rest =>
    rw [cut] at plain joined
    by_cases here : first = dot
    · exact ⟨[dot], rest, .here rest, here ▸ plain, here ▸ joined⟩
    by_cases root : first = [] ∧ rest ≠ []
    · obtain ⟨rfl, more⟩ := root
      exact ⟨[[]], rest, .root more, plain, joined⟩
    · have alone : first = [] → rest = [] := fun empty => Classical.byContradiction fun more => root ⟨empty, more⟩
      exact ⟨[], first :: rest, .free here alone, plain, joined⟩

theorem step?_eq_name {segment name : Bytes} (step : step? segment = some (.name name)) :
    segment = name ∧ idle segment = false := by
  unfold step? at step
  split at step
  · cases step
  · next busy =>
    split at step
    · cases step
    · exact ⟨Component.name.inj (Option.some.inj step), by simpa using busy⟩

theorem idle_of_step?_eq_none {segment : Bytes} (none_ : step? segment = none) : idle segment = true := by
  unfold step? at none_
  split at none_
  · assumption
  · split at none_ <;> cases none_

theorem trimEnd_append_idle {segments tail : List Bytes} (idles : ∀ segment ∈ tail, idle segment = true) :
    trimEnd (segments ++ tail) = trimEnd segments := by
  have passed : ∀ segment ∈ tail.reverse, idle segment = true := fun _ member => idles _ (List.mem_reverse.mp member)
  rw [trimEnd, List.reverse_append, List.dropWhile_append_of_pos passed, trimEnd]

theorem trimEnd_concat {segments : List Bytes} {last : Bytes} (busy : idle last = false) :
    trimEnd (segments ++ [last]) = segments ++ [last] := by
  simp [trimEnd, busy]

/-- What is left of the segments ends in a step, and what is gone held none. -/
theorem exists_trimEnd (segments : List Bytes) : ∃ tail, segments = trimEnd segments ++ tail ∧
    (∀ segment ∈ tail, idle segment = true) ∧ (trimEnd segments).getLast? ≠ some [] := by
  refine ⟨(segments.reverse.takeWhile idle).reverse, ?_, ?_, ?_⟩
  · rw [trimEnd, ← List.reverse_append, List.takeWhile_append_dropWhile, List.reverse_reverse]
  · intro segment member
    exact List.all_eq_true.mp List.all_takeWhile segment (List.mem_reverse.mp member)
  · intro last
    rw [trimEnd, List.getLast?_reverse] at last
    have busy := List.head?_dropWhile_not idle segments.reverse
    rw [last] at busy
    cases busy

theorem exists_front {segments : List Bytes} {last : Bytes} (ends : segments.getLast? = some last) :
    ∃ front, (ofSegments segments).bytes = front ++ last := by
  obtain ⟨before, rfl⟩ := List.getLast?_eq_some_iff.mp ends
  by_cases single : before = []
  · exact ⟨[], by rw [single]; rfl⟩
  · exact ⟨_, Bytes.joinWith_concat single last⟩

/-- A name put below a path whose last segment is not empty becomes its last segment. -/
theorem join_ofSegments {segments : List Bytes} {name : Bytes} (plain : ∀ segment ∈ segments, slash ∉ segment)
    (free : slash ∉ name) (ends : segments.getLast? ≠ some []) :
    (ofSegments segments).join ⟨name⟩ = ofSegments (segments ++ [name]) := by
  rw [join, isAbsolute_of_not_mem free, if_neg Bool.false_ne_true]
  cases last : segments.getLast? with
  | none =>
    rw [List.getLast?_eq_none_iff.mp last]
    rfl
  | some segment =>
    obtain ⟨front, written⟩ := exists_front last
    have step : segment ≠ [] := fun empty => ends (empty ▸ last)
    have final := List.getLast?_eq_some_getLast step
    generalize segment.getLast step = byte at final
    have other : ¬ (byte == slash) = true := by
      rw [beq_iff_eq]
      rintro rfl
      exact plain segment (List.mem_of_getLast? last) (List.mem_of_getLast? final)
    have some_ : segments ≠ [] := by
      rintro rfl
      cases last
    rw [written, List.getLast?_append, final, Option.some_or]
    simp only [if_neg other, ← written]
    rw [ofSegments, ofSegments, Bytes.joinWith_concat some_, List.append_assoc]
    rfl

theorem filterMap_step?_of_idle {segments : List Bytes} (idles : ∀ segment ∈ segments, idle segment = true) :
    segments.filterMap step? = [] :=
  List.filterMap_eq_nil_iff.mpr fun segment member => by rw [step?, if_pos (idles segment member)]

theorem filterMap_trimEnd (segments : List Bytes) : (trimEnd segments).filterMap step? = segments.filterMap step? := by
  obtain ⟨tail, whole, idles, -⟩ := exists_trimEnd segments
  have steps := congrArg (List.filterMap step?) whole
  rw [List.filterMap_append, filterMap_step?_of_idle idles, List.append_nil] at steps
  exact steps.symm

theorem Begins.getLast?_ne (begins : Begins anchor body) (inner : anchor ≠ [[]]) : anchor.getLast? ≠ some [] := by
  cases begins with
  | root => exact absurd rfl inner
  | here => decide
  | free => decide

/-- A path whose last step is a name, taken apart at the segment with that
name. No segment after it is a step. -/
structure Named (path : Path) (name : Bytes) (anchor before after : List Bytes) : Prop where
  begins : Begins anchor (before ++ name :: after)
  plain : ∀ segment ∈ anchor ++ (before ++ name :: after), slash ∉ segment
  written : path = ofSegments (anchor ++ (before ++ name :: after))
  step : step? name = some (.name name)
  idles : ∀ segment ∈ after, idle segment = true

theorem exists_named {name : Bytes} (last : path.fileName? = some name) :
    ∃ anchor before after, Named path name anchor before after := by
  obtain ⟨anchor, body, begins, plain, rfl⟩ := exists_begins path
  unfold fileName? at last
  rw [begins.components plain] at last
  split at last
  · next found =>
    cases last
    cases steps : (body.filterMap step?).reverse with
    | nil =>
      -- The last step is then the one that the path begins with, and that is no name.
      rw [List.reverse_eq_nil_iff] at steps
      cases begins <;> simp [steps, mark, dot] at found
    | cons final initial =>
      rw [List.reverse_eq_cons_iff] at steps
      have named : final = .name name := by simpa [steps] using found
      obtain ⟨before, later, rfl, -, here⟩ := List.filterMap_eq_append_iff.mp steps
      -- Idle segments before the name go with what leads to it, those after it are left over.
      obtain ⟨idle_before, segment, after, rfl, skipped, step, nothing⟩ := List.filterMap_eq_cons_iff.mp here
      obtain ⟨rfl, -⟩ := step?_eq_name (named ▸ step)
      refine ⟨anchor, before ++ idle_before, after, ?_, ?_, ?_, named ▸ step, ?_⟩
      · simpa only [List.append_assoc] using begins
      · simpa only [List.append_assoc] using plain
      · simp only [List.append_assoc]
      · intro segment member
        exact idle_of_step?_eq_none (List.filterMap_eq_nil_iff.mp nothing segment member)
  · cases last

namespace Named

variable {name new : Bytes} {before after : List Bytes}

theorem components (named : Named path name anchor before after) :
    path.components = mark anchor ++ before.filterMap step? ++ [.name name] := by
  rw [named.written, named.begins.components named.plain, List.filterMap_append, List.filterMap_cons, named.step,
    filterMap_step?_of_idle named.idles, List.append_assoc]

theorem fileName? (named : Named path name anchor before after) : path.fileName? = some name := by
  rw [Path.fileName?, named.components]
  simp

theorem trimmed (named : Named path name anchor before after) :
    trimEnd (trimEnd (before ++ name :: after)).dropLast = trimEnd before := by
  have busy := (step?_eq_name named.step).2
  have shorter : before ++ name :: after = before ++ [name] ++ after := by simp
  rw [shorter, trimEnd_append_idle named.idles, trimEnd_concat busy, List.dropLast_concat]

theorem parent (named : Named path name anchor before after) :
    path.parent = if anchor ++ trimEnd before == [[]] then ⟨[slash]⟩ else ofSegments (anchor ++ trimEnd before) := by
  rw [named.written, Path.parent, named.begins.anchored named.plain]
  simp only [named.trimmed]
  rfl

theorem plain_kept (named : Named path name anchor before after) :
    ∀ segment ∈ anchor ++ trimEnd before, slash ∉ segment := by
  obtain ⟨tail, whole, -, -⟩ := exists_trimEnd before
  intro segment member
  apply named.plain segment
  rw [whole, List.append_assoc, ← List.append_assoc]
  exact List.mem_append_left _ member

/-- A sibling is written with the segments that lead to the path. -/
theorem withFileName (named : Named path name anchor before after) (free : slash ∉ new) :
    path.withFileName new = ofSegments (anchor ++ trimEnd before ++ [new]) := by
  rw [Path.withFileName, named.fileName?]
  dsimp only
  rw [named.parent]
  by_cases root : anchor ++ trimEnd before = [[]]
  · -- The root is written as the separator that elsewhere only stands before the name.
    rw [root, if_pos (by decide), join, isAbsolute_of_not_mem free]
    rfl
  · have ends : (anchor ++ trimEnd before).getLast? ≠ some [] := by
      obtain ⟨_, _, _, ends⟩ := exists_trimEnd before
      rw [List.getLast?_append]
      cases last : (trimEnd before).getLast? with
      | some segment => rwa [Option.some_or, ← last]
      | none =>
        rw [List.getLast?_eq_none_iff.mp last, List.append_nil] at root
        exact named.begins.getLast?_ne root
    rw [if_neg (by simpa using root), join_ofSegments named.plain_kept free ends]

end Named

theorem Begins.shorten {kept dropped : List Bytes} {new : Bytes} (begins : Begins anchor (kept ++ dropped))
    (some_ : dropped ≠ []) (fresh : new ≠ dot) : Begins anchor (kept ++ [new]) := by
  generalize whole : kept ++ dropped = body at begins
  cases begins with
  | root => exact .root (by simp)
  | here => exact .here _
  | @free first rest step alone =>
    cases kept with
    | nil => exact .free fresh fun _ => rfl
    | cons head kept =>
      obtain ⟨rfl, rfl⟩ := List.cons.inj whole
      exact .free step fun empty => absurd (List.append_eq_nil_iff.mp (alone empty)).2 some_

/-- A sibling ends in its name with nothing behind it. -/
theorem Named.sibling {name new : Bytes} {before after : List Bytes} (named : Named path name anchor before after)
    (step : step? new = some (.name new)) (free : slash ∉ new) :
    Named (path.withFileName new) new anchor (trimEnd before) [] where
  begins := by
    obtain ⟨tail, whole, -, -⟩ := exists_trimEnd before
    have fresh : new ≠ dot := by
      rintro rfl
      cases step
    have cut := named.begins
    rw [whole, List.append_assoc] at cut
    exact cut.shorten (by simp) fresh
  plain := by
    intro segment member
    rw [← List.append_assoc] at member
    rcases List.mem_append.mp member with kept | fresh
    · exact named.plain_kept segment kept
    · exact List.mem_singleton.mp fresh ▸ free
  written := by rw [named.withFileName free, List.append_assoc]
  step := step
  idles := List.forall_mem_nil _

theorem trimEnd_trimEnd (segments : List Bytes) : trimEnd (trimEnd segments) = trimEnd segments := by
  obtain ⟨tail, whole, idles, -⟩ := exists_trimEnd segments
  have again : trimEnd (trimEnd segments ++ tail) = trimEnd (trimEnd segments) := trimEnd_append_idle idles
  rw [← whole] at again
  exact again.symm

section

variable {name new : Bytes} (last : path.fileName? = some name) (step : step? new = some (.name new))
  (free : slash ∉ new)

include last step free

theorem fileName?_withFileName : (path.withFileName new).fileName? = some new := by
  obtain ⟨anchor, before, after, named⟩ := exists_named last
  exact (named.sibling step free).fileName?

/-- Siblings are written below the same parent. -/
theorem parent_withFileName : (path.withFileName new).parent = path.parent := by
  obtain ⟨anchor, before, after, named⟩ := exists_named last
  rw [(named.sibling step free).parent, named.parent, trimEnd_trimEnd]

/-- A path and its sibling of another name differ in their last step alone. -/
theorem components_withFileName : (path.withFileName new).components = path.components.dropLast ++ [.name new] := by
  obtain ⟨anchor, before, after, named⟩ := exists_named last
  rw [(named.sibling step free).components, named.components, List.dropLast_concat, filterMap_trimEnd]

end

end Path
end ExitParity
