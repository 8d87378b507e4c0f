import ExitParity.Proofs.Json.Lexical

namespace ExitParity.Json

/-- A tree whose text says all of it: strings and keys are whole, and numbers
are natural and fit into 64 bits. -/
inductive Printable : Json → Prop
  | null : Printable .null
  | bool (value : Bool) : Printable (.bool value)
  | count {value : Nat} (fits : value < 2 ^ 64) : Printable (.number (.natural value))
  | text (text : String) : Printable (.string (some text))
  | array {items : List Json} (all : ∀ item ∈ items, Printable item) : Printable (.array items)
  | object {members : List (Option String × Json)} (keys : ∀ member ∈ members, member.1.isSome = true)
      (all : ∀ member ∈ members, Printable member.2) : Printable (.object members)

/-- The printed text of a tree is read as the tree, wherever it stands. Every
array and object takes one of the fuel, and two characters at least. -/
def Reads (json : Json) : Prop :=
  ∀ {level fuel : Nat} {rest : List Char}, (json.pretty level).length ≤ fuel → Stops rest →
    value? fuel (json.pretty level ++ rest) = some (json, rest)

theorem value?_newline (fuel level : Nat) (text : List Char) : value? fuel (newline level ++ text) = value? fuel text := by
  cases fuel with
  | zero => rfl
  | succ fuel => rw [value?, value?, skipBlanks_newline]

theorem reads_null : Reads .null := by
  intro level fuel rest enough stops
  obtain ⟨fuel, rfl⟩ := Nat.exists_eq_add_one_of_ne_zero (Nat.ne_zero_of_lt enough)
  change value? (fuel + 1) ('n' :: ("ull".toList ++ rest)) = _
  rw [value?, skipBlanks_cons rfl]
  simp only [word?_append, Option.map_some]

theorem reads_bool (value : Bool) : Reads (.bool value) := by
  intro level fuel rest enough stops
  have positive : 0 < (boolText value).length := by cases value <;> decide
  obtain ⟨fuel, rfl⟩ := Nat.exists_eq_add_one_of_ne_zero (Nat.ne_zero_of_lt (Nat.lt_of_lt_of_le positive enough))
  cases value with
  | true =>
    change value? (fuel + 1) ('t' :: ("rue".toList ++ rest)) = _
    rw [value?, skipBlanks_cons rfl]
    simp only [word?_append, Option.map_some]
  | false =>
    change value? (fuel + 1) ('f' :: ("alse".toList ++ rest)) = _
    rw [value?, skipBlanks_cons rfl]
    simp only [word?_append, Option.map_some]

theorem reads_text (text : String) : Reads (.string (some text)) := by
  intro level fuel rest enough stops
  obtain ⟨fuel, rfl⟩ := Nat.exists_eq_add_one_of_ne_zero (Nat.ne_zero_of_lt enough)
  have written : pretty level (.string (some text)) ++ rest = '"' :: (text.toList.flatMap escapeChar ++ '"' :: rest) := by
    simp [pretty, quote]
  rw [written, value?, skipBlanks_cons rfl]
  simp only [string?_quote]
  rfl

theorem digit_solid {c : Char} (digit : c.isDigit = true) : isBlank c = false := by
  rw [← Bool.not_eq_true, isBlank]
  intro blank
  simp only [Bool.or_eq_true, beq_iff_eq] at blank
  rcases blank with ((rfl | rfl) | rfl) | rfl <;> cases digit

theorem value?_digit {c : Char} (digit : c.isDigit = true) (fuel : Nat) (rest : List Char) :
    value? (fuel + 1) (c :: rest) = (unsigned? false (c :: rest)).map fun (value, after) => (.number value, after) := by
  rw [value?, skipBlanks_cons (digit_solid digit)]
  split
  case h_8 =>
    cases unsigned? false (c :: rest) <;> rfl
  all_goals
    next same =>
    obtain ⟨rfl, -⟩ := List.cons.inj same
    cases digit

theorem reads_count {value : Nat} (fits : value < 2 ^ 64) : Reads (.number (.natural value)) := by
  intro level fuel rest enough stops
  have positive : 0 < fuel := Nat.lt_of_lt_of_le Nat.length_toDigits_pos enough
  obtain ⟨fuel, rfl⟩ := Nat.exists_eq_add_one_of_ne_zero (Nat.ne_zero_of_lt positive)
  have read := unsigned?_toDigits fits stops
  change value? (fuel + 1) (Nat.toDigits 10 value ++ rest) = _
  cases text : Nat.toDigits 10 value with
  | nil => exact absurd text Nat.toDigits_ne_nil
  | cons c more =>
    rw [text, List.cons_append] at read
    have digit : c.isDigit = true := Nat.isDigit_of_mem_toDigits (by decide) (by decide) (text ▸ List.mem_cons_self)
    rw [List.cons_append, value?_digit digit, read]
    rfl

/-- No printed value begins with a blank or a closing bracket. -/
theorem Printable.head {json : Json} (printable : Printable json) (level : Nat) :
    ∃ c rest, json.pretty level = c :: rest ∧ isBlank c = false ∧ c ≠ ']' := by
  cases printable with
  | null => exact ⟨'n', _, rfl, rfl, by decide⟩
  | bool value =>
    cases value with
    | true => exact ⟨'t', _, rfl, rfl, by decide⟩
    | false => exact ⟨'f', _, rfl, rfl, by decide⟩
  | @count value fits =>
    cases text : Nat.toDigits 10 value with
    | nil => exact absurd text Nat.toDigits_ne_nil
    | cons c rest =>
      have digit : c.isDigit = true := Nat.isDigit_of_mem_toDigits (by decide) (by decide) (text ▸ List.mem_cons_self)
      exact ⟨c, rest, by rw [pretty, numberText, text], digit_solid digit, by rintro rfl; cases digit⟩
  | text text => exact ⟨'"', _, rfl, rfl, by decide⟩
  | @array items all =>
    cases items with
    | nil => exact ⟨'[', _, rfl, rfl, by decide⟩
    | cons item items => exact ⟨'[', _, rfl, rfl, by decide⟩
  | @object members keys all =>
    cases members with
    | nil => exact ⟨'{', _, rfl, rfl, by decide⟩
    | cons member members => exact ⟨'{', _, rfl, rfl, by decide⟩

theorem stops_prettyItems (items : List Json) (level outer : Nat) (rest : List Char) :
    Stops (prettyItems level items ++ (newline outer ++ rest)) := by
  cases items with
  | nil => exact stops_newline outer rest
  | cons item items => exact stops_comma _

/-- Items behind the first one are read up to the bracket that closes the array. -/
theorem items?_pretty {items : List Json} (reads : ∀ item ∈ items, Reads item) {level fuel : Nat} (outer : Nat)
    (rest : List Char) (enough : (prettyItems level items).length < fuel) :
    items? fuel (prettyItems level items ++ (newline outer ++ ']' :: rest)) = some (items, rest) := by
  induction items generalizing fuel with
  | nil =>
    obtain ⟨fuel, rfl⟩ := Nat.exists_eq_add_one_of_ne_zero (Nat.ne_zero_of_lt enough)
    rw [prettyItems, List.nil_append, items?, skipBlanks_newline, skipBlanks_cons rfl]
    rfl
  | cons item items ih =>
    obtain ⟨fuel, rfl⟩ := Nat.exists_eq_add_one_of_ne_zero (Nat.ne_zero_of_lt enough)
    have sum : (newline level).length + (item.pretty level).length + (prettyItems level items).length < fuel := by
      simp only [prettyItems, List.length_cons, List.length_append] at enough
      omega
    have first := reads item List.mem_cons_self (by omega : (item.pretty level).length ≤ fuel)
      (stops_prettyItems items level outer (']' :: rest))
    have others := ih (fun other member => reads other (List.mem_cons_of_mem _ member))
      (by omega : (prettyItems level items).length < fuel)
    have written : prettyItems level (item :: items) ++ (newline outer ++ ']' :: rest) = ',' :: (newline level ++
        (item.pretty level ++ (prettyItems level items ++ (newline outer ++ ']' :: rest)))) := by
      simp [prettyItems]
    rw [written, items?, skipBlanks_cons rfl]
    simp only [value?_newline, first, others, Option.bind_eq_bind, Option.bind_some]

theorem reads_array {items : List Json} (printable : ∀ item ∈ items, Printable item)
    (reads : ∀ item ∈ items, Reads item) : Reads (.array items) := by
  intro level fuel rest enough stops
  cases items with
  | nil =>
    obtain ⟨fuel, rfl⟩ := Nat.exists_eq_add_one_of_ne_zero (Nat.ne_zero_of_lt enough)
    change value? (fuel + 1) ('[' :: ']' :: rest) = _
    rw [value?, skipBlanks_cons rfl]
    simp only [skipBlanks_cons (show isBlank ']' = false from rfl)]
  | cons item items =>
    obtain ⟨fuel, rfl⟩ := Nat.exists_eq_add_one_of_ne_zero (Nat.ne_zero_of_lt enough)
    have sum : (item.pretty (level + 1)).length + (prettyItems (level + 1) items).length < fuel := by
      simp only [pretty, List.length_cons, List.length_append] at enough
      omega
    have first := reads item List.mem_cons_self (by omega : (item.pretty (level + 1)).length ≤ fuel)
      (stops_prettyItems items (level + 1) level (']' :: rest))
    have others := items?_pretty (fun other member => reads other (List.mem_cons_of_mem _ member)) level rest
      (by omega : (prettyItems (level + 1) items).length < fuel)
    have written : pretty level (.array (item :: items)) ++ rest = '[' :: (newline (level + 1) ++
        (item.pretty (level + 1) ++ (prettyItems (level + 1) items ++ (newline level ++ ']' :: rest)))) := by
      simp [pretty]
    obtain ⟨c, more, begins, solid, other⟩ := (printable item List.mem_cons_self).head (level + 1)
    rw [written, value?, skipBlanks_cons rfl]
    simp only [value?_newline, skipBlanks_newline, first, others, Option.bind_eq_bind, Option.bind_some]
    rw [begins, List.cons_append, skipBlanks_cons solid]
    split
    · next same => exact absurd (List.cons.inj same).1 other
    · rfl

theorem member?_pretty (key : String) {value : Json} (reads : Reads value) {level fuel : Nat} (before : Nat)
    {rest : List Char} (enough : (value.pretty level).length < fuel) (stops : Stops rest) :
    member? fuel (newline before ++ (quote key ++ ':' :: ' ' :: (value.pretty level ++ rest))) =
      some ((some key, value), rest) := by
  obtain ⟨fuel, rfl⟩ := Nat.exists_eq_add_one_of_ne_zero (Nat.ne_zero_of_lt enough)
  have written : quote key ++ ':' :: ' ' :: (value.pretty level ++ rest) =
      '"' :: (key.toList.flatMap escapeChar ++ '"' :: ':' :: ' ' :: (value.pretty level ++ rest)) := by
    simp [quote]
  have spaced (text : List Char) : value? fuel (' ' :: text) = value? fuel text := by
    cases fuel with
    | zero => rfl
    | succ fuel => rfl
  rw [written, member?, skipBlanks_newline, skipBlanks_cons rfl]
  simp only [string?_quote, Option.bind_eq_bind, Option.bind_some, skipBlanks_cons (show isBlank ':' = false from rfl),
    spaced, reads (Nat.le_of_lt_succ enough) stops]

theorem stops_prettyMembers (members : List (Option String × Json)) (level outer : Nat) (rest : List Char) :
    Stops (prettyMembers level members ++ (newline outer ++ rest)) := by
  cases members with
  | nil => exact stops_newline outer rest
  | cons member members => exact stops_comma _

/-- Members behind the first one are read up to the brace that closes the object. -/
theorem members?_pretty {members : List (Option String × Json)} (keys : ∀ member ∈ members, member.1.isSome = true)
    (reads : ∀ member ∈ members, Reads member.2) {level fuel : Nat} (outer : Nat) (rest : List Char)
    (enough : (prettyMembers level members).length < fuel) :
    members? fuel (prettyMembers level members ++ (newline outer ++ '}' :: rest)) = some (members, rest) := by
  induction members generalizing fuel with
  | nil =>
    obtain ⟨fuel, rfl⟩ := Nat.exists_eq_add_one_of_ne_zero (Nat.ne_zero_of_lt enough)
    rw [prettyMembers, List.nil_append, members?, skipBlanks_newline, skipBlanks_cons rfl]
    rfl
  | cons member members ih =>
    obtain ⟨fuel, rfl⟩ := Nat.exists_eq_add_one_of_ne_zero (Nat.ne_zero_of_lt enough)
    obtain ⟨key, value⟩ := member
    obtain ⟨key, rfl⟩ := Option.isSome_iff_exists.mp (keys _ List.mem_cons_self)
    have sum : (value.pretty level).length + (prettyMembers level members).length < fuel := by
      simp only [prettyMembers, List.length_cons, List.length_append] at enough
      omega
    have first := member?_pretty key (reads _ List.mem_cons_self) level (by omega : (value.pretty level).length < fuel)
      (stops_prettyMembers members level outer ('}' :: rest))
    have others := ih (fun other member => keys other (List.mem_cons_of_mem _ member))
      (fun other member => reads other (List.mem_cons_of_mem _ member))
      (by omega : (prettyMembers level members).length < fuel)
    have written : prettyMembers level ((some key, value) :: members) ++ (newline outer ++ '}' :: rest) =
        ',' :: (newline level ++ (quote key ++ ':' :: ' ' :: (value.pretty level ++
          (prettyMembers level members ++ (newline outer ++ '}' :: rest))))) := by
      simp [prettyMembers]
    rw [written, members?, skipBlanks_cons rfl]
    simp only [first, others, Option.bind_eq_bind, Option.bind_some]

theorem reads_object {members : List (Option String × Json)} (keys : ∀ member ∈ members, member.1.isSome = true)
    (reads : ∀ member ∈ members, Reads member.2) : Reads (.object members) := by
  intro level fuel rest enough stops
  cases members with
  | nil =>
    obtain ⟨fuel, rfl⟩ := Nat.exists_eq_add_one_of_ne_zero (Nat.ne_zero_of_lt enough)
    change value? (fuel + 1) ('{' :: '}' :: rest) = _
    rw [value?, skipBlanks_cons rfl]
    simp only [skipBlanks_cons (show isBlank '}' = false from rfl)]
  | cons member members =>
    obtain ⟨fuel, rfl⟩ := Nat.exists_eq_add_one_of_ne_zero (Nat.ne_zero_of_lt enough)
    obtain ⟨key, value⟩ := member
    obtain ⟨key, rfl⟩ := Option.isSome_iff_exists.mp (keys _ List.mem_cons_self)
    have sum : (value.pretty (level + 1)).length + (prettyMembers (level + 1) members).length < fuel := by
      simp only [pretty, List.length_cons, List.length_append] at enough
      omega
    have first := member?_pretty key (reads _ List.mem_cons_self) (level + 1)
      (by omega : (value.pretty (level + 1)).length < fuel) (stops_prettyMembers members (level + 1) level ('}' :: rest))
    have others := members?_pretty (fun other member => keys other (List.mem_cons_of_mem _ member))
      (fun other member => reads other (List.mem_cons_of_mem _ member)) level rest
      (by omega : (prettyMembers (level + 1) members).length < fuel)
    have written : pretty level (.object ((some key, value) :: members)) ++ rest = '{' :: (newline (level + 1) ++
        (quote key ++ ':' :: ' ' :: (value.pretty (level + 1) ++
          (prettyMembers (level + 1) members ++ (newline level ++ '}' :: rest))))) := by
      simp [pretty]
    have quoted : skipBlanks (quote key ++ ':' :: ' ' :: (value.pretty (level + 1) ++
        (prettyMembers (level + 1) members ++ (newline level ++ '}' :: rest)))) =
        quote key ++ ':' :: ' ' :: (value.pretty (level + 1) ++
          (prettyMembers (level + 1) members ++ (newline level ++ '}' :: rest))) := rfl
    rw [written, value?, skipBlanks_cons rfl]
    simp only [skipBlanks_newline, quoted, first, others, Option.bind_eq_bind, Option.bind_some]
    rfl

/-- Every printable tree is read back from its text. -/
theorem Printable.reads {json : Json} (printable : Printable json) : Reads json := by
  induction printable with
  | null => exact reads_null
  | bool value => exact reads_bool value
  | count fits => exact reads_count fits
  | text text => exact reads_text text
  | array all ih => exact reads_array all ih
  | object keys all ih => exact reads_object keys ih

/-- A whole text that was printed holds the tree and nothing else. -/
theorem parse?_pretty {json : Json} (printable : Printable json) : parse? (String.ofList (json.pretty 0)) = some json := by
  have read : value? (2 * (json.pretty 0).length + 1) (json.pretty 0 ++ []) = some (json, []) :=
    printable.reads (by omega) stops_nil
  rw [List.append_nil] at read
  rw [parse?, String.toList_ofList]
  simp only [read]
  rfl

end ExitParity.Json
