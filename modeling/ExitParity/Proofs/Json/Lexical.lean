import ExitParity.Json.Printer
import ExitParity.Json.Reader

namespace ExitParity.Json

/-- What may stand behind a printed value: nothing, or what parts it from the
next one. None of it belongs to a number. -/
def Stops (rest : List Char) : Prop := ∀ c ∈ rest.head?, c = ',' ∨ c = '\n'

theorem stops_nil : Stops [] := nofun

theorem stops_comma (rest : List Char) : Stops (',' :: rest) := fun _ head => .inl (Option.some.inj head).symm

theorem stops_newline (level : Nat) (rest : List Char) : Stops (newline level ++ rest) := fun _ head =>
  .inr (Option.some.inj head).symm

theorem skipBlanks_newline (level : Nat) (text : List Char) : skipBlanks (newline level ++ text) = skipBlanks text := by
  have blank : ∀ c ∈ newline level, isBlank c = true := by
    intro c member
    rcases List.mem_cons.mp member with rfl | space
    · rfl
    · rw [List.eq_of_mem_replicate space]
      rfl
  exact List.dropWhile_append_of_pos blank

theorem skipBlanks_cons {c : Char} {rest : List Char} (solid : isBlank c = false) :
    skipBlanks (c :: rest) = c :: rest := by
  rw [skipBlanks, List.dropWhile_cons, solid]
  rfl

theorem word?_append (word : String) (rest : List Char) : word? word (word.toList ++ rest) = some rest := by
  have begins : word.toList.isPrefixOf (word.toList ++ rest) = true :=
    List.isPrefixOf_iff_prefix.mpr (List.prefix_append _ _)
  rw [word?, if_pos begins, ← String.length_toList, List.drop_left]

section Numbers

theorem digit?_digitChar {value : Nat} (small : value < 10) : digit? value.digitChar = some value := by
  have all : ∀ value < 10, digit? (Nat.digitChar value) = some value := by decide
  exact all value small

theorem Stops.digits {rest : List Char} (stops : Stops rest) : digits rest = ([], rest) := by
  cases rest with
  | nil => rfl
  | cons c rest =>
    rcases stops c rfl with rfl | rfl <;> rfl

/-- The decimal digits of a number, the first one first. -/
def decimal (value : Nat) : List Nat :=
  if value < 10 then [value] else decimal (value / 10) ++ [value % 10]

theorem digits_append {text : List Char} {values : List Nat} (read : ∀ rest, digits (text ++ rest) =
    (values ++ (digits rest).1, (digits rest).2)) {value : Nat} (small : value < 10) (rest : List Char) :
    digits (text ++ [value.digitChar] ++ rest) = (values ++ [value] ++ (digits rest).1, (digits rest).2) := by
  rw [List.append_assoc, read]
  simp [digits, digit?_digitChar small]

theorem digits_toDigits (value : Nat) (rest : List Char) :
    digits (Nat.toDigits 10 value ++ rest) = (decimal value ++ (digits rest).1, (digits rest).2) := by
  induction value using decimal.induct generalizing rest with
  | case1 value small =>
    rw [decimal, if_pos small, Nat.toDigits_of_lt_base small]
    simp [digits, digit?_digitChar small]
  | case2 value large ih =>
    rw [decimal, if_neg large, Nat.toDigits_of_base_le (by decide) (Nat.not_lt.mp large)]
    exact digits_append ih (Nat.mod_lt _ (by decide)) rest

theorem wholePart_append {values : List Nat} {before total : Nat} (whole : wholePart values before = (total, 0))
    (rest : List Nat) : wholePart (values ++ rest) before = wholePart rest total := by
  induction values generalizing before with
  | nil =>
    obtain rfl : before = total := congrArg Prod.fst whole
    rfl
  | cons value values ih =>
    rw [wholePart] at whole
    rw [List.cons_append, wholePart]
    cases longer : extend? before value with
    | none => simp [longer] at whole
    | some next =>
      rw [longer] at whole
      exact ih whole

theorem wholePart_decimal {value : Nat} (fits : value < 2 ^ 64) : wholePart (decimal value) 0 = (value, 0) := by
  have single {before digit : Nat} (fits : before * 10 + digit < 2 ^ 64) :
      wholePart [digit] before = (before * 10 + digit, 0) := by
    rw [wholePart, extend?, if_pos fits]
    rfl
  induction value using decimal.induct with
  | case1 value small =>
    rw [decimal, if_pos small, single (by omega)]
    simp
  | case2 value large ih =>
    rw [decimal, if_neg large, wholePart_append (ih (by omega)), single (by omega), Nat.div_add_mod']

/-- A number is not written with a zero in front of it. -/
theorem decimal_head (value : Nat) : ∃ first rest, decimal value = first :: rest ∧ (first = 0 → value = 0 ∧ rest = []) := by
  induction value using decimal.induct with
  | case1 value small =>
    rw [decimal, if_pos small]
    exact ⟨value, [], rfl, fun zero => ⟨zero, rfl⟩⟩
  | case2 value large ih =>
    obtain ⟨first, rest, split, alone⟩ := ih
    rw [decimal, if_neg large, split]
    refine ⟨first, rest ++ [value % 10], rfl, fun zero => ?_⟩
    have none_ := (alone zero).1
    omega

theorem unsigned?_toDigits {value : Nat} (fits : value < 2 ^ 64) {rest : List Char} (stops : Stops rest) :
    unsigned? false (Nat.toDigits 10 value ++ rest) = some (.natural value, rest) := by
  -- A zero in front of other digits would be refused.
  obtain ⟨first, others, split, alone⟩ := decimal_head value
  have whole := wholePart_decimal fits
  have plain : first = 0 → others = [] := fun zero => (alone zero).2
  have ends : rest = [] ∨ (∃ c after, rest = c :: after ∧ (c = ',' ∨ c = '\n')) := by
    cases rest with
    | nil => exact .inl rfl
    | cons c after => exact .inr ⟨c, after, rfl, stops c rfl⟩
  rw [unsigned?, digits_toDigits, stops.digits, List.append_nil, split]
  rw [split] at whole
  cases others with
  | nil => rcases ends with rfl | ⟨c, after, rfl, rfl | rfl⟩ <;> simp [whole]
  | cons second others =>
    have leading : first ≠ 0 := fun zero => List.cons_ne_nil _ _ (plain zero)
    obtain ⟨first, rfl⟩ := Nat.exists_eq_add_one_of_ne_zero leading
    rcases ends with rfl | ⟨c, after, rfl, rfl | rfl⟩ <;> simp [whole]

end Numbers

section Strings

/-- A part of a string that stands for one character by itself. -/
inductive Spells : Piece → Char → Prop
  | char (c : Char) : Spells (.char c) c
  | unit {c : Char} (control : c.toNat < 0x20) : Spells (.unit c.toNat) c

theorem hexValue?_hexDigit {value : Nat} (small : value < 16) : hexValue? (hexDigit value) = some value := by
  have all : ∀ value < 16, hexValue? (hexDigit value) = some value := by decide
  exact all value small

theorem pieces?_plain {c : Char} (solid : ¬ c.toNat < 0x20) (unquoted : c ≠ '"') (unescaped : c ≠ '\\')
    (rest : List Char) :
    pieces? (c :: rest) = (pieces? rest).map fun (pieces, after) => (.char c :: pieces, after) := by
  rw [pieces?.eq_5 c rest unquoted (fun _ _ _ _ _ same => absurd same unescaped) fun _ _ same => absurd same unescaped]
  cases pieces? rest <;> simp [solid, unescaped]

theorem pieces?_short {c escaped : Char} (short : shortEscape? c = some escaped) (rest : List Char) :
    pieces? ('\\' :: c :: rest) = (pieces? rest).map fun (pieces, after) => (.char escaped :: pieces, after) := by
  have other : c ≠ 'u' := by
    rintro rfl
    cases short
  rw [pieces?.eq_4 c rest fun _ _ _ _ _ same => absurd same other, short]
  cases pieces? rest <;> rfl

theorem pieces?_unit {value : Nat} (control : value < 0x20) (rest : List Char) :
    pieces? ('\\' :: 'u' :: '0' :: '0' :: hexDigit (value / 16) :: hexDigit (value % 16) :: rest) =
      (pieces? rest).map fun (pieces, after) => (.unit value :: pieces, after) := by
  have zero : hexValue? '0' = some 0 := rfl
  have unit : unit? '0' '0' (hexDigit (value / 16)) (hexDigit (value % 16)) = some value := by
    simp [unit?, zero, hexValue?_hexDigit (show value / 16 < 16 by omega), hexValue?_hexDigit (Nat.mod_lt value (by decide))]
    omega
  rw [pieces?, unit]
  cases pieces? rest <;> rfl

/-- An escaped character is read as one part that stands for it. -/
theorem exists_piece (c : Char) : ∃ piece, Spells piece c ∧ ∀ rest, pieces? (escapeChar c ++ rest) =
    (pieces? rest).map fun (pieces, after) => (piece :: pieces, after) := by
  unfold escapeChar
  split
  · subst c
    exact ⟨_, .char _, pieces?_short rfl⟩
  split
  · subst c
    exact ⟨_, .char _, pieces?_short rfl⟩
  split
  · subst c
    exact ⟨_, .char _, pieces?_short rfl⟩
  split
  · subst c
    exact ⟨_, .char _, pieces?_short rfl⟩
  split
  · subst c
    exact ⟨_, .char _, pieces?_short rfl⟩
  split
  · subst c
    exact ⟨_, .char _, pieces?_short rfl⟩
  split
  · subst c
    exact ⟨_, .char _, pieces?_short rfl⟩
  split
  · next control => exact ⟨_, .unit control, pieces?_unit control⟩
  · next unquoted unescaped _ _ _ _ _ solid => exact ⟨_, .char c, pieces?_plain solid unquoted unescaped⟩

theorem assemble?_cons {piece : Piece} {c : Char} (spells : Spells piece c) (pieces : List Piece) :
    assemble? (piece :: pieces) = (assemble? pieces).map (c :: ·) := by
  cases spells with
  | char => rfl
  | unit control =>
    have high : isHighHalf c.toNat = false := by
      simp only [isHighHalf, Bool.and_eq_false_iff, decide_eq_false_iff_not]
      omega
    have low : isLowHalf c.toNat = false := by
      simp only [isLowHalf, Bool.and_eq_false_iff, decide_eq_false_iff_not]
      omega
    cases pieces with
    | nil => simp [assemble?, high, low]
    | cons next rest => cases next <;> simp [assemble?, high, low]

theorem exists_pieces (chars rest : List Char) : ∃ pieces,
    pieces? (chars.flatMap escapeChar ++ '"' :: rest) = some (pieces, rest) ∧ assemble? pieces = some chars := by
  induction chars with
  | nil => exact ⟨[], rfl, rfl⟩
  | cons c chars ih =>
    obtain ⟨pieces, read, assembled⟩ := ih
    obtain ⟨piece, spells, first⟩ := exists_piece c
    refine ⟨piece :: pieces, ?_, ?_⟩
    · rw [List.flatMap_cons, List.append_assoc, first, read]
      rfl
    · rw [assemble?_cons spells, assembled]
      rfl

/-- A quoted text is read back, whatever its characters are. -/
theorem string?_quote (text : String) (rest : List Char) :
    string? (text.toList.flatMap escapeChar ++ '"' :: rest) = some (some text, rest) := by
  obtain ⟨pieces, read, assembled⟩ := exists_pieces text.toList rest
  rw [string?, read]
  simp [assembled]

end Strings

end ExitParity.Json
