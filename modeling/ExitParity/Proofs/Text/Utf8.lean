import ExitParity.Utf8

namespace ExitParity.Utf8

section Leads

variable {lead second : UInt8}

theorem continues_iff {byte : UInt8} : continues byte = true ↔ 0x80 ≤ byte.toNat ∧ byte.toNat ≤ 0xbf := by
  simp [continues, UInt8.le_iff_toNat_le]

theorem not_ascii (long : 0x80 ≤ lead.toNat) : ¬ lead < 0x80 := by
  simp only [UInt8.lt_iff_toNat_lt, UInt8.reduceToNat]
  omega

theorem leadsTwo_iff : leadsTwo lead = true ↔ 0xc2 ≤ lead.toNat ∧ lead.toNat ≤ 0xdf := by
  simp [leadsTwo, UInt8.le_iff_toNat_le]

theorem leadsThree_iff : leadsThree lead second = true ↔
    0xe0 ≤ lead.toNat ∧ lead.toNat ≤ 0xef ∧ 0x80 ≤ second.toNat ∧ second.toNat ≤ 0xbf ∧
      (lead.toNat = 0xe0 → 0xa0 ≤ second.toNat) ∧ (lead.toNat = 0xed → second.toNat ≤ 0x9f) := by
  simp only [leadsThree, Bool.or_eq_true, Bool.and_eq_true, beq_iff_eq, decide_eq_true_eq, continues_iff,
    UInt8.le_iff_toNat_le, ← UInt8.toNat_inj, UInt8.reduceToNat]
  omega

theorem leadsFour_iff : leadsFour lead second = true ↔
    0xf0 ≤ lead.toNat ∧ lead.toNat ≤ 0xf4 ∧ 0x80 ≤ second.toNat ∧ second.toNat ≤ 0xbf ∧
      (lead.toNat = 0xf0 → 0x90 ≤ second.toNat) ∧ (lead.toNat = 0xf4 → second.toNat ≤ 0x8f) := by
  simp only [leadsFour, Bool.or_eq_true, Bool.and_eq_true, beq_iff_eq, decide_eq_true_eq, continues_iff,
    UInt8.le_iff_toNat_le, ← UInt8.toNat_inj, UInt8.reduceToNat]
  omega

end Leads

theorem ofNat_toNat {n : Nat} (small : n < 256) : (UInt8.ofNat n).toNat = n := by
  rw [UInt8.toNat_ofNat', Nat.mod_eq_of_lt small]

theorem ofNat_eq (byte : UInt8) {n : Nat} (same : byte.toNat = n) : UInt8.ofNat n = byte := by
  rw [← same, UInt8.ofNat_toNat]

theorem toNat_ofNat_scalar {n : Nat} (scalar : n < 0xd800 ∨ 0xdfff < n ∧ n < 0x110000) :
    (Char.ofNat n).val.toNat = n := by
  have valid : n.isValidChar := scalar
  rw [Char.ofNat, dif_pos valid]
  rfl

/-- The bytes that make one character, and the character. -/
inductive Makes : Bytes → Char → Prop
  | one {lead : UInt8} (short : lead.toNat < 0x80) : Makes [lead] (Char.ofNat lead.toNat)
  | two {lead second : UInt8} (leads : leadsTwo lead = true) (follows : continues second = true) :
      Makes [lead, second] (Char.ofNat (lead.toNat % 32 * 64 + payload second))
  | three {lead second third : UInt8} (leads : leadsThree lead second = true) (follows : continues third = true) :
      Makes [lead, second, third]
        (Char.ofNat (lead.toNat % 16 * 4096 + payload second * 64 + payload third))
  | four {lead second third fourth : UInt8} (leads : leadsFour lead second = true)
      (thirdFollows : continues third = true) (fourthFollows : continues fourth = true) :
      Makes [lead, second, third, fourth]
        (Char.ofNat (lead.toNat % 8 * 262144 + payload second * 4096 + payload third * 64 + payload fourth))

namespace Makes

variable {bytes : Bytes} {char : Char}

/-- The bytes of a character are read as the character. -/
theorem units (makes : Makes bytes char) (rest : Bytes) : units (bytes ++ rest) = some char :: units rest := by
  cases makes with
  | @one lead short =>
    have ascii : lead < 0x80 := UInt8.lt_iff_toNat_lt.mpr short
    rw [List.singleton_append, Utf8.units.eq_def]
    exact if_pos ascii
  | @two lead second leads follows =>
    have bounds := leadsTwo_iff.mp leads
    have long := not_ascii (by omega : 0x80 ≤ lead.toNat)
    rw [List.cons_append, List.singleton_append, Utf8.units.eq_def]
    simp [long, leads, follows]
  | @three lead second third leads follows =>
    have bounds := leadsThree_iff.mp leads
    have long := not_ascii (by omega : 0x80 ≤ lead.toNat)
    have notTwo : leadsTwo lead = false := by
      rw [← Bool.not_eq_true, leadsTwo_iff]
      omega
    rw [List.cons_append, List.cons_append, List.singleton_append, Utf8.units.eq_def]
    simp [long, notTwo, leads, follows]
  | @four lead second third fourth leads thirdFollows fourthFollows =>
    have bounds := leadsFour_iff.mp leads
    have long := not_ascii (by omega : 0x80 ≤ lead.toNat)
    have notTwo : leadsTwo lead = false := by
      rw [← Bool.not_eq_true, leadsTwo_iff]
      omega
    have notThree : leadsThree lead second = false := by
      rw [← Bool.not_eq_true, leadsThree_iff]
      omega
    rw [List.cons_append, List.cons_append, List.cons_append, List.singleton_append, Utf8.units.eq_def]
    simp [long, notTwo, notThree, leads, thirdFollows, fourthFollows]

/-- A character has no other bytes than those that make it. -/
theorem encode (makes : Makes bytes char) : String.utf8EncodeChar char = bytes := by
  cases makes with
  | @one lead short =>
    rw [String.utf8EncodeChar, toNat_ofNat_scalar (by omega), if_pos (by omega), ofNat_eq lead rfl]
  | @two lead second leads follows =>
    rw [leadsTwo_iff] at leads
    rw [continues_iff] at follows
    rw [String.utf8EncodeChar, payload, toNat_ofNat_scalar (by omega), if_neg (by omega), if_pos (by omega),
      ofNat_eq lead (by omega), ofNat_eq second (by omega)]
  | @three lead second third leads follows =>
    rw [leadsThree_iff] at leads
    rw [continues_iff] at follows
    rw [String.utf8EncodeChar, payload, payload, toNat_ofNat_scalar (by omega), if_neg (by omega), if_neg (by omega),
      if_pos (by omega), ofNat_eq lead (by omega), ofNat_eq second (by omega), ofNat_eq third (by omega)]
  | @four lead second third fourth leads thirdFollows fourthFollows =>
    rw [leadsFour_iff] at leads
    rw [continues_iff] at thirdFollows fourthFollows
    rw [String.utf8EncodeChar, payload, payload, payload, toNat_ofNat_scalar (by omega), if_neg (by omega),
      if_neg (by omega), if_neg (by omega), ofNat_eq lead (by omega), ofNat_eq second (by omega),
      ofNat_eq third (by omega), ofNat_eq fourth (by omega)]

end Makes

/-- Every character has bytes: no surrogate is one, and none lies above U+10FFFF. -/
theorem exists_makes (char : Char) : ∃ bytes, Makes bytes char := by
  have scalar : char.toNat < 0xd800 ∨ 0xdfff < char.toNat ∧ char.toNat < 0x110000 := char.valid
  have back := Char.ofNat_toNat char
  generalize char.toNat = n at scalar back
  -- Every byte but the first holds six bits of the number.
  have tail (part : Nat) : (UInt8.ofNat (part % 0x40 + 0x80)).toNat = part % 0x40 + 0x80 := ofNat_toNat (by omega)
  have last : continues (UInt8.ofNat (n % 0x40 + 0x80)) = true := by
    rw [continues_iff, tail]
    omega
  have middle : continues (UInt8.ofNat (n / 64 % 0x40 + 0x80)) = true := by
    rw [continues_iff, tail]
    omega
  by_cases one : n < 0x80
  · have byte : (UInt8.ofNat n).toNat = n := ofNat_toNat (by omega)
    have made := Makes.one (byte.symm ▸ one : (UInt8.ofNat n).toNat < 0x80)
    rw [byte, back] at made
    exact ⟨_, made⟩
  by_cases two : n < 0x800
  · have first : (UInt8.ofNat (n / 64 + 0xc0)).toNat = n / 64 + 0xc0 := ofNat_toNat (by omega)
    have leads : leadsTwo (UInt8.ofNat (n / 64 + 0xc0)) = true := by
      rw [leadsTwo_iff, first]
      omega
    have made := Makes.two leads last
    have sum : (n / 64 + 0xc0) % 32 * 64 + (n % 0x40 + 0x80) % 64 = n := by omega
    rw [payload, first, tail, sum, back] at made
    exact ⟨_, made⟩
  by_cases three : n < 0x10000
  · have first : (UInt8.ofNat (n / 4096 + 0xe0)).toNat = n / 4096 + 0xe0 := ofNat_toNat (by omega)
    have leads : leadsThree (UInt8.ofNat (n / 4096 + 0xe0)) (UInt8.ofNat (n / 64 % 0x40 + 0x80)) = true := by
      rw [leadsThree_iff, first, tail]
      omega
    have made := Makes.three leads last
    have sum : (n / 4096 + 0xe0) % 16 * 4096 + (n / 64 % 0x40 + 0x80) % 64 * 64 + (n % 0x40 + 0x80) % 64 = n := by omega
    rw [payload, payload, first, tail, tail, sum, back] at made
    exact ⟨_, made⟩
  · have first : (UInt8.ofNat (n / 262144 + 0xf0)).toNat = n / 262144 + 0xf0 := ofNat_toNat (by omega)
    have leads : leadsFour (UInt8.ofNat (n / 262144 + 0xf0)) (UInt8.ofNat (n / 4096 % 0x40 + 0x80)) = true := by
      rw [leadsFour_iff, first, tail]
      omega
    have made := Makes.four leads middle last
    have sum : (n / 262144 + 0xf0) % 8 * 262144 + (n / 4096 % 0x40 + 0x80) % 64 * 4096 +
        (n / 64 % 0x40 + 0x80) % 64 * 64 + (n % 0x40 + 0x80) % 64 = n := by omega
    rw [payload, payload, payload, first, tail, tail, tail, sum, back] at made
    exact ⟨_, made⟩

theorem units_encode (char : Char) (rest : Bytes) :
    units (String.utf8EncodeChar char ++ rest) = some char :: units rest := by
  obtain ⟨bytes, makes⟩ := exists_makes char
  rw [makes.encode, makes.units]

/-- A well-formed byte string that is not empty begins with a character. -/
theorem exists_makes_of_valid {lead : UInt8} {rest : Bytes} (wellFormed : valid (lead :: rest) = true) :
    ∃ bytes char after, Makes bytes char ∧ lead :: rest = bytes ++ after ∧ valid after = true := by
  rw [valid, units.eq_def] at wellFormed
  dsimp only at wellFormed
  -- The branches that give up on a byte leave a part that is no character.
  split at wellFormed
  · next short =>
    exact ⟨_, _, rest, .one (UInt8.lt_iff_toNat_lt.mp short), rfl, by simpa [valid] using wellFormed⟩
  split at wellFormed
  · simp at wellFormed
  next second rest =>
  split at wellFormed
  · next two =>
    rw [Bool.and_eq_true] at two
    exact ⟨_, _, rest, .two two.1 two.2, rfl, by simpa [valid] using wellFormed⟩
  split at wellFormed
  · next three =>
    split at wellFormed
    · simp at wellFormed
    next third rest =>
    split at wellFormed
    · next follows => exact ⟨_, _, rest, .three three follows, rfl, by simpa [valid] using wellFormed⟩
    · simp at wellFormed
  split at wellFormed
  · next four =>
    split at wellFormed
    · simp at wellFormed
    next third rest =>
    split at wellFormed
    · next thirdFollows =>
      split at wellFormed
      · simp at wellFormed
      next fourth rest =>
      split at wellFormed
      · next fourthFollows =>
        exact ⟨_, _, rest, .four four thirdFollows fourthFollows, rfl, by simpa [valid] using wellFormed⟩
      · simp at wellFormed
    · simp at wellFormed
  · simp at wellFormed

/-- A well-formed byte string is made of the characters read from it. -/
theorem exists_chars_of_valid {bytes : Bytes} (wellFormed : valid bytes = true) :
    ∃ chars : List Char, bytes = chars.flatMap String.utf8EncodeChar := by
  induction measured : bytes.length using Nat.strongRecOn generalizing bytes with
  | ind size ih =>
    cases bytes with
    | nil => exact ⟨[], rfl⟩
    | cons lead rest =>
      obtain ⟨bytes, char, after, makes, split, later⟩ := exists_makes_of_valid wellFormed
      have shorter : after.length < size := by
        have positive : 0 < bytes.length := by cases makes <;> exact Nat.succ_pos _
        rw [← measured, split, List.length_append]
        omega
      obtain ⟨chars, rfl⟩ := ih _ shorter later rfl
      exact ⟨char :: chars, by rw [List.flatMap_cons, makes.encode, split]⟩

theorem units_chars (chars : List Char) : units (chars.flatMap String.utf8EncodeChar) = chars.map some := by
  induction chars with
  | nil => rfl
  | cons char chars ih => rw [List.flatMap_cons, units_encode, ih, List.map_cons]

/-- The bytes of a text are well formed, and they show the text. -/
theorem text?_utf8 (text : String) : text? (utf8 text) = some text := by
  have known : (text.toList.map some).all Option.isSome = true := by simp
  have shown : (text.toList.map some).map (·.getD replacement) = text.toList := by
    rw [List.map_map]
    exact List.map_id _
  rw [text?, valid, display, utf8, units_chars, if_pos known, shown, String.ofList_toList]

theorem valid_of_text? {bytes : Bytes} {text : String} (shown : text? bytes = some text) : valid bytes = true := by
  unfold text? at shown
  split at shown
  · assumption
  · cases shown

/-- A well-formed byte string is the bytes of the text that it shows. -/
theorem utf8_of_text? {bytes : Bytes} {text : String} (shown : text? bytes = some text) : utf8 text = bytes := by
  obtain ⟨chars, rfl⟩ := exists_chars_of_valid (valid_of_text? shown)
  have read := text?_utf8 (String.ofList chars)
  rw [utf8, String.toList_ofList, shown] at read
  rw [Option.some.inj read, utf8, String.toList_ofList]

theorem lossy_of_valid {bytes : Bytes} (wellFormed : valid bytes = true) : lossy bytes = bytes :=
  utf8_of_text? (if_pos wellFormed)

theorem valid_utf8 (text : String) : valid (utf8 text) = true := valid_of_text? (text?_utf8 text)

theorem Makes.valid_append {bytes : Bytes} {char : Char} (makes : Makes bytes char) (rest : Bytes) :
    valid (bytes ++ rest) = valid rest := by
  rw [valid, makes.units]
  rfl

theorem valid_append {front : Bytes} (wellFormed : valid front = true) (rest : Bytes) :
    valid (front ++ rest) = valid rest := by
  obtain ⟨chars, rfl⟩ := exists_chars_of_valid wellFormed
  clear wellFormed
  induction chars with
  | nil => rfl
  | cons char chars ih =>
    obtain ⟨bytes, makes⟩ := exists_makes char
    rw [List.flatMap_cons, makes.encode, List.append_assoc, makes.valid_append, ih]

/-- No byte of a character but its first one is an ASCII byte. -/
theorem Makes.not_ascii {lead byte : UInt8} {tail : Bytes} {char : Char} (makes : Makes (lead :: tail) char)
    (member : byte ∈ tail) : 0x80 ≤ byte.toNat := by
  cases makes with
  | one => cases member
  | two leads follows =>
    rw [List.mem_singleton.mp member]
    exact (continues_iff.mp follows).1
  | three leads follows =>
    rw [leadsThree_iff] at leads
    rw [continues_iff] at follows
    rcases List.mem_cons.mp member with rfl | third
    · omega
    · rw [List.mem_singleton.mp third]
      exact follows.1
  | four leads thirdFollows fourthFollows =>
    rw [leadsFour_iff] at leads
    rw [continues_iff] at thirdFollows fourthFollows
    rcases List.mem_cons.mp member with rfl | later
    · omega
    · rcases List.mem_cons.mp later with rfl | fourth
      · exact thirdFollows.1
      · rw [List.mem_singleton.mp fourth]
        exact fourthFollows.1

/-- What stands before ASCII bytes in a well-formed byte string is well formed. -/
theorem valid_of_append {front rest : Bytes} (ascii : ∀ byte ∈ rest, byte.toNat < 0x80)
    (wellFormed : valid (front ++ rest) = true) : valid front = true := by
  induction measured : front.length using Nat.strongRecOn generalizing front with
  | ind size ih =>
    cases front with
    | nil => rfl
    | cons lead front =>
      obtain ⟨bytes, char, after, makes, split, later⟩ := exists_makes_of_valid wellFormed
      cases bytes with
      | nil => cases makes
      | cons first tail =>
        obtain ⟨rfl, whole⟩ := List.cons.inj split
        clear split
        rw [List.append_eq, List.append_eq] at whole
        obtain ⟨spill, rfl, cut⟩ | ⟨more, rfl, rfl⟩ := List.append_eq_append_iff.mp whole
        · -- A character that goes on behind the front would end in an ASCII byte.
          cases spill with
          | nil =>
            have alone := makes.valid_append []
            rwa [List.append_nil, List.append_nil] at alone
          | cons byte rest =>
            have low := ascii byte (by simp [cut])
            have high := makes.not_ascii (List.mem_append_right front List.mem_cons_self)
            omega
        · have shorter : more.length < size := by
            simp only [List.length_cons, List.length_append] at measured
            omega
          rw [← List.cons_append, makes.valid_append]
          exact ih _ shorter later rfl

/-- An ASCII byte in the bytes of a text is that character of the text. -/
theorem mem_utf8_iff {byte : UInt8} (ascii : byte.toNat < 0x80) (text : String) :
    byte ∈ utf8 text ↔ Char.ofNat byte.toNat ∈ text.toList := by
  rw [utf8, List.mem_flatMap]
  constructor
  · rintro ⟨char, member, inside⟩
    obtain ⟨bytes, makes⟩ := exists_makes char
    rw [makes.encode] at inside
    cases makes with
    | one short =>
      rw [List.mem_singleton.mp inside]
      exact member
    | two leads follows =>
      rcases List.mem_cons.mp inside with rfl | later
      · rw [leadsTwo_iff] at leads
        omega
      · exact absurd ((Makes.two leads follows).not_ascii later) (by omega)
    | three leads follows =>
      rcases List.mem_cons.mp inside with rfl | later
      · rw [leadsThree_iff] at leads
        omega
      · exact absurd ((Makes.three leads follows).not_ascii later) (by omega)
    | four leads thirdFollows fourthFollows =>
      rcases List.mem_cons.mp inside with rfl | later
      · rw [leadsFour_iff] at leads
        omega
      · exact absurd ((Makes.four leads thirdFollows fourthFollows).not_ascii later) (by omega)
  · intro member
    refine ⟨_, member, ?_⟩
    rw [(Makes.one ascii).encode]
    exact List.mem_singleton_self byte

theorem utf8_inj {text other : String} (same : utf8 text = utf8 other) : text = other := by
  have read := congrArg text? same
  rw [text?_utf8, text?_utf8] at read
  exact Option.some.inj read

theorem lossy_eq_self_iff {bytes : Bytes} : lossy bytes = bytes ↔ valid bytes = true :=
  ⟨fun same => same ▸ valid_utf8 _, lossy_of_valid⟩

end ExitParity.Utf8
