namespace ExitParity

-- Powers of numbers are the core library's, whatever else is imported.
attribute [instance (20000), default_instance (20000)] instPowNat

/-- A byte string: a name, an argument, a variable's value or the content
of a file, with no promise about its encoding. -/
abbrev Bytes := List UInt8

/-- The UTF-8 bytes of a text. -/
def utf8 (text : String) : Bytes :=
  text.toList.flatMap String.utf8EncodeChar

namespace Bytes

/-- Cut at every occurrence of `separator`. The result has one part more
than there are separators, so even the empty string has one part. -/
def split (separator : UInt8) : Bytes → List Bytes
  | [] => [[]]
  | byte :: rest =>
    if byte = separator then [] :: split separator rest
    else match split separator rest with
      | [] => [[byte]]
      | part :: parts => (byte :: part) :: parts

/-- Put `separator` between neighbouring parts. -/
def joinWith (separator : Bytes) : List Bytes → Bytes
  | [] => []
  | [part] => part
  | part :: parts => part ++ separator ++ joinWith separator parts

/-- Remove `suffix` from the end, or fail when the string does not end in it. -/
def stripSuffix? (suffix bytes : Bytes) : Option Bytes :=
  if suffix.isSuffixOf bytes then some (bytes.take (bytes.length - suffix.length)) else none

/-- Remove `start` from the beginning, or fail when the string does not begin with it. -/
def stripPrefix? (start bytes : Bytes) : Option Bytes :=
  if start.isPrefixOf bytes then some (bytes.drop start.length) else none

/-- Whether `part` occurs anywhere in the string. -/
def contains (part : Bytes) : Bytes → Bool
  | [] => part.isEmpty
  | byte :: rest => part.isPrefixOf (byte :: rest) || contains part rest

/-- Byte-wise dictionary order, a proper prefix first. -/
def precedes : Bytes → Bytes → Bool
  | [], _ => true
  | _ :: _, [] => false
  | x :: xs, y :: ys => x < y || (x == y && precedes xs ys)

theorem split_ne_nil (separator : UInt8) (bytes : Bytes) : split separator bytes ≠ [] := by
  cases bytes with
  | nil => simp [split]
  | cons byte rest =>
    simp only [split]
    split
    · simp
    · split <;> simp

theorem joinWith_split (separator : UInt8) (bytes : Bytes) :
    joinWith [separator] (split separator bytes) = bytes := by
  induction bytes with
  | nil => rfl
  | cons byte rest ih =>
    simp only [split]
    cases parts : split separator rest with
    | nil => exact absurd parts (split_ne_nil separator rest)
    | cons part others =>
      rw [parts] at ih
      by_cases same : byte = separator
      · simp [same, joinWith, ih]
      · cases others with
        | nil => simpa [same, joinWith] using ih
        | cons other more => simpa [same, joinWith] using ih

theorem stripSuffix?_append (bytes suffix : Bytes) : stripSuffix? suffix (bytes ++ suffix) = some bytes := by
  simp [stripSuffix?]

theorem eq_append_of_stripSuffix? {suffix bytes stem : Bytes} (found : stripSuffix? suffix bytes = some stem) :
    bytes = stem ++ suffix := by
  unfold stripSuffix? at found
  split at found
  · next ends =>
    obtain ⟨before, rfl⟩ := List.isSuffixOf_iff_suffix.mp ends
    simp at found
    rw [found]
  · cases found

end Bytes
end ExitParity
