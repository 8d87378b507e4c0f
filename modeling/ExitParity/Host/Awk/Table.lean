import ExitParity.Host.Awk.Value
import Std.Data.HashMap

/-! Arrays. The order in which a loop meets their elements is that of a table
with lists for the elements whose names share a remainder: what was looked for
last is first in its list. Names that are whole numbers are kept apart until
one is looked for as a text. -/

namespace ExitParity.Awk

/-- What an element is looked for by. -/
inductive Key where
  | whole (number : Int)
  | text (bytes : Bytes)

def Key.bytes : Key → Bytes
  | .whole number => utf8 (toString number)
  | .text bytes => bytes

structure Table where
  values : Std.HashMap Bytes Value
  /-- The names by the remainders of their digests, and whether they are kept. -/
  texts : Array (List Bytes)
  hasTexts : Bool
  /-- The names that were looked for as numbers, by their remainders. -/
  wholes : Array (List Int)
  /-- Whether the elements are the numbered parts of a text and nothing was
  done to them since. -/
  isParted : Bool

namespace Table

def slotCount : Nat := 64

/-- How long the lists grow on average before there are more of them. -/
def listLength : Nat := 12

def empty : Table := ⟨∅, .replicate slotCount [], false, .replicate slotCount [], false⟩

instance : Inhabited Table := ⟨empty⟩

def size (table : Table) : Nat := table.values.size

/-- The digest of a name. -/
def digest (name : Bytes) : Nat :=
  name.foldl (fun value byte => (value ^^^ byte.toNat) * 16777619 % 2 ^ 32) 2166136261

def textSlot (table : Table) (name : Bytes) : Nat := digest name % table.texts.size

def wholeSlot (table : Table) (number : Int) : Nat := (number % table.wholes.size).toNat

def pushText (table : Table) (name : Bytes) : Table :=
  { table with texts := table.texts.modify (table.textSlot name) fun names => name :: names.erase name }

def pushWhole (table : Table) (number : Int) : Table :=
  { table with wholes := table.wholes.modify (table.wholeSlot number) fun numbers => number :: numbers.erase number }

/-- Twice as many lists, each of the former ones cut in two. -/
def doubled (table : Table) : Table :=
  let count := 2 * table.texts.size
  let halves {α : Type} (lists : Array (List α)) (place : α → Nat) : Array (List α) :=
    (lists.toList.mapIdx fun index list => list.filter (place · == index)).toArray ++
      (lists.toList.mapIdx fun index list => list.filter (place · == index + lists.size)).toArray
  { table with
    texts := halves table.texts fun name => digest name % count
    wholes := halves table.wholes fun number => (number % count).toNat }

def grown (table : Table) : Table :=
  if table.size > listLength * table.texts.size then table.doubled else table

/-- Keep the numbers of the parts of a text in lists. -/
def listed (table : Table) : Table :=
  if !table.isParted then table
  else
    let doublings := Nat.log2 (table.size / (listLength * slotCount) + 1) + 1
    let table := { table with isParted := false }
    let table := (List.range doublings).foldl (fun table _ => table.grown) table
    ((List.range table.size).map fun (index : Nat) => (index : Int) + 1).foldl pushWhole table

/-- Keep the names of all elements as texts. -/
def named (table : Table) : Table :=
  let table := table.listed
  if table.hasTexts then table
  else
    let numbers := table.wholes.toList.flatten
    numbers.foldl (fun table number => table.pushText (utf8 (toString number))) { table with hasTexts := true }

/-- Look for a name as a text, and put it in when it is to be created. -/
def reachText (table : Table) (name : Bytes) (creates : Bool) : Table :=
  let table := table.named
  if table.values.contains name then table.pushText name
  else if creates then ({ table with values := table.values.insert name .unset }.grown).pushText name
  else table

def reachWhole (table : Table) (number : Int) (creates : Bool) : Table :=
  let name := utf8 (toString number)
  if table.isParted && 1 ≤ number && number ≤ table.size then table
  else
    let table := table.listed
    if (table.wholes[table.wholeSlot number]?.getD []).elem number then table.pushWhole number
    else if table.hasTexts then
      let table := table.reachText name creates
      if table.values.contains name then table.pushWhole number else table
    else if creates then ({ table with values := table.values.insert name .unset }.grown).pushWhole number
    else table

/-- Look for an element, which is created if that is wished. -/
def reach (table : Table) (key : Key) (creates : Bool) : Table × Option Value :=
  if table.size == 0 && !creates then (table, none)
  else
    let table := match key with
      | .whole number => table.reachWhole number creates
      | .text name => table.reachText name creates
    (table, table.values[key.bytes]?)

def set (table : Table) (key : Key) (value : Value) : Table :=
  let (table, _) := table.reach key true
  { table with values := table.values.insert key.bytes value }

/-- The whole number that a name is written as. -/
def number? (name : Bytes) : Option Int := do
  let number ← (String.fromUTF8? ⟨name.toArray⟩).bind String.toInt?
  if utf8 (toString number) == name then some number else none

def remove (table : Table) (key : Key) : Table :=
  let (table, found) := table.reach key false
  match found with
  | none => table
  | some _ =>
    let table := table.listed
    let name := key.bytes
    let table := { table with
      values := table.values.erase name
      texts := table.texts.modify (table.textSlot name) (·.erase name) }
    let table := match number? name with
      | some number => { table with wholes := table.wholes.modify (table.wholeSlot number) (·.erase number) }
      | none => table
    if table.size == 0 then empty else table

/-- The names of the elements as a loop meets them. -/
def keys (table : Table) : List Bytes × Table :=
  if table.size == 0 then ([], table)
  else
    let table := table.named
    (table.texts.toList.flatten, table)

/-- The table of the parts of a text. -/
def ofParts (parts : List Value) : Table :=
  let values := parts.foldl (fun (values : Std.HashMap Bytes Value) part =>
    values.insert (utf8 (toString (values.size + 1))) part) ∅
  { empty with values, isParted := !parts.isEmpty }

end Table
end ExitParity.Awk
