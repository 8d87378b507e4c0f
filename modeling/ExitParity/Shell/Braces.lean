import ExitParity.Host.Printing
import ExitParity.Shell.Syntax

/-! Words in whose braces there is a choice or a row, which stand for several
words. -/

namespace ExitParity.Shell.Braces

/-- A part of a word, or one of its bytes that are not quoted. -/
inductive Item where
  | byte (byte : UInt8)
  | part (part : Part)

def itemsOf (word : Word) : List Item :=
  word.flatMap fun
    | .literal bytes false => bytes.map .byte
    | part => [.part part]

/-- The word that items make up. -/
def wordOf : List Item → Word
  | [] => []
  | .part part :: rest => part :: wordOf rest
  | .byte byte :: rest =>
    match wordOf rest with
    | .literal bytes false :: parts => .literal (byte :: bytes) false :: parts
    | parts => .literal [byte] false :: parts

def isByte (byte : UInt8) : Item → Bool
  | .byte found => found == byte
  | .part _ => false

/-- The choices up to the closing brace, and the items behind it. -/
def choices : Nat → List Item → List Item → Option (List (List Item) × List Item)
  | _, _, [] => none
  | depth, before, item :: rest =>
    if isByte 0x7b item then choices (depth + 1) (item :: before) rest
    else if isByte 0x7d item then
      if depth == 0 then some ([before.reverse], rest) else choices (depth - 1) (item :: before) rest
    else if isByte 0x2c item && depth == 0 then
      (choices depth [] rest).map fun (more, after) => (before.reverse :: more, after)
    else choices depth (item :: before) rest

/-- The text of items that are bytes. -/
def plain? (items : List Item) : Option Bytes :=
  items.mapM fun
    | .byte byte => some byte
    | .part _ => none

def integer? (text : Bytes) : Option Int :=
  let digits := if text.head? == some 0x2d then text.drop 1 else text
  if digits.isEmpty || !digits.all isDigit then none
  else some (if text.length > digits.length then -(Printing.digits 10 digits : Int) else Printing.digits 10 digits)

/-- The numbers from one to another in steps of a size. -/
def row (first last : Int) (step : Nat) : List Int :=
  let step := max step 1
  (List.range ((last - first).natAbs / step + 1)).map fun (index : Nat) =>
    if first ≤ last then first + index * step else first - index * step

/-- A number with at least so many digits. -/
def padded (width : Nat) (value : Int) : Bytes :=
  let digits := Printing.toDigits 10 value.natAbs
  let sign : Bytes := if value < 0 then [0x2d] else []
  sign ++ List.replicate (width - sign.length - digits.length) 0x30 ++ digits

/-- The ends and the step of a row between two dots. -/
def fieldsOf : Bytes → List Bytes
  | [] => [[]]
  | 0x2e :: 0x2e :: rest => [] :: fieldsOf rest
  | byte :: rest =>
    match fieldsOf rest with
    | field :: fields => (byte :: field) :: fields
    | [] => [[byte]]

/-- The words of a row of numbers or of letters. -/
def row? (text : Bytes) : Option (List Bytes) := do
  let (first, last, step) ← match fieldsOf text with
    | [first, last] => some (first, last, 1)
    | [first, last, step] => (integer? step).map fun step => (first, last, step.natAbs)
    | _ => none
  match integer? first, integer? last with
  | some low, some high =>
    let isPadded (text : Bytes) : Bool := (text.dropWhile (· == 0x2d)).length > 1 && (text.dropWhile (· == 0x2d)).head? == some 0x30
    let width := if isPadded first || isPadded last then max first.length last.length else 0
    some ((row low high step).map (padded width))
  | _, _ =>
    match first, last with
    | [low], [high] => some ((row low.toNat high.toNat step).map fun letter => [letter.toNat.toUInt8])
    | _, _ => none

/-- The words that items stand for. -/
def expand : Nat → List Item → List (List Item)
  | 0, items => [items]
  | _, [] => [[]]
  | fuel + 1, item :: rest =>
    let literal := (expand fuel rest).map (item :: ·)
    if !isByte 0x7b item then literal
    else match choices 0 [] rest with
      | none => literal
      | some ([only], after) =>
        match (plain? only).bind row? with
        | some values => values.flatMap fun value => (expand fuel after).map (value.map Item.byte ++ ·)
        | none => literal
      | some (several, after) =>
        let behind := expand fuel after
        several.flatMap fun choice => (expand fuel choice).flatMap fun chosen => behind.map (chosen ++ ·)

/-- The words that a word stands for. -/
def words (word : Word) : List Word :=
  let items := itemsOf word
  if items.any (isByte 0x7b) then (expand (items.length + 1) items).map wordOf else [word]

end ExitParity.Shell.Braces
