import ExitParity.Bytes

/-! What has to be changed in one list of lines to make another one of it. -/

namespace ExitParity

/-- A change: lines that are taken away, and lines that are put in their place. -/
structure Change where
  oldStart : Nat
  oldCount : Nat
  newStart : Nat
  newCount : Nat
  deriving DecidableEq

namespace Difference

/-- How long the longest common part of two texts is, for all pairs of their
ends, given row by row with the longest ends first. -/
def commonLengths (old new : Array Bytes) : Array (Array Nat) :=
  let zero := Array.replicate (new.size + 1) 0
  let rows := (List.range old.size).foldl (fun (rows : List (Array Nat)) down =>
    let line := old[old.size - 1 - down]?
    let below := rows.head?.getD zero
    let (row, _) := (List.range new.size).foldl (fun ((row, right) : List Nat × Nat) back =>
      let place := new.size - 1 - back
      let here := if line == new[place]? then 1 + (below[place + 1]?.getD 0) else max right (below[place]?.getD 0)
      (here :: row, here)) ([0], 0)
    row.toArray :: rows) [zero]
  rows.toArray

/-- Which lines of two texts are in no common part of the greatest length. -/
def unmatched (old new : Array Bytes) (lengths : Array (Array Nat)) : Nat → Nat → Nat → List Bool × List Bool
  | 0, i, j => (List.replicate (old.size - i) true, List.replicate (new.size - j) true)
  | fuel + 1, i, j =>
    if i ≥ old.size || j ≥ new.size then (List.replicate (old.size - i) true, List.replicate (new.size - j) true)
    else
      let at_ (i j : Nat) : Nat := (lengths[i]?.bind (·[j]?)).getD 0
      if old[i]? == new[j]? then
        let (olds, news) := unmatched old new lengths fuel (i + 1) (j + 1)
        (false :: olds, false :: news)
      else if at_ (i + 1) j ≥ at_ i (j + 1) then
        let (olds, news) := unmatched old new lengths fuel (i + 1) j
        (true :: olds, news)
      else
        let (olds, news) := unmatched old new lengths fuel i (j + 1)
        (olds, true :: news)

/-- The lines of a text with whether each is changed. -/
structure Marked where
  lines : Array Bytes
  changed : Array Bool

namespace Marked

def isChanged (side : Marked) (place : Nat) : Bool := (side.changed[place]?).getD false

/-- Where the run of changed lines from a place on ends. -/
def runEnd (side : Marked) : Nat → Nat → Nat
  | 0, place => place
  | fuel + 1, place => if side.isChanged place then runEnd side fuel (place + 1) else place

/-- Where the run of changed lines up to a place begins. -/
def runStart (side : Marked) : Nat → Nat → Nat
  | 0, place => place
  | fuel + 1, place => if place > 0 && side.isChanged (place - 1) then runStart side fuel (place - 1) else place

def mark (side : Marked) (place : Nat) (value : Bool) : Marked :=
  { side with changed := side.changed.setIfInBounds place value }

/-- Move a run of changed lines back as far as its lines recur in front of it.
Runs that it meets become part of it. -/
def slideBack (side : Marked) : Nat → Nat → Nat → Marked × Nat × Nat
  | 0, start, stop => (side, start, stop)
  | fuel + 1, start, stop =>
    if start > 0 && side.lines[start - 1]? == side.lines[stop - 1]? then
      let side := (side.mark (start - 1) true).mark (stop - 1) false
      let start := side.runStart side.lines.size (start - 1)
      slideBack side fuel start (stop - 1)
    else (side, start, stop)

/-- Move a run of changed lines on as far as its lines recur behind it. -/
def slideOn (side : Marked) : Nat → Nat → Nat → Marked × Nat × Nat
  | 0, start, stop => (side, start, stop)
  | fuel + 1, start, stop =>
    if stop < side.lines.size && side.lines[start]? == side.lines[stop]? then
      let side := (side.mark start false).mark stop true
      let stop := side.runEnd side.lines.size (stop + 1)
      slideOn side fuel (start + 1) stop
    else (side, start, stop)

/-- Move all runs of changed lines on, from a place on. -/
def settle (side : Marked) : Nat → Nat → Marked
  | 0, _ => side
  | fuel + 1, place =>
    if place ≥ side.lines.size then side
    else if !side.isChanged place then settle side fuel (place + 1)
    else
      let stop := side.runEnd side.lines.size place
      let (side, start, stop) := side.slideBack side.lines.size place stop
      let (side, _, stop) := side.slideOn side.lines.size start stop
      settle side fuel stop

end Marked

/-- The changes that the marks of two texts amount to. -/
def collect (old new : List Bool) : Nat → Nat → Nat → List Change
  | 0, _, _ => []
  | fuel + 1, i, j =>
    match old, new with
    | [], [] => []
    | false :: olds, false :: news => collect olds news fuel (i + 1) (j + 1)
    | olds, news =>
      let removed := (olds.takeWhile id).length
      let added := (news.takeWhile id).length
      if removed == 0 && added == 0 then []
      else ⟨i, removed, j, added⟩ :: collect (olds.drop removed) (news.drop added) fuel (i + removed) (j + added)

/-- How many lines two texts have in common at their beginning. -/
def sharedStart : List Bytes → List Bytes → Nat
  | x :: xs, y :: ys => if x == y then sharedStart xs ys + 1 else 0
  | _, _ => 0

/-- The changes that make one text another one. -/
def changes (old new : List Bytes) : List Change :=
  let start := sharedStart old new
  let stop := sharedStart (old.drop start).reverse (new.drop start).reverse
  let inner (lines : List Bytes) : Array Bytes := ((lines.drop start).take (lines.length - start - stop)).toArray
  let (olds, news) := unmatched (inner old) (inner new) (commonLengths (inner old) (inner new))
    (old.length + new.length + 1) 0 0
  let marked (lines : List Bytes) (flags : List Bool) : List Bool :=
    let all := List.replicate start false ++ flags ++ List.replicate stop false
    ((⟨lines.toArray, all.toArray⟩ : Marked).settle (2 * lines.length + 2) 0).changed.toList
  collect (marked old olds) (marked new news) (old.length + new.length + 1) 0 0

end Difference
end ExitParity
