import ExitParity.Host.Applets.Inputs

/-! The programs that put things into an order that relations ask for, and into
any order at all. -/

namespace ExitParity

/-- A thing in a partial order: how many have to come before it that have not
come yet, the things it has to come before, the latest said first, and whether
it has come. -/
structure Ranked where
  name : Bytes
  before : Nat
  after : List Nat
  isShown : Bool

/-- Things in the order of their names, with what has been shown of them. -/
structure Ranking where
  things : Array Ranked
  shown : List Bytes

namespace Ranking

def relate (things : Array Ranked) (first second : Nat) : Array Ranked :=
  if first == second then things
  else (things.modify first fun thing => { thing with after := second :: thing.after }).modify second fun thing =>
    { thing with before := thing.before + 1 }

/-- The things that pairs of names relate. -/
def ofPairs (pairs : List (Bytes × Bytes)) : Ranking :=
  let names := ((pairs.flatMap fun (first, second) => [first, second]).mergeSort Bytes.precedes).eraseDups.toArray
  let things := names.map fun name => (⟨name, 0, [], false⟩ : Ranked)
  let place (name : Bytes) : Nat := (names.findIdx? (· == name)).getD 0
  ⟨pairs.foldl (fun things (first, second) => relate things (place first) (place second)) things, []⟩

/-- The things that can come next. -/
def ready (ranking : Ranking) : List Nat :=
  (List.range ranking.things.size).filter fun index =>
    ranking.things[index]?.any fun thing => thing.before == 0 && !thing.isShown

/-- Show things in turn, and behind them those that they made ready. -/
def showAll : Nat → List Nat → Ranking → Ranking
  | 0, _, ranking => ranking
  | _, [], ranking => ranking
  | fuel + 1, index :: queue, ranking =>
    match ranking.things[index]? with
    | none => showAll fuel queue ranking
    | some thing =>
      let things := ranking.things.setIfInBounds index { thing with isShown := true }
      let (things, freed) := thing.after.foldl (fun (things, freed) other =>
        let things := things.modify other fun thing => { thing with before := thing.before - 1 }
        (things, if (things[other]?.map (·.before)) == some 0 then freed ++ [other] else freed)) (things, [])
      showAll fuel (queue ++ freed) ⟨things, thing.name :: ranking.shown⟩

/-- One look for a way back from the last thing of a chain to the first: the
chain grows at its front, and is whole when a thing that is in it leads to it. -/
def follow (ranking : Ranking) (chain : List Nat) : List Nat × Bool :=
  (List.range ranking.things.size).foldl (fun (chain, isWhole) index =>
    if isWhole then (chain, true)
    else match ranking.things[index]? with
      | none => (chain, false)
      | some thing =>
        if thing.before == 0 then (chain, false)
        else match chain with
          | [] => ([index], false)
          | front :: _ =>
            if !thing.after.contains front then (chain, false)
            else if (chain.dropLast).contains index then (chain.takeWhile (· != index) ++ [index], true)
            else (index :: chain, false)) (chain, false)

def loop? (ranking : Ranking) : Nat → List Nat → Option (List Nat)
  | 0, _ => none
  | fuel + 1, chain =>
    match ranking.follow chain with
    | (chain, true) => some chain
    | (longer, false) => if longer.isEmpty then none else ranking.loop? fuel longer

/-- Drop the relation that closes a loop. -/
def breakLoop (ranking : Ranking) (loop : List Nat) : Ranking :=
  match loop.head?, loop.getLast? with
  | some first, some last =>
    let things := ranking.things.modify last fun thing => { thing with after := thing.after.erase first }
    let things := things.modify first fun thing => { thing with before := thing.before - 1 }
    { ranking with things }
  | _, _ => ranking

end Ranking

namespace Program

def isTokenEnd (byte : UInt8) : Bool := byte == 0x20 || byte == 0x09 || byte == 0x0a

def tokensOf : Nat → Bytes → List Bytes
  | 0, _ => []
  | fuel + 1, text =>
    let text := text.dropWhile isTokenEnd
    if text.isEmpty then []
    else
      let token := text.takeWhile fun byte => !isTokenEnd byte
      token :: tokensOf fuel (text.drop token.length)

def pairsOf : List Bytes → Option (List (Bytes × Bytes))
  | [] => some []
  | [_] => none
  | first :: second :: rest => (pairsOf rest).map ((first, second) :: ·)

/-- Show things so that none comes before one that it has to follow. Where they
go round in a loop, the loop is complained about and broken. -/
def rankThings (program : Program) (shownPath : Bytes) : Nat → Ranking → Deed Bool
  | 0, _ => return false
  | fuel + 1, ranking => do
    let ranking := Ranking.showAll (ranking.things.size + 1) ranking.ready { ranking with shown := [] }
    program.print (Bytes.unlines ranking.shown.reverse)
    if ranking.things.all (·.isShown) then return true
    match ranking.loop? (2 * ranking.things.size + 2) [] with
    | none => return false
    | some loop =>
      program.complain (shownPath ++ utf8 ": input contains a loop:")
      for index in loop do
        program.complain ((ranking.things[index]?.map (·.name)).getD [])
      let _ ← program.rankThings shownPath fuel (ranking.breakLoop loop)
      return false

def rank (program : Program) : Deed Nat :=
  program.withOptions ⟨"", [], true⟩ 1 fun options => do
    match options.operands with
    | _ :: extra :: _ =>
      program.refuse (utf8 "extra operand " ++ Quoting.curly extra)
      return 1
    | operands =>
      let path := operands.head?.getD ownInput
      match ← program.inputOf path with
      | .error fault =>
        program.complainOf (Quoting.whenNeeded path) fault.errno
        return 1
      | .ok text =>
        match pairsOf (tokensOf (text.length + 1) text) with
        | none =>
          program.complain (Quoting.whenNeeded path ++ utf8 ": input contains an odd number of tokens")
          return 1
        | some pairs => return if ← program.rankThings (Quoting.whenNeeded path) endless (.ofPairs pairs) then 0 else 1

/-- The bounds of a range such as `1-9`. -/
def bounds? (text : Bytes) : Option (Nat × Nat) := do
  let (first, last) ← Bytes.cutAt? 0x2d text
  let isNumber (text : Bytes) : Bool := !text.isEmpty && text.all Printing.isDecimal
  if isNumber first && isNumber last && Printing.digits 10 first ≤ Printing.digits 10 last + 1 then
    some (Printing.digits 10 first, Printing.digits 10 last)
  else none

/-- Print lines in some order. None is promised, so any is right: they come in
the order of a walk of constant steps around them. -/
def shuffle (program : Program) : Deed Nat :=
  program.withOptions ⟨"ei:n:o:rz", [("echo", .flag, "e"), ("input-range", .valued, "i"), ("head-count", .valued, "n"),
    ("output", .valued, "o"), ("random-source", .valued, "source"), ("repeat", .flag, "r"), ("zero-terminated", .flag, "z")],
    true⟩ 1 fun options => do
  let refuse (text : Bytes) : Deed Nat := do
    program.refuse text
    return 1
  match (options.value? "i").map fun text => (text, bounds? text), options.value? "n" with
  | some (text, none), _ =>
    program.complain (utf8 "invalid input range: " ++ Quoting.curly text)
    return 1
  | range?, count? =>
    if let some text := count? then
      if text.isEmpty || !text.all Printing.isDecimal then
        program.complain (utf8 "invalid line count: " ++ Quoting.curly text)
        return 1
    if options.has "e" && options.has "i" then return ← refuse (utf8 "cannot combine -e and -i options")
    let separator : UInt8 := if options.has "z" then 0 else 0x0a
    let extra := if options.has "e" then [] else if options.has "i" then options.operands else options.operands.drop 1
    match extra with
    | extra :: _ => refuse (utf8 "extra operand " ++ Quoting.curly extra)
    | [] =>
      let path := options.operands.head?.getD ownInput
      let lines? ← match range? with
        | some (_, some (first, last)) =>
          pure (some ((List.range (last + 1 - first)).map fun index => numeral (first + index)))
        | _ =>
          if options.has "e" then pure (some options.operands)
          else pure ((← program.plainInput path).map (Bytes.lines separator))
      match lines? with
      | none => return 1
      | some lines =>
        let lines := lines.toArray
        let limit := count?.map (Printing.digits 10)
        let step := ((List.range lines.size).find? fun index =>
          2 * index > lines.size && Nat.gcd index lines.size == 1).getD 1
        let line (index : Nat) : Bytes := (lines[(index * step + lines.size / 2) % lines.size]?.getD []) ++ [separator]
        if options.has "r" then
          if lines.isEmpty && limit != some 0 then
            program.complain (utf8 "no lines to repeat")
            return 1
          let rec repeatLines : Nat → Nat → Deed Unit
            | 0, _ => return ()
            | fuel + 1, index => do
              program.print (line index)
              repeatLines fuel (index + 1)
          repeatLines (limit.getD endless) 0
          return 0
        program.print ((List.range (min lines.size (limit.getD lines.size))).flatMap line)
        return 0

end Program
end ExitParity
