import ExitParity.Host.Letters

/-! Regular expressions, which match the first and then the longest part of a
text. -/

namespace ExitParity

/-- A place in a text that has no length. -/
inductive Edge where
  | lineStart
  | lineEnd
  | textStart
  | textEnd
  | wordStart
  | wordEnd
  | word
  | noWord
  deriving DecidableEq

/-- A regular expression. -/
inductive Expression where
  | empty
  | edge (edge : Edge)
  | one (accepts : Nat → Bool)
  | sequence (first second : Expression)
  | choice (first second : Expression)
  | repeated (least : Nat) (most : Option Nat) (body : Expression)
  | group (number : Nat) (body : Expression)
  | reference (number : Nat)

/-- Why a text is no regular expression. -/
inductive ExpressionFault where
  | trailingBackslash
  | lacksMembers
  | unmatchedBracket
  | unmatchedOpen
  | unmatchedClose
  | unmatchedBrace
  | badBounds
  | badRange
  | badClass
  | badReference
  | nothingRepeated
  | tooBig
  deriving DecidableEq

def ExpressionFault.message : ExpressionFault → String
  | .trailingBackslash => "Trailing backslash"
  | .lacksMembers => "Invalid regular expression"
  | .unmatchedBracket => "Unmatched [, [^, [:, [., or [="
  | .unmatchedOpen => "Unmatched ( or \\("
  | .unmatchedClose => "Unmatched ) or \\)"
  | .unmatchedBrace => "Unmatched \\\x7b"
  | .badBounds => "Invalid content of \\\x7b\\\x7d"
  | .badRange => "Invalid range end"
  | .badClass => "Invalid character class name"
  | .badReference => "Invalid back reference"
  | .nothingRepeated => "Invalid preceding regular expression"
  | .tooBig => "Regular expression too big"

/-- How an expression is written and what it is matched against. -/
structure Manner where
  extended : Bool
  /-- Whether an extended expression may have signs where they mean nothing. -/
  lenient : Bool
  ignoresCase : Bool
  /-- Whether letters behind a backslash name control characters. -/
  escapes : Bool
  /-- Whether lines inside the text have beginnings and ends. -/
  multiline : Bool

namespace Expression

/-- What a part of an expression matched: up to where, and its groups. -/
structure Outcome where
  stop : Nat
  groups : List (Nat × Nat × Nat)

/-- Keep the first outcome of each end, those that end last in front. -/
def arranged (outcomes : List Outcome) : List Outcome :=
  match outcomes with
  | [] | [_] => outcomes
  | _ =>
    let kept := outcomes.foldl (fun kept outcome =>
      if kept.any (·.stop == outcome.stop) then kept else outcome :: kept) []
    kept.reverse.mergeSort fun first second => first.stop ≥ second.stop

def isAt (manner : Manner) (text : Array Nat) (place : Nat) : Edge → Bool
  | .lineStart => place == 0 || (manner.multiline && text[place - 1]? == some 0x0a)
  | .lineEnd => place == text.size || (manner.multiline && text[place]? == some 0x0a)
  | .textStart => place == 0
  | .textEnd => place == text.size
  | .wordStart => !before && after
  | .wordEnd => before && !after
  | .word => before != after
  | .noWord => before == after
where
  before : Bool := place > 0 && (text[place - 1]?).any Letters.isWord
  after : Bool := (text[place]?).any Letters.isWord

/-- How many letters from a place on are accepted, at most so many. -/
def runLength (text : Array Nat) (accepts : Nat → Bool) : Nat → Nat → Nat → Nat
  | 0, _, count => count
  | fuel + 1, place, count =>
    if (text[place]?).any accepts then runLength text accepts fuel (place + 1) (count + 1) else count

/-- Whether a part of a text stands again at a place. -/
def recurs (manner : Manner) (text : Array Nat) (first place : Nat) : Nat → Bool
  | 0 => true
  | length + 1 =>
    match text[first + length]?, text[place + length]? with
    | some former, some now =>
      (former == now || (manner.ignoresCase && Letters.lower former == Letters.lower now)) &&
        recurs manner text first place length
    | _, _ => false

/-- All the ways in which an expression matches from a place on, one for each
end. -/
def outcomes (manner : Manner) (text : Array Nat) : Expression → Nat → List (Nat × Nat × Nat) → List Outcome
  | .empty, place, groups => [⟨place, groups⟩]
  | .edge where_, place, groups => if isAt manner text place where_ then [⟨place, groups⟩] else []
  | .one accepts, place, groups => if (text[place]?).any accepts then [⟨place + 1, groups⟩] else []
  | .sequence first second, place, groups =>
    match outcomes manner text first place groups with
    | [] => []
    | [only] => outcomes manner text second only.stop only.groups
    | firsts => arranged (firsts.flatMap fun outcome => outcomes manner text second outcome.stop outcome.groups)
  | .choice first second, place, groups =>
    arranged (outcomes manner text first place groups ++ outcomes manner text second place groups)
  | .group number body, place, groups =>
    (outcomes manner text body place groups).map fun outcome =>
      ⟨outcome.stop, (number, place, outcome.stop) :: outcome.groups.filter (·.1 != number)⟩
  | .reference number, place, groups =>
    match groups.find? (·.1 == number) with
    | some (_, first, last) =>
      if recurs manner text first place (last - first) then [⟨place + (last - first), groups⟩] else []
    | none => []
  | .repeated least most (.one accepts), place, groups =>
    let length := runLength text accepts (min (text.size - place) (most.getD (text.size - place))) place 0
    if length < least then []
    else (List.range (length + 1 - least)).map fun fewer => ⟨place + length - fewer, groups⟩
  | .repeated least most body, place, groups =>
    let rec go : Nat → Nat → List Nat → List Outcome → List Outcome
      | 0, _, _, _ => []
      | fuel + 1, count, seen, front =>
        let here := if least ≤ count then front else []
        let next := if most.any (· ≤ count) then [] else
          arranged (front.flatMap fun outcome => outcomes manner text body outcome.stop outcome.groups)
        let fresh := if least ≤ count then next.filter fun outcome => !seen.contains outcome.stop else next
        if fresh.isEmpty then here
        else go fuel (count + 1) (fresh.map (·.stop) ++ seen) fresh ++ here
    arranged (go (text.size + least + 2) 0 [place] [⟨place, groups⟩])

/-- A part of a text that matches, with its groups. -/
structure Match where
  first : Nat
  last : Nat
  groups : List (Nat × Nat × Nat)

/-- The first and then longest part of a text that matches, from a place on. -/
def find? (manner : Manner) (expression : Expression) (text : Array Nat) : Nat → Nat → Option Match
  | 0, _ => none
  | fuel + 1, place =>
    if place > text.size then none
    else match outcomes manner text expression place [] with
      | outcome :: _ => some ⟨place, outcome.stop, outcome.groups⟩
      | [] => find? manner expression text fuel (place + 1)

def search? (manner : Manner) (expression : Expression) (text : Array Nat) (start : Nat) : Option Match :=
  find? manner expression text (text.size + 1 - start) start

/-- Whether an expression matches a whole text. -/
def matchesWhole (manner : Manner) (expression : Expression) (text : Array Nat) : Bool :=
  (outcomes manner text expression 0 []).head?.any (·.stop == text.size)

/-- The part of a text that a group matched. -/
def Match.group (found : Match) (text : Array Nat) (number : Nat) : Letters :=
  if number == 0 then (text.extract found.first found.last).toList
  else match found.groups.find? (·.1 == number) with
    | some (_, first, last) => (text.extract first last).toList
    | none => []

/-- The parts of a text that match, one behind the other. One of no length does
not stand right behind another one. -/
def allMatches (manner : Manner) (expression : Expression) (text : Array Nat) : Nat → Nat → Option Nat → List Match
  | 0, _, _ => []
  | fuel + 1, start, former =>
    match search? manner expression text start with
    | none => []
    | some found =>
      if found.first == found.last then
        let more := allMatches manner expression text fuel (found.last + 1) none
        if former == some found.first then more else found :: more
      else found :: allMatches manner expression text fuel found.last (some found.last)

/-! ### Reading -/

/-- An expression that is being read: the letters left, the groups begun, and
those that are complete. -/
structure Draft where
  text : Letters
  groups : Nat
  complete : List Nat

abbrev Reading := StateT Draft (Except ExpressionFault)

def rest : Reading Letters := return (← get).text

def skip (count : Nat) : Reading Unit := modify fun draft => { draft with text := draft.text.drop count }

/-- One letter, in either case when that makes no difference. -/
def letter (manner : Manner) (wanted : Nat) : Expression :=
  if manner.ignoresCase && (Letters.lower wanted != wanted || Letters.upper wanted != wanted) then
    let low := Letters.lower wanted
    .one fun letter => Letters.lower letter == low
  else .one (· == wanted)

/-- The name between a sign and its like in front of a closing bracket. -/
def inside (sign : Nat) (text : Letters) : Option (Letters × Letters) :=
  let rec go : Letters → Letters → Option (Letters × Letters)
    | _, [] | _, [_] => none
    | before, first :: second :: more =>
      if first == sign && second == 0x5d then some (before.reverse, more) else go (first :: before) (second :: more)
  go [] text

/-- One member of a bracket as a letter, with what is behind it. -/
def member (manner : Manner) : Letters → Except ExpressionFault (Option (Nat × Letters))
  | 0x5b :: 0x2e :: text | 0x5b :: 0x3d :: text =>
    match inside 0x2e text, inside 0x3d text with
    | some ([only], text), _ | _, some ([only], text) => .ok (some (only, text))
    | _, _ => .error .unmatchedBracket
  | 0x5c :: sign :: text =>
    if manner.escapes then
      match [(0x6e, 0x0a), (0x74, 0x09), (0x66, 0x0c), (0x76, 0x0b), (0x61, 0x07), (0x72, 0x0d)].lookup sign with
      | some value => .ok (some (value, text))
      | none => .ok (some (0x5c, sign :: text))
    else .ok (some (0x5c, sign :: text))
  | letter :: text => .ok (some (letter, text))
  | [] => .ok none

/-- The members of a bracket, read up to its end. A closing bracket that comes
first is a member. -/
def members (manner : Manner) : Nat → Bool → Letters → Except ExpressionFault ((Nat → Bool) × Letters)
  | 0, _, _ => .error .unmatchedBracket
  | fuel + 1, first, text => do
    match text with
    | [] => throw .unmatchedBracket
    | 0x5d :: after =>
      if !first then return (fun _ => false, after)
      single fuel text
    | 0x5b :: 0x3a :: after =>
      match inside 0x3a after with
      | none => throw .unmatchedBracket
      | some (name, after) =>
        match Letters.class? (String.ofList (name.map Char.ofNat)) with
        | none => throw .badClass
        | some accepts =>
          let (more, after) ← members manner fuel false after
          return (fun letter => accepts letter || more letter, after)
    | text => single fuel text
where
  single (fuel : Nat) (text : Letters) : Except ExpressionFault ((Nat → Bool) × Letters) := do
    match ← member manner text with
    | none => throw .unmatchedBracket
    | some (low, after) =>
      match after with
      | 0x2d :: 0x5d :: _ =>
        let (more, after) ← members manner fuel false after
        return (fun letter => letter == low || more letter, after)
      | 0x2d :: after =>
        match ← member manner after with
        | none => throw .unmatchedBracket
        | some (high, after) =>
          if high < low then throw .badRange
          let (more, after) ← members manner fuel false after
          return (fun letter => (low ≤ letter && letter ≤ high) || more letter, after)
      | after =>
        let (more, after) ← members manner fuel false after
        return (fun letter => letter == low || more letter, after)

/-- The value of the digits at the beginning of a text. -/
def digits (text : Letters) : Option Nat × Letters :=
  let found := text.takeWhile Letters.isDigit
  (if found.isEmpty then none else some (found.foldl (fun value digit => value * 10 + (digit - 0x30)) 0),
    text.drop found.length)

/-- The highest number of repetitions that can be asked for. -/
def boundLimit : Nat := 32767

/-- The bounds of a repetition, from behind its opening brace on. -/
def bounds (manner : Manner) (text : Letters) : Except ExpressionFault (Nat × Option Nat × Letters) := do
  let (least?, after) := digits text
  let (most?, after) : Option (Option Nat) × Letters := match after with
    | 0x2c :: after =>
      let (most?, after) := digits after
      (some most?, after)
    | after => (none, after)
  let least := least?.getD 0
  let after ← match manner.extended, after with
    | true, 0x7d :: after => pure after
    | false, 0x5c :: 0x7d :: after => pure after
    | _, [] => throw .unmatchedBrace
    | _, _ => throw .badBounds
  if least > boundLimit || (most?.bind id).any (· > boundLimit) then throw .tooBig
  match least?, most? with
  | none, none => throw .badBounds
  | _, none => return (least, some least, after)
  | _, some none => return (least, none, after)
  | _, some (some most) => if most < least then throw .badBounds else return (least, some most, after)

/-- What comes next in the text of an expression. -/
inductive Sign where
  | ending
  | bar
  | open_
  | close
  | brace
  | star
  | plus
  | optional
  | other
  deriving DecidableEq

/-- The next sign, and how many letters it is written with. -/
def sign (manner : Manner) : Letters → Sign × Nat
  | [] => (.ending, 0)
  | 0x2a :: _ => (.star, 1)
  | 0x5c :: letter :: _ => if manner.extended then (.other, 0) else (ofLetter letter, 2)
  | letter :: _ => if manner.extended then (ofLetter letter, 1) else (.other, 0)
where
  ofLetter (letter : Nat) : Sign :=
    if letter == 0x7c then .bar else if letter == 0x28 then .open_ else if letter == 0x29 then .close
    else if letter == 0x7b then .brace else if letter == 0x2b then .plus else if letter == 0x3f then .optional
    else .other

/-- Whether a sign repeats what stands in front of it. -/
def repeats (sign : Sign) : Bool := sign == .star || sign == .plus || sign == .optional || sign == .brace

/-- Whether a fault with bounds is one that leaves their brace without a meaning. -/
def isOpenEnded (fault : ExpressionFault) (text : Letters) : Bool :=
  fault == .unmatchedBrace || (fault == .badBounds && !(text.head?.any fun letter => Letters.isDigit letter || letter == 0x2c))

/-- The edge or the set that a letter behind a backslash stands for. -/
def backslashed? (letter : Nat) : Option Expression :=
  match Char.ofNat letter with
  | 'w' => some (.one Letters.isWord)
  | 'W' => some (.one fun letter => !Letters.isWord letter)
  | 's' => some (.one fun letter => letter == 0x20 || (0x09 ≤ letter && letter ≤ 0x0d))
  | 'S' => some (.one fun letter => !(letter == 0x20 || (0x09 ≤ letter && letter ≤ 0x0d)))
  | 'b' => some (.edge .word)
  | 'B' => some (.edge .noWord)
  | '<' => some (.edge .wordStart)
  | '>' => some (.edge .wordEnd)
  | '\'' => some (.edge .textEnd)
  | _ => if letter == 0x60 then some (.edge .textStart) else none

/-- The control character that a letter behind a backslash names. -/
def control? (letter : Nat) : Option Nat :=
  [(0x6e, 0x0a), (0x74, 0x09), (0x66, 0x0c), (0x76, 0x0b), (0x61, 0x07), (0x72, 0x0d)].lookup letter

mutual

/-- Read alternatives up to the end or a closing parenthesis. -/
def alternatives (manner : Manner) : Nat → Nat → Reading Expression
  | 0, _ => return .empty
  | fuel + 1, depth => do
    let first ← items manner fuel depth true
    match sign manner (← rest) with
    | (.bar, length) =>
      skip length
      return .choice first (← alternatives manner fuel depth)
    | _ => return first

/-- Read items one behind the other. -/
def items (manner : Manner) : Nat → Nat → Bool → Reading Expression
  | 0, _, _ => return .empty
  | fuel + 1, depth, first => do
    match sign manner (← rest) with
    | (.ending, _) | (.bar, _) => return .empty
    | (.close, _) =>
      if depth > 0 then return .empty
      else if !manner.lenient then throw .unmatchedClose
      skip 1
      let more ← items manner fuel depth false
      return .sequence (letter manner 0x29) more
    | _ =>
      let body ← item manner fuel depth first
      let begins := match body with
        | .edge .lineStart => true
        | _ => false
      let isAnchor := begins && !manner.extended
      if begins && manner.extended && !manner.lenient && repeats (sign manner (← rest)).1 then throw .nothingRepeated
      let body ← if isAnchor then pure body else repetitions manner fuel body
      let more ← items manner fuel depth isAnchor
      match more with
      | .empty => return body
      | more => return .sequence body more

def repetitions (manner : Manner) : Nat → Expression → Reading Expression
  | 0, body => return body
  | fuel + 1, body => do
    match sign manner (← rest) with
    | (.star, length) =>
      skip length
      repetitions manner fuel (.repeated 0 none body)
    | (.plus, length) =>
      skip length
      repetitions manner fuel (.repeated 1 none body)
    | (.optional, length) =>
      skip length
      repetitions manner fuel (.repeated 0 (some 1) body)
    | (.brace, length) =>
      match bounds manner ((← rest).drop length) with
      | .ok (least, most, after) =>
        modify fun draft => { draft with text := after }
        repetitions manner fuel (.repeated least most body)
      | .error fault =>
        -- a brace with no bounds behind it can stand for itself
        if manner.lenient && isOpenEnded fault ((← rest).drop length) then
          skip length
          return .sequence body (← repetitions manner fuel (letter manner 0x7b))
        else throw fault
    | _ => return body

/-- Read one item. -/
def item (manner : Manner) : Nat → Nat → Bool → Reading Expression
  | 0, _, _ => return .empty
  | fuel + 1, depth, first => do
    let text ← rest
    match sign manner text with
    | (.open_, length) =>
      skip length
      let number := (← get).groups + 1
      modify fun draft => { draft with groups := number }
      let body ← alternatives manner fuel (depth + 1)
      match sign manner (← rest) with
      | (.close, length) =>
        skip length
        modify fun draft => { draft with complete := number :: draft.complete }
        return .group number body
      | _ => throw .unmatchedOpen
    | (.star, length) =>
      if manner.extended && !manner.lenient then throw .nothingRepeated
      skip length
      if manner.extended then return .empty else return letter manner 0x2a
    | (.plus, length) | (.optional, length) =>
      if manner.extended && !manner.lenient then throw .nothingRepeated
      skip length
      if manner.extended then return .empty else return letter manner ((text.drop 1).head?.getD 0)
    | (.brace, length) =>
      if !manner.lenient then throw .nothingRepeated
      match bounds manner (text.drop length) with
      | .ok (_, _, after) =>
        modify fun draft => { draft with text := after }
        return .empty
      | .error _ =>
        skip length
        return letter manner 0x7b
    | _ =>
      match text with
      | [] => return .empty
      | 0x5e :: _ =>
        skip 1
        return if first || manner.extended then .edge .lineStart else letter manner 0x5e
      | 0x24 :: after =>
        skip 1
        let isLast := match (sign manner after).1 with
          | .ending | .bar | .close => true
          | _ => false
        return if isLast || manner.extended then .edge .lineEnd else letter manner 0x24
      | 0x2e :: _ =>
        skip 1
        return .one fun letter => letter < Letters.strayBase
      | 0x5b :: after =>
        let inverted := after.head? == some 0x5e
        let body := if inverted then after.drop 1 else after
        if body.isEmpty then throw .lacksMembers
        let (accepts, after) ← members manner (body.length + 1) true body
        modify fun draft => { draft with text := after }
        let accepts (letter : Nat) : Bool :=
          accepts letter ||
            (manner.ignoresCase && (accepts (Letters.lower letter) || accepts (Letters.upper letter)))
        return .one fun letter => letter < Letters.strayBase && accepts letter != inverted
      | [0x5c] => throw .trailingBackslash
      | 0x5c :: sign :: _ =>
        skip 2
        if Letters.isDigit sign && sign != 0x30 then
          if (← get).complete.contains (sign - 0x30) then return .reference (sign - 0x30) else throw .badReference
        match if manner.escapes then control? sign else none, backslashed? sign with
        | some value, _ => return .one (· == value)
        | none, some expression => return expression
        | none, none => return letter manner sign
      | wanted :: _ =>
        skip 1
        return letter manner wanted

end

/-- Read an expression, and tell how many groups it has. -/
def ofLetters (manner : Manner) (text : Letters) : Except ExpressionFault (Expression × Nat) := do
  let (expression, draft) ← (alternatives manner (4 * text.length + 8) 0).run ⟨text, 0, []⟩
  return (expression, draft.groups)

/-- The expression that matches exactly a text. -/
def ofText (manner : Manner) (text : Letters) : Expression :=
  text.foldr (fun wanted rest => match rest with
    | .empty => letter manner wanted
    | rest => .sequence (letter manner wanted) rest) .empty

end Expression
end ExitParity
