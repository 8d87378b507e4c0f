import ExitParity.Host.Expression

/-! Regular expressions whose choices are tried in the order in which they are
written. What matches first counts, however long it is. -/

namespace ExitParity

/-- How far a repetition goes at first, and whether it can take that back. -/
inductive Pace where
  | farthest
  | nearest
  | fixed
  deriving DecidableEq

inductive Ordered where
  | empty
  | edge (edge : Edge)
  | one (accepts : Nat → Bool)
  | sequence (first second : Ordered)
  | choice (first second : Ordered)
  | repeated (least : Nat) (most : Option Nat) (pace : Pace) (body : Ordered)
  | group (number : Nat) (body : Ordered)
  | reference (number : Nat) (ignoresCase : Bool)
  /-- Something that follows or does not, without being a part of the match. -/
  | ahead (wanted : Bool) (body : Ordered)
  /-- The same in front of a place. -/
  | behind (wanted : Bool) (body : Ordered)
  /-- Something that is not matched in another way later. -/
  | settled (body : Ordered)
  /-- The place where the match is taken to begin. -/
  | beginning

/-- Why a text is no such expression. -/
inductive OrderedFault where
  | unmatchedOpen
  | unmatchedClose
  | unmatchedBracket
  | nothingRepeated
  | trailingBackslash
  | badBounds
  | badReference
  | badFlag
  | badRange
  | mixedRange
  | badClass
  | strangeLetter
  | badProperty
  | malformedProperty
  | unsupported
  | lacksName
  | malformedReference
  | lacksControl
  | unevenBehind
  deriving DecidableEq

def OrderedFault.message : OrderedFault → String
  | .unmatchedOpen => "missing closing parenthesis"
  | .unmatchedClose => "unmatched closing parenthesis"
  | .unmatchedBracket => "missing terminating ] for character class"
  | .nothingRepeated => "quantifier does not follow a repeatable item"
  | .trailingBackslash => "\\ at end of pattern"
  | .badBounds => "numbers out of order in \x7b\x7d quantifier"
  | .badReference => "reference to non-existent subpattern"
  | .badFlag => "unrecognized character after (? or (?-"
  | .badRange => "range out of order in character class"
  | .mixedRange => "invalid range in character class"
  | .badClass => "unknown POSIX class name"
  | .strangeLetter => "unrecognized character follows \\"
  | .badProperty => "unknown property after \\P or \\p"
  | .malformedProperty => "malformed \\P or \\p sequence"
  | .unsupported => "PCRE2 does not support \\F, \\L, \\l, \\N\x7bname\x7d, \\U, or \\u"
  | .lacksName => "subpattern name expected"
  | .malformedReference =>
    "\\g is not followed by a braced, angle-bracketed, or quoted name/number or by a plain number"
  | .lacksControl => "\\c at end of pattern"
  | .unevenBehind => "lookbehind assertion is not fixed length"

namespace Ordered

/-- Where a part of an expression led to: up to where it matched, where the match
is taken to begin, and its groups. -/
structure Found where
  stop : Nat
  start : Nat
  groups : List (Nat × Nat × Nat)

/-- Keep the first of those that lead to the same place. -/
def distinct (found : List Found) : List Found :=
  match found with
  | [] | [_] => found
  | _ => (found.foldl (fun kept next => if kept.any (·.stop == next.stop) then kept else next :: kept) []).reverse

/-- A letter of a word, as ASCII has them. -/
def isWord (letter : Nat) : Bool := letter < 0x80 && Letters.isWord letter

def isSpace (letter : Nat) : Bool := letter == 0x20 || (0x09 ≤ letter && letter ≤ 0x0d)

def isAt (text : Array Nat) (place : Nat) : Edge → Bool
  | .lineStart | .textStart => place == 0
  | .lineEnd | .textEnd => place == text.size
  | .wordStart => !before && after
  | .wordEnd => before && !after
  | .word => before != after
  | .noWord => before == after
where
  before : Bool := place > 0 && (text[place - 1]?).any isWord
  after : Bool := (text[place]?).any isWord

/-- All the ways in which an expression matches from a place on, in the order in
which they are tried, one for each end. -/
def ways (text : Array Nat) : Ordered → Found → List Found
  | .empty, at_ => [at_]
  | .edge where_, at_ => if isAt text at_.stop where_ then [at_] else []
  | .one accepts, at_ => if (text[at_.stop]?).any accepts then [{ at_ with stop := at_.stop + 1 }] else []
  | .sequence first second, at_ => distinct ((ways text first at_).flatMap (ways text second))
  | .choice first second, at_ => distinct (ways text first at_ ++ ways text second at_)
  | .group number body, at_ =>
    (ways text body at_).map fun found =>
      { found with groups := (number, at_.stop, found.stop) :: found.groups.filter (·.1 != number) }
  | .reference number ignoresCase, at_ =>
    match at_.groups.find? (·.1 == number) with
    | some (_, first, last) =>
      let manner : Manner := ⟨true, true, ignoresCase, false, false⟩
      if Expression.recurs manner text first at_.stop (last - first) then [{ at_ with stop := at_.stop + (last - first) }]
      else []
    | none => []
  | .ahead wanted body, at_ =>
    match ways text body at_ with
    | found :: _ => if wanted then [{ found with stop := at_.stop, start := at_.start }] else []
    | [] => if wanted then [] else [at_]
  | .behind wanted body, at_ =>
    let found := (List.range (at_.stop + 1)).findSome? fun distance =>
      (ways text body { at_ with stop := at_.stop - distance }).find? (·.stop == at_.stop)
    match found with
    | some found => if wanted then [{ found with stop := at_.stop, start := at_.start }] else []
    | none => if wanted then [] else [at_]
  | .settled body, at_ => (ways text body at_).take 1
  | .beginning, at_ => [{ at_ with start := at_.stop }]
  | .repeated least most pace (.one accepts), at_ =>
    let room := text.size - at_.stop
    let length := Expression.runLength text accepts (min room (most.getD room)) at_.stop 0
    if length < least then []
    else
      let stops := (List.range (length + 1 - least)).map fun fewer => { at_ with stop := at_.stop + length - fewer }
      match pace with
      | .farthest => stops
      | .nearest => stops.reverse
      | .fixed => stops.take 1
  | .repeated least most pace body, at_ =>
    -- from each place the repetition is gone on with only once
    let rec visit : Nat → Nat → Found → List (Nat × Nat) → List Found × List (Nat × Nat)
      | 0, _, _, seen => ([], seen)
      | fuel + 1, count, here, seen =>
        let mark := (if most.isSome then count else min count least, here.stop)
        if seen.contains mark then ([], seen)
        else
          let ends := if least ≤ count then [here] else []
          let nexts := if most.all (count < ·) then ways text body here else []
          let nexts := nexts.filter fun next => next.stop != here.stop || count < least
          let (more, seen) := nexts.foldl (fun (found, seen) next =>
            let (deeper, seen) := visit fuel (count + 1) next seen
            (found ++ deeper, seen)) ([], mark :: seen)
          (if pace == .nearest then ends ++ more else more ++ ends, seen)
    let found := distinct (visit (text.size + least + 2) 0 at_ []).1
    if pace == .fixed then found.take 1 else found

/-- The first part of a text that matches, from a place on: where it begins and
where it ends. -/
def search? (expression : Ordered) (text : Array Nat) : Nat → Nat → Option (Nat × Nat)
  | 0, _ => none
  | fuel + 1, place =>
    if place > text.size then none
    else match ways text expression ⟨place, place, []⟩ with
      | found :: _ => some (found.start, found.stop)
      | [] => search? expression text fuel (place + 1)

/-- An expression as one for whole lines or for whole words. -/
def confined (wholeLines wholeWords : Bool) (expression : Ordered) : Ordered :=
  if wholeLines then .sequence (.edge .textStart) (.sequence expression (.edge .textEnd))
  else if wholeWords then
    .sequence (.behind false (.one isWord)) (.sequence expression (.ahead false (.one isWord)))
  else expression

/-! ### Reading -/

/-- An expression that is being read: the letters left, the number of groups begun,
those with names, and whether case and blanks make no difference. -/
structure Draft where
  text : Letters
  groups : Nat
  names : List (Letters × Nat)
  ignoresCase : Bool
  ignoresBlanks : Bool

abbrev Reading := StateT Draft (Except OrderedFault)

def rest : Reading Letters := return (← get).text

def skip (count : Nat) : Reading Unit := modify fun draft => { draft with text := draft.text.drop count }

def startsWith (text : String) : Reading Bool := return ((utf8 text).map (·.toNat)).isPrefixOf (← rest)

/-- One letter, in either case when that makes no difference. -/
def letter (ignoresCase : Bool) (wanted : Nat) : Ordered :=
  if ignoresCase then
    let low := Letters.lower wanted
    .one fun letter => Letters.lower letter == low
  else .one (· == wanted)

/-- A set of letters by the letter that names it behind a backslash. -/
def set? (name : Nat) : Option (Nat → Bool) :=
  let isHorizontal (letter : Nat) : Bool := [0x20, 0x09, 0xa0, 0x3000].contains letter
  let isVertical (letter : Nat) : Bool := (0x0a ≤ letter && letter ≤ 0x0d) || [0x85, 0x2028, 0x2029].contains letter
  match Char.ofNat name with
  | 'd' => some Letters.isDigit
  | 'D' => some fun letter => !Letters.isDigit letter
  | 'w' => some isWord
  | 'W' => some fun letter => !isWord letter
  | 's' => some isSpace
  | 'S' => some fun letter => !isSpace letter
  | 'h' => some isHorizontal
  | 'H' => some fun letter => !isHorizontal letter
  | 'v' => some isVertical
  | 'V' => some fun letter => !isVertical letter
  | _ => none

/-- The letters that a general property names. -/
def property? (name : String) : Option (Nat → Bool) :=
  let isLetter (letter : Nat) : Bool := Letters.isWord letter && letter != 0x5f && !Letters.isDigit letter
  match name with
  | "L" => some isLetter
  | "Lu" => some fun letter => isLetter letter && Letters.lower letter != letter
  | "Ll" => some fun letter => isLetter letter && Letters.upper letter != letter
  | "N" | "Nd" => some Letters.isDigit
  | "P" => some fun letter => (utf8 "!\"#%&'()*,-./:;?@[\\]_\x7b\x7d").any (·.toNat == letter)
  | "S" => some fun letter => (utf8 "$+<=>^\x60|~").any (·.toNat == letter)
  | "Z" | "Zs" => some fun letter => letter == 0x20 || letter == 0xa0
  | "Any" => some fun _ => true
  | _ => none

/-- The letter that a letter behind a backslash names. -/
def control? (name : Nat) : Option Nat :=
  [(0x6e, 0x0a), (0x74, 0x09), (0x66, 0x0c), (0x72, 0x0d), (0x65, 0x1b), (0x61, 0x07)].lookup name

def hexadecimal? (letter : Nat) : Option Nat :=
  if letter < 0x80 && Printing.digitValue letter.toUInt8 < 16 then some (Printing.digitValue letter.toUInt8) else none

/-- Read the digits of a number, at most so many. -/
def numberIn (base most : Nat) (text : Letters) : Nat × Letters :=
  let found := (text.take most).takeWhile fun letter => (hexadecimal? letter).any (· < base)
  (found.foldl (fun value digit => value * base + (hexadecimal? digit).getD 0) 0, text.drop found.length)

/-- Read a letter that is written as a number behind a backslash. -/
def numbered? (text : Letters) : Option (Nat × Letters) :=
  let braced (base : Nat) (text : Letters) : Nat × Letters :=
    let (value, text) := numberIn base 8 text
    (value, text.drop 1)
  match text with
  | 0x78 :: 0x7b :: text => some (braced 16 text)
  | 0x78 :: text => some (numberIn 16 2 text)
  | 0x6f :: 0x7b :: text => some (braced 8 text)
  | 0x30 :: _ => some (numberIn 8 3 text)
  | _ => none

/-- Read a property from behind its letter. -/
def property (text : Letters) : Except OrderedFault ((Nat → Bool) × Letters) := do
  let (name, after) ← match text with
    | 0x7b :: text =>
      let name := text.takeWhile (· != 0x7d)
      if name.length == text.length then throw .malformedProperty
      pure (name, text.drop (name.length + 1))
    | only :: text => pure ([only], text)
    | [] => throw .malformedProperty
  let (inverted, name) := match name with
    | 0x5e :: name => (true, name)
    | name => (false, name)
  match property? (String.ofList (name.map Char.ofNat)) with
  | some accepts => return (fun letter => accepts letter != inverted, after)
  | none => throw .badProperty

/-- One member of a bracket: a letter or a set. -/
inductive Member where
  | letter (letter : Nat)
  | set (accepts : Nat → Bool)

/-- Read a member of a bracket. -/
def member (text : Letters) : Except OrderedFault (Member × Letters) := do
  match text with
  | [] => throw .unmatchedBracket
  | [0x5c] => throw .trailingBackslash
  | 0x5c :: sign :: after =>
    if let some accepts := set? sign then return (.set accepts, after)
    if sign == 0x70 || sign == 0x50 then
      let (accepts, after) ← property after
      return (.set fun letter => accepts letter != (sign == 0x50), after)
    if sign == 0x62 then return (.letter 0x08, after)
    if let some value := control? sign then return (.letter value, after)
    if let some (value, after) := numbered? (sign :: after) then return (.letter value, after)
    if Letters.isDigit sign then
      let (value, after) := numberIn 8 3 (sign :: after)
      return (.letter value, after)
    if sign < 0x80 && Letters.isWord sign && sign != 0x5f then throw .strangeLetter
    return (.letter sign, after)
  | 0x5b :: 0x3a :: more =>
    match Expression.inside 0x3a more with
    | none => return (.letter 0x5b, 0x3a :: more)
    | some (name, after) =>
      let (inverted, name) := match name with
        | 0x5e :: name => (true, name)
        | name => (false, name)
      let name := String.ofList (name.map Char.ofNat)
      match if name == "word" then some isWord else Letters.class? name with
      | some accepts => return (.set fun letter => (letter < 0x80 && accepts letter) != inverted, after)
      | none => throw .badClass
  | letter :: after => return (.letter letter, after)

/-- Read the members of a bracket up to its end. -/
def members : Nat → Bool → Letters → Except OrderedFault ((Nat → Bool) × Letters)
  | 0, _, _ => throw .unmatchedBracket
  | fuel + 1, first, text => do
    match text, first with
    | [], _ => throw .unmatchedBracket
    | 0x5d :: after, false => return (fun _ => false, after)
    | _, _ =>
      let (low, after) ← member text
      match low, after with
      | .set accepts, 0x2d :: next :: more =>
        if next == 0x5d then
          let (others, after) ← members fuel false after
          return (fun letter => accepts letter || others letter, after)
        let isClass := text.head? == some 0x5b
        if isClass then throw .mixedRange
        let (others, after) ← members fuel false (next :: more)
        return (fun letter => accepts letter || letter == 0x2d || others letter, after)
      | .set accepts, after =>
        let (others, after) ← members fuel false after
        return (fun letter => accepts letter || others letter, after)
      | .letter low, 0x2d :: next :: more =>
        if next == 0x5d then
          let (others, after) ← members fuel false after
          return (fun letter => letter == low || others letter, after)
        match ← member (next :: more) with
        | (.set _, _) => throw .mixedRange
        | (.letter high, after) =>
          if high < low then throw .badRange
          let (others, after) ← members fuel false after
          return (fun letter => (low ≤ letter && letter ≤ high) || others letter, after)
      | .letter low, after =>
        let (others, after) ← members fuel false after
        return (fun letter => letter == low || others letter, after)

/-- The bounds between braces, if they are some. -/
def bounds? (text : Letters) : Option (Nat × Option Nat × Letters) :=
  match Expression.digits text with
  | (none, _) => none
  | (some least, 0x7d :: after) => some (least, some least, after)
  | (some least, 0x2c :: 0x7d :: after) => some (least, none, after)
  | (some least, 0x2c :: after) =>
    match Expression.digits after with
    | (some most, 0x7d :: after) => some (least, some most, after)
    | _ => none
  | _ => none

/-- The length of what an expression matches, if it is always the same. -/
def length? : Ordered → Option Nat
  | .empty | .edge _ | .ahead .. | .behind .. | .beginning => some 0
  | .one _ => some 1
  | .sequence first second => do
    let first ← length? first
    let second ← length? second
    return first + second
  | .choice first second => do
    let first ← length? first
    let second ← length? second
    if first == second then some first else none
  | .repeated least most _ body => do
    let length ← length? body
    if most == some least then some (least * length) else none
  | .group _ body | .settled body => length? body
  | .reference .. => none

/-- Whether each choice always matches the same length. -/
def isEven : Ordered → Bool
  | .choice first second => isEven first && isEven second
  | .group _ body => isEven body
  | other => (length? other).isSome

/-- The name up to a sign, which is passed over. -/
def nameUpTo (sign : Nat) : Reading Letters := do
  let name := (← rest).takeWhile (· != sign)
  if name.isEmpty || !name.all isWord then throw .lacksName
  skip (name.length + 1)
  return name

/-- The group that a name or a number stands for. -/
def groupOf (name : Letters) : Reading Nat := do
  let draft ← get
  let number ← match Expression.digits name with
    | (some number, []) => pure number
    | _ =>
      match name with
      | 0x2d :: digits => pure (draft.groups + 1 - ((Expression.digits digits).1.getD 0))
      | name =>
        match draft.names.find? (·.1 == name) with
        | some (_, number) => pure number
        | none => throw .badReference
  return number

/-- Turn what letters between parentheses ask for on or off. -/
def turn (on : Bool) : Letters → Reading Unit
  | [] => return ()
  | flag :: more => do
    match Char.ofNat flag with
    | 'i' => modify fun draft => { draft with ignoresCase := on }
    | 'x' => modify fun draft => { draft with ignoresBlanks := on }
    | 's' | 'm' | 'n' | 'U' | 'J' => pure ()
    | _ => throw .badFlag
    turn on more

/-- Pass over blanks and remarks where they mean nothing. -/
def passBlanks : Nat → Reading Unit
  | 0 => return ()
  | fuel + 1 => do
    if (← get).ignoresBlanks then
      match ← rest with
      | 0x23 :: after =>
        modify fun draft => { draft with text := (after.dropWhile (· != 0x0a)).drop 1 }
        passBlanks fuel
      | sign :: _ =>
        if isSpace sign then
          skip 1
          passBlanks fuel
      | [] => return ()

/-- Read what stands for itself up to the sign that ends it. -/
def verbatim (ignoresCase : Bool) : Letters → Ordered × Letters
  | [] => (.empty, [])
  | 0x5c :: 0x45 :: rest => (.empty, rest)
  | wanted :: rest =>
    let (more, rest) := verbatim ignoresCase rest
    (.sequence (letter ignoresCase wanted) more, rest)

/-- Read what a backslash begins. -/
def backslashed : Reading Ordered := do
  let ignoresCase := (← get).ignoresCase
  match ← rest with
  | [] => throw .trailingBackslash
  | sign :: after =>
    skip 1
    if let some accepts := set? sign then return .one accepts
    if let some (value, after) := numbered? (sign :: after) then
      modify fun draft => { draft with text := after }
      return letter ignoresCase value
    if let some value := control? sign then return letter ignoresCase value
    match Char.ofNat sign with
    | 'b' => return .edge .word
    | 'B' => return .edge .noWord
    | 'A' | 'G' => return .edge .textStart
    | 'Z' | 'z' => return .edge .textEnd
    | 'K' => return .beginning
    | 'N' => return .one fun letter => letter != 0x0a
    | 'X' => return .one fun _ => true
    | 'C' => return .one fun _ => true
    | 'R' => return .one fun letter => 0x0a ≤ letter && letter ≤ 0x0d
    | 'E' => return .empty
    | 'c' =>
      match after with
      | [] => throw .lacksControl
      | named :: _ =>
        skip 1
        return .one (· == Letters.upper named ^^^ 0x40)
    | 'Q' =>
      let (body, text) := verbatim ignoresCase after
      modify fun draft => { draft with text }
      return body
    | 'p' | 'P' =>
      let (accepts, text) ← property after
      modify fun draft => { draft with text }
      return .one fun letter => accepts letter != (sign == 0x50)
    | 'k' =>
      match after with
      | 0x3c :: _ | 0x7b :: _ | 0x27 :: _ =>
        skip 1
        let closer := if after.head? == some 0x3c then 0x3e else if after.head? == some 0x7b then 0x7d else 0x27
        return .reference (← groupOf (← nameUpTo closer)) ignoresCase
      | _ => throw .lacksName
    | 'g' =>
      match after with
      | 0x7b :: after =>
        let name := after.takeWhile (· != 0x7d)
        skip (name.length + 2)
        return .reference (← groupOf name) ignoresCase
      | digit :: _ =>
        if !Letters.isDigit digit then throw .malformedReference
        let (number, text) := Expression.digits after
        modify fun draft => { draft with text }
        return .reference (number.getD 0) ignoresCase
      | [] => throw .malformedReference
    | 'L' | 'l' | 'U' | 'u' | 'F' => throw .unsupported
    | _ =>
      if Letters.isDigit sign then
        let (number, text) := Expression.digits (sign :: after)
        let number := number.getD 0
        let (value, octal) := numberIn 8 3 (sign :: after)
        if number ≥ 10 && number > (← get).groups && sign < 0x38 then
          modify fun draft => { draft with text := octal }
          return letter ignoresCase value
        modify fun draft => { draft with text }
        return .reference number ignoresCase
      if sign < 0x80 && isWord sign && sign != 0x5f then throw .strangeLetter
      return letter ignoresCase sign

mutual

/-- Read alternatives up to the end or a closing parenthesis. -/
def alternatives : Nat → Reading Ordered
  | 0 => return .empty
  | fuel + 1 => do
    let first ← items fuel
    match ← rest with
    | 0x7c :: _ =>
      skip 1
      return .choice first (← alternatives fuel)
    | _ => return first

def items : Nat → Reading Ordered
  | 0 => return .empty
  | fuel + 1 => do
    passBlanks (← rest).length
    match ← rest with
    | [] => return .empty
    | sign :: _ =>
      if sign == 0x7c || sign == 0x29 then return .empty
      let body ← item fuel
      let body ← repetitions fuel body
      let more ← items fuel
      match more with
      | .empty => return body
      | more => return .sequence body more

/-- Read the repetitions behind an item. -/
def repetitions : Nat → Ordered → Reading Ordered
  | 0, body => return body
  | fuel + 1, body => do
    passBlanks (← rest).length
    let found? : Option (Nat × Option Nat × Letters) := match ← rest with
      | 0x2a :: after => some (0, none, after)
      | 0x2b :: after => some (1, none, after)
      | 0x3f :: after => some (0, some 1, after)
      | 0x7b :: after => bounds? after
      | _ => none
    match found? with
    | none => return body
    | some (least, most, after) =>
      if most.any (· < least) then throw .badBounds
      let (pace, after) := match after with
        | 0x3f :: after => (Pace.nearest, after)
        | 0x2b :: after => (Pace.fixed, after)
        | after => (Pace.farthest, after)
      modify fun draft => { draft with text := after }
      let next? := after.head?
      if next? == some 0x2a || next? == some 0x2b || next? == some 0x3f then throw .nothingRepeated
      repetitions fuel (.repeated least most pace body)

/-- Read the rest of a pair of parentheses. -/
def enclosed : Nat → Reading Ordered
  | 0 => return .empty
  | fuel + 1 => do
    let outer ← get
    let body ← alternatives fuel
    match ← rest with
    | 0x29 :: _ =>
      skip 1
      modify fun draft => { draft with ignoresCase := outer.ignoresCase, ignoresBlanks := outer.ignoresBlanks }
      return body
    | _ => throw .unmatchedOpen

/-- Read a group that is counted. -/
def counted : Nat → Option Letters → Reading Ordered
  | 0, _ => return .empty
  | fuel + 1, name? => do
    let number := (← get).groups + 1
    modify fun draft =>
      { draft with groups := number, names := (name?.map (·, number)).toList ++ draft.names }
    return .group number (← enclosed fuel)

/-- Read what a parenthesis begins. -/
def parenthesis : Nat → Reading Ordered
  | 0 => return .empty
  | fuel + 1 => do
    let begins (text : String) : Reading Bool := do
      let found ← startsWith text
      if found then skip text.length
      return found
    if ← begins "*" then
      -- a demand on how the text is matched
      modify fun draft => { draft with text := (draft.text.dropWhile (· != 0x29)).drop 1 }
      return .empty
    else if ← begins "?:" then enclosed fuel
    else if ← begins "?|" then enclosed fuel
    else if ← begins "?>" then return .settled (← enclosed fuel)
    else if ← begins "?=" then return .ahead true (← enclosed fuel)
    else if ← begins "?!" then return .ahead false (← enclosed fuel)
    else if ← begins "?<=" then behindOf (← enclosed fuel) true
    else if ← begins "?<!" then behindOf (← enclosed fuel) false
    else if ← begins "?#" then
      modify fun draft => { draft with text := (draft.text.dropWhile (· != 0x29)).drop 1 }
      return .empty
    else if ← begins "?P=" then return .reference (← groupOf (← nameUpTo 0x29)) (← get).ignoresCase
    else if (← begins "?<") || (← begins "?P<") then counted fuel (some (← nameUpTo 0x3e))
    else if ← begins "?'" then counted fuel (some (← nameUpTo 0x27))
    else if ← begins "?" then
      let flags := (← rest).takeWhile fun flag => flag != 0x29 && flag != 0x3a
      let ending := ((← rest).drop flags.length).head?
      let outer ← get
      let on := flags.takeWhile (· != 0x2d)
      turn true on
      turn false (flags.drop (on.length + 1))
      if ending.isNone then throw .unmatchedOpen
      skip (flags.length + 1)
      if ending == some 0x29 then return .empty
      let body ← enclosed fuel
      modify fun draft => { draft with ignoresCase := outer.ignoresCase, ignoresBlanks := outer.ignoresBlanks }
      return body
    else counted fuel none
where
  behindOf (body : Ordered) (wanted : Bool) : Reading Ordered := do
    if !isEven body then throw .unevenBehind
    return .behind wanted body

/-- Read one item. -/
def item : Nat → Reading Ordered
  | 0 => return .empty
  | fuel + 1 => do
    let ignoresCase := (← get).ignoresCase
    match ← rest with
    | [] => return .empty
    | 0x28 :: _ =>
      skip 1
      parenthesis fuel
    | 0x5c :: _ =>
      skip 1
      backslashed
    | 0x5e :: _ =>
      skip 1
      return .edge .lineStart
    | 0x24 :: _ =>
      skip 1
      return .edge .lineEnd
    | 0x2e :: _ =>
      skip 1
      return .one fun letter => letter != 0x0a && letter < Letters.strayBase
    | 0x5b :: after =>
      let inverted := after.head? == some 0x5e
      let body := if inverted then after.drop 1 else after
      let (accepts, text) ← members (body.length + 1) true body
      modify fun draft => { draft with text }
      let accepts (letter : Nat) : Bool :=
        accepts letter || (ignoresCase && (accepts (Letters.lower letter) || accepts (Letters.upper letter)))
      return .one fun letter => letter < Letters.strayBase && accepts letter != inverted
    | wanted :: after =>
      let isRepeating := wanted == 0x2a || wanted == 0x2b || wanted == 0x3f || (wanted == 0x7b && (bounds? after).isSome)
      if isRepeating then throw .nothingRepeated
      skip 1
      return letter ignoresCase wanted

end

/-- The greatest number of a group that is referred to. -/
def greatestReference : Ordered → Nat
  | .reference number _ => number
  | .sequence first second | .choice first second => max (greatestReference first) (greatestReference second)
  | .repeated _ _ _ body | .group _ body | .ahead _ body | .behind _ body | .settled body => greatestReference body
  | _ => 0

/-- Read an expression. -/
def ofLetters (ignoresCase : Bool) (text : Letters) : Except OrderedFault Ordered := do
  let (expression, draft) ← (alternatives (8 * text.length + 16)).run ⟨text, 0, [], ignoresCase, false⟩
  if !draft.text.isEmpty then throw .unmatchedClose
  if greatestReference expression > draft.groups then throw .badReference
  return expression

end Ordered
end ExitParity
