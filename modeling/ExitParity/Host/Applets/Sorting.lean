import ExitParity.Host.Applets.Copies
import ExitParity.Host.Calendar
import ExitParity.Host.Floating
import ExitParity.Host.Letters

/-! The programs that bring lines into order and those that need them in order. -/

namespace ExitParity

/-- How two keys are compared. -/
inductive Comparing where
  | plain
  | numeric
  | general
  | human
  | month
  | version
  deriving DecidableEq

/-- How the keys of lines are compared and what of them counts. -/
structure KeyStyle where
  comparing : Comparing
  foldsCase : Bool
  wordsOnly : Bool
  printableOnly : Bool
  skipsBlanksFirst : Bool
  skipsBlanksLast : Bool
  reversed : Bool

/-- A part of a line by which it is sorted: from a letter of a field, both
counted from zero, up to a letter of a field. No letter at the end stands for
the whole field. -/
structure SortKey where
  field : Nat
  letter : Nat
  limit : Option (Nat × Nat)
  style : KeyStyle

namespace KeyStyle

def usual : KeyStyle := ⟨.plain, false, false, false, false, false, false⟩

/-- Whether anything is asked for but the direction. -/
def isUsual (style : KeyStyle) : Bool :=
  style.comparing == .plain && !style.foldsCase && !style.wordsOnly && !style.printableOnly &&
    !style.skipsBlanksFirst && !style.skipsBlanksLast

def withLetter (style : KeyStyle) (atEnd : Bool) (letter : UInt8) : Option KeyStyle :=
  match Char.ofNat letter.toNat with
  | 'b' => some (if atEnd then { style with skipsBlanksLast := true } else { style with skipsBlanksFirst := true })
  | 'd' => some { style with wordsOnly := true }
  | 'f' => some { style with foldsCase := true }
  | 'g' => some { style with comparing := .general }
  | 'h' => some { style with comparing := .human }
  | 'i' => some { style with printableOnly := true }
  | 'M' => some { style with comparing := .month }
  | 'n' => some { style with comparing := .numeric }
  | 'r' => some { style with reversed := true }
  | 'V' => some { style with comparing := .version }
  | 'R' => some style
  | _ => none

end KeyStyle

namespace SortKey

/-- A field number with a letter and the flags behind it, with what is left. -/
def part (atEnd : Bool) (style : KeyStyle) (text : Bytes) : Except String (Nat × Nat × KeyStyle × Bytes) := do
  let shown := Utf8.display text
  let digits := text.takeWhile Printing.isDecimal
  if digits.isEmpty then
    throw s!"invalid number at field start: invalid count at start of ‘{shown}’"
  let field := Printing.digits 10 digits
  if field == 0 then throw s!"field number is zero: invalid field specification ‘{shown}’"
  let rest := text.drop digits.length
  let (letter, rest) ← match rest with
    | 0x2e :: after =>
      let digits := after.takeWhile Printing.isDecimal
      if digits.isEmpty then throw s!"invalid number after '.': invalid count at start of ‘{Utf8.display after}’"
      let letter := Printing.digits 10 digits
      if letter == 0 && !atEnd then throw s!"character offset is zero: invalid field specification ‘{shown}’"
      pure (letter, after.drop digits.length)
    | rest => pure (if atEnd then 0 else 1, rest)
  let flags := rest.takeWhile (· != 0x2c)
  match flags.foldlM (fun style letter => style.withLetter atEnd letter) style with
  | some style => return (field, letter, style, rest.drop flags.length)
  | none => throw s!"stray character in field spec: invalid field specification ‘{shown}’"

/-- Read a key such as `2,3.1nr`. -/
def ofText (text : Bytes) : Except String SortKey := do
  let (field, letter, style, rest) ← part false .usual text
  match rest with
  | [] => return ⟨field - 1, letter - 1, none, style⟩
  | _ :: rest =>
    let (last, stop, style, rest) ← part true style rest
    if !rest.isEmpty then throw s!"stray character in field spec: invalid field specification ‘{Utf8.display text}’"
    return ⟨field - 1, letter - 1, some (last - 1, stop), style⟩

def isBlank (byte : UInt8) : Bool := byte == 0x20 || byte == 0x09

/-- Pass over a field, with the blanks in front of it or the separator behind. -/
def skipField (separator : Option UInt8) (line : Bytes) : Bytes :=
  match separator with
  | some separator => (line.dropWhile (· != separator)).drop 1
  | none => (line.dropWhile isBlank).dropWhile (!isBlank ·)

/-- Pass over several fields. -/
def skipFields (separator : Option UInt8) : Nat → Bytes → Bytes
  | 0, line => line
  | count + 1, line => if line.isEmpty then line else skipFields separator count (skipField separator line)

/-- The part of a line that a key stands for. -/
def extract (separator : Option UInt8) (key : SortKey) (line : Bytes) : Bytes :=
  let start := skipFields separator key.field line
  let start := (if key.style.skipsBlanksFirst then start.dropWhile isBlank else start).drop key.letter
  match key.limit with
  | none => start
  | some (field, stop) =>
    let before := skipFields separator field line
    let left :=
      if stop == 0 then
        match separator with
        | some separator => before.dropWhile (· != separator)
        | none => skipField none before
      else (if key.style.skipsBlanksLast then before.dropWhile isBlank else before).drop stop
    start.take (start.length - left.length)

end SortKey

namespace KeyStyle

/-- A decimal number at the beginning of a text: its sign, its digits before
and behind the mark. -/
def number (text : Bytes) : Bool × Nat × Bytes :=
  let text := text.dropWhile SortKey.isBlank
  let (negative, text) := match text with
    | 0x2d :: rest => (true, rest)
    | text => (false, text)
  let whole := text.takeWhile Printing.isDecimal
  let fraction := match text.drop whole.length with
    | 0x2e :: rest => rest.takeWhile Printing.isDecimal
    | _ => []
  (negative, Printing.digits 10 whole, (fraction.reverse.dropWhile (· == 0x30)).reverse)

/-- The order of two numbers without their signs. -/
def compareSizes (one other : Nat × Bytes) : Ordering :=
  match compare one.1 other.1 with
  | .eq => if one.2 == other.2 then .eq else if Bytes.precedes one.2 other.2 then .lt else .gt
  | order => order

def compareNumbers (one other : Bool × Nat × Bytes) : Ordering :=
  let isZero (number : Bool × Nat × Bytes) : Bool := number.2.1 == 0 && number.2.2.isEmpty
  match one.1 && !isZero one, other.1 && !isZero other with
  | true, true => compareSizes other.2 one.2
  | true, false => .lt
  | false, true => .gt
  | false, false => compareSizes one.2 other.2

/-- The rank of the unit behind a number. -/
def unitRank (text : Bytes) : Int :=
  let text := text.dropWhile SortKey.isBlank
  let (negative, text) := match text with
    | 0x2d :: rest => (true, rest)
    | text => (false, text)
  let behind := text.dropWhile fun byte => Printing.isDecimal byte || byte == 0x2e
  let rank : Nat := match behind.head? with
    | some letter => (((utf8 "KMGTPEZY").findIdx? (· == (if letter == 0x6b then 0x4b else letter))).map (· + 1)).getD 0
    | none => 0
  if negative then -(rank : Int) else rank

/-- The rank of a number in the order of all that machines know. -/
def floatingRank (text : Bytes) : Nat × Floating :=
  match Floating.leading .extended text with
  | none => (0, .finite false 0 0)
  | some (value, _) => match value with
    | .undefined _ => (1, value)
    | .infinite true => (2, value)
    | .finite .. => (3, value)
    | .infinite false => (4, value)

/-- A finite number as a quotient. -/
def quotientOf : Floating → Int × Nat
  | .finite negative mantissa exponent =>
    let (numerator, denominator) := Floating.quotient mantissa exponent
    (if negative then -(numerator : Int) else numerator, denominator)
  | _ => (0, 1)

def compareFloating (one other : Bytes) : Ordering :=
  let (rank, value) := floatingRank one
  let (otherRank, otherValue) := floatingRank other
  match compare rank otherRank with
  | .eq =>
    let (numerator, denominator) := quotientOf value
    let (otherNumerator, otherDenominator) := quotientOf otherValue
    compare (numerator * otherDenominator) (otherNumerator * denominator)
  | order => order

/-- The number of a month by the beginning of its name. -/
def monthOf (text : Bytes) : Nat :=
  let name := ((text.dropWhile SortKey.isBlank).take 3).map Printing.lower
  ((Moment.monthNames.findIdx? fun month => (utf8 month).take 3 |>.map Printing.lower |> (· == name)).map (· + 1)).getD 0

/-- Compare texts in which numbers count as such. -/
def compareVersions : Nat → Bytes → Bytes → Ordering
  | 0, _, _ => .eq
  | fuel + 1, one, other =>
    let rank (byte : UInt8) : Nat :=
      if byte == 0x7e then 0 else if Letters.isLower byte.toNat || Letters.isUpper byte.toNat then byte.toNat + 1
      else byte.toNat + 300
    match one, other with
    | [], [] => .eq
    | [], byte :: _ => if byte == 0x7e then .gt else .lt
    | byte :: _, [] => if byte == 0x7e then .lt else .gt
    | first :: rest, second :: others =>
      if Printing.isDecimal first && Printing.isDecimal second then
        let digits := one.takeWhile Printing.isDecimal
        let otherDigits := other.takeWhile Printing.isDecimal
        match compare (Printing.digits 10 digits) (Printing.digits 10 otherDigits) with
        | .eq => compareVersions fuel (one.drop digits.length) (other.drop otherDigits.length)
        | order => order
      else if Printing.isDecimal first then .lt
      else if Printing.isDecimal second then .gt
      else match compare (rank first) (rank second) with
        | .eq => compareVersions fuel rest others
        | order => order

def compareTexts (one other : Bytes) : Ordering :=
  if one == other then .eq else if Bytes.precedes one other then .lt else .gt

/-- What of a key counts. -/
def prepare (style : KeyStyle) (key : Bytes) : Bytes :=
  let key := if style.wordsOnly then key.filter fun byte =>
      SortKey.isBlank byte || Printing.isDecimal byte || Letters.isLower byte.toNat || Letters.isUpper byte.toNat ||
        byte ≥ 0x80 else key
  let key := if style.printableOnly then key.filter fun byte => 0x20 ≤ byte && byte != 0x7f else key
  if style.foldsCase then key.map Printing.upper else key

/-- The order of two keys. -/
def compare_ (style : KeyStyle) (one other : Bytes) : Ordering :=
  let order := match style.comparing with
    | .plain => compareTexts (style.prepare one) (style.prepare other)
    | .numeric => compareNumbers (number one) (number other)
    | .general => compareFloating one other
    | .human => (compare (unitRank one) (unitRank other)).then (compareNumbers (number one) (number other))
    | .month => compare (monthOf one) (monthOf other)
    | .version => (compareVersions (one.length + other.length + 1) one other).then (compareTexts one other)
  if style.reversed then order.swap else order

end KeyStyle

/-- How lines are sorted. -/
structure SortStyle where
  keys : List SortKey
  separator : Option UInt8
  /-- The direction in which lines with equal keys are compared as a whole, if
  they are. -/
  lastResort : Option Bool

namespace SortStyle

/-- A line with its keys. -/
structure Keyed where
  line : Bytes
  keys : List Bytes

def keyed (style : SortStyle) (line : Bytes) : Keyed := ⟨line, style.keys.map fun key => key.extract style.separator line⟩

/-- The order of two lines by their keys. -/
def compareKeys (style : SortStyle) (one other : Keyed) : Ordering :=
  (style.keys.zip (one.keys.zip other.keys)).foldl (fun order (key, first, second) =>
    order.then (key.style.compare_ first second)) .eq

/-- The order of two lines. -/
def compare (style : SortStyle) (one other : Keyed) : Ordering :=
  (style.compareKeys one other).then (match style.lastResort with
    | some reversed =>
      let order := KeyStyle.compareTexts one.line other.line
      if reversed then order.swap else order
    | none => .eq)

/-- Keep the first one of neighbours with equal keys. -/
def unique (style : SortStyle) : List Keyed → List Keyed
  | [] => []
  | [only] => [only]
  | first :: second :: rest =>
    if style.compareKeys first second == .eq then unique style (first :: rest) else first :: unique style (second :: rest)
termination_by lines => lines.length

end SortStyle

namespace Program

/-- The style that the letters of options stand for. -/
def sortStyle (options : Options) : Except Bytes SortStyle := do
  let main ← (options.given.filter fun option => ["b", "d", "f", "g", "h", "i", "M", "n", "r", "V"].contains option.1).foldlM
    (fun (style : KeyStyle) (key, _) => match (utf8 key).head?.bind (style.withLetter false) with
      | some style => .ok { style with skipsBlanksLast := style.skipsBlanksFirst }
      | none => .ok style) KeyStyle.usual
  let separator ← match options.value? "t" with
    | none => pure none
    | some [] => throw (utf8 "empty tab")
    | some [byte] => pure (some byte)
    | some text =>
      if text == utf8 "\\0" then pure (some 0)
      else throw (utf8 "multi-character tab " ++ Quoting.curly text)
  let keys ← (options.values "k").mapM fun text => match SortKey.ofText text with
    | .ok key =>
      -- a key with nothing said about it is compared as the others are
      .ok (if key.style.isUsual && !key.style.reversed then { key with style := main } else key)
    | .error complaint => .error (utf8 complaint)
  let keys := if keys.isEmpty then [⟨0, 0, none, main⟩] else keys
  for key in keys do
    if key.style.wordsOnly && key.style.comparing != .plain then
      let letter := match key.style.comparing with
        | .numeric => "n"
        | .general => "g"
        | .human => "h"
        | .month => "M"
        | _ => "V"
      throw (utf8 s!"options '-d{letter}' are incompatible")
  return ⟨keys, separator, if options.any ["s", "u"] then none else some main.reversed⟩

def sortGrammar : OptionGrammar where
  letters := "bcCdfghik:mMno:rRsS:t:T:uVyz"
  long := [("ignore-leading-blanks", .flag, "b"), ("check", .perhapsValued, "c"), ("dictionary-order", .flag, "d"),
    ("ignore-case", .flag, "f"), ("general-numeric-sort", .flag, "g"), ("human-numeric-sort", .flag, "h"),
    ("ignore-nonprinting", .flag, "i"), ("key", .valued, "k"), ("merge", .flag, "m"), ("month-sort", .flag, "M"),
    ("numeric-sort", .flag, "n"), ("output", .valued, "o"), ("reverse", .flag, "r"), ("random-sort", .flag, "R"),
    ("stable", .flag, "s"), ("buffer-size", .valued, "S"), ("field-separator", .valued, "t"),
    ("temporary-directory", .valued, "T"), ("unique", .flag, "u"), ("version-sort", .flag, "V"),
    ("zero-terminated", .flag, "z"), ("parallel", .valued, "parallel"), ("batch-size", .valued, "batch"),
    ("files0-from", .valued, "files"), ("debug", .flag, "debug"), ("sort", .valued, "sort")]
  permuted := true

/-- The first line that is out of order, with its number. -/
def disorder? (wrong : SortStyle.Keyed → SortStyle.Keyed → Bool) : Nat → List SortStyle.Keyed → Option (Nat × Bytes)
  | number, first :: second :: rest =>
    if wrong first second then some (number, second.line) else disorder? wrong (number + 1) (second :: rest)
  | _, _ => none

def sort (program : Program) : Deed Nat :=
  program.withOptions sortGrammar 2 fun options => do
  let stop (text : Bytes) : Deed Nat := do
    program.complain text
    return 2
  match sortStyle options with
  | .error complaint => stop complaint
  | .ok style =>
    let ending : UInt8 := if options.has "z" then 0 else 0x0a
    let checks := options.any ["c", "C"]
    let paths := inputs options.operands
    if checks then
      if let extra :: _ := paths.drop 1 then
        return ← stop (utf8 "extra operand " ++ Quoting.always extra ++ utf8 " not allowed with -c")
    let mut lines : List (List Bytes) := []
    for path in paths do
      match ← program.inputOf path with
      | .ok text => lines := Bytes.lines ending text :: lines
      | .error (.unopened errno) =>
        return ← stop (utf8 "cannot read: " ++ Quoting.whenNeeded path ++ utf8 s!": {errno.text}")
      | .error (.unread errno) =>
        return ← stop (utf8 "read failed: " ++ Quoting.whenNeeded path ++ utf8 s!": {errno.text}")
    let keyed := lines.reverse.flatten.map style.keyed
    if checks then
      let wrong (one other : SortStyle.Keyed) : Bool :=
        if options.has "u" then style.compareKeys one other != .lt else style.compare one other == .gt
      match disorder? wrong 2 keyed with
      | none => return 0
      | some (number, line) =>
        let quiet := options.has "C" || (options.value? "c").any fun value => [utf8 "quiet", utf8 "silent"].elem value
        if !quiet then
          program.complain ((paths.head?.getD []) ++ utf8 s!":{number}: disorder: " ++ line)
        return 1
    let sorted := keyed.mergeSort fun one other => style.compare one other != .gt
    let sorted := if options.has "u" then style.unique sorted else sorted
    let text := sorted.flatMap fun entry => entry.line ++ [ending]
    match options.value? "o" with
    | none =>
      program.print text
      return 0
    | some path =>
      match ← program.writeFile path (← program.allowed 0o666) text with
      | .ok () => return 0
      | .error fault => stop (utf8 "open failed: " ++ Quoting.whenNeeded path ++ utf8 s!": {fault.errno.text}")

/-! ### Neighbours -/

/-- Lines that are the same as their neighbours. -/
def groups (keyOf : Bytes → Bytes) : List Bytes → List (List Bytes)
  | [] => []
  | line :: rest =>
    match groups keyOf rest with
    | [] => [[line]]
    | group :: others =>
      if group.head?.any fun next => keyOf next == keyOf line then (line :: group) :: others else [line] :: group :: others

def unique (program : Program) : Deed Nat :=
  program.withOptions ⟨"cdDf:is:uw:z", [("count", .flag, "c"), ("repeated", .flag, "d"), ("all-repeated", .perhapsValued, "D"),
    ("skip-fields", .valued, "f"), ("ignore-case", .flag, "i"), ("skip-chars", .valued, "s"), ("unique", .flag, "u"),
    ("check-chars", .valued, "w"), ("zero-terminated", .flag, "z"), ("group", .perhapsValued, "group")], true⟩ 1
    fun options => do
  let number (key what : String) : Deed Nat := do
    match options.value? key with
    | none => return 0
    | some text =>
      if !text.isEmpty && text.all Printing.isDecimal then return Printing.digits 10 text
      program.complain (text ++ utf8 s!": invalid number of {what}")
      program.exit 1
  let fields ← number "f" "fields to skip"
  let letters ← number "s" "bytes to skip"
  let width ← number "w" "bytes to compare"
  match options.operands.drop 2 with
  | extra :: _ =>
    program.refuse (utf8 "extra operand " ++ Quoting.curly extra)
    return 1
  | [] =>
    let path := options.operands.head?.getD ownInput
    match ← program.inputOf path with
    | .error (.unopened errno) =>
      program.complainOf (Quoting.whenNeeded path) errno
      return 1
    | .error (.unread errno) =>
      program.complainOf (utf8 "error reading " ++ Quoting.always path) errno
      return 1
    | .ok text =>
      let ending : UInt8 := if options.has "z" then 0 else 0x0a
      let keyOf (line : Bytes) : Bytes :=
        let rest := (SortKey.skipFields none fields line).drop letters
        let rest := if options.has "w" then rest.take width else rest
        if options.has "i" then rest.map Printing.lower else rest
      let all := groups keyOf (Bytes.lines ending text)
      let line (count : Nat) (text : Bytes) : Bytes :=
        (if options.has "c" then rightAligned 7 (numeral count) ++ [0x20] else []) ++ text ++ [ending]
      let shown : Bytes :=
        if options.has "D" then
          let separated := (options.value? "D").any (!·.isEmpty)
          let parts := (all.filter (·.length > 1)).map fun group => group.flatMap (· ++ [ending])
          if separated then Bytes.joinWith [ending] parts else parts.flatten
        else if options.has "group" then Bytes.joinWith [ending] (all.map fun group => group.flatMap (· ++ [ending]))
        else all.flatMap fun group =>
          let isWanted := if options.has "d" && options.has "u" then false
            else if options.has "d" then group.length > 1 else if options.has "u" then group.length == 1 else true
          if isWanted then line group.length (group.head?.getD []) else []
      match (options.operands.drop 1).head?.filter (· != ownInput) with
      | none =>
        program.print shown
        return 0
      | some target =>
        match ← program.writeFile target (← program.allowed 0o666) shown with
        | .ok () => return 0
        | .error fault =>
          program.complainOf (Quoting.whenNeeded target) fault.errno
          return 1

/-! ### Two sorted inputs -/

/-- A line of two inputs: only in one of them, or in both. -/
inductive Side where
  | first (line : Bytes)
  | second (line : Bytes)
  | both (line : Bytes)

/-- Go along two sorted inputs. -/
def merged : Nat → List Bytes → List Bytes → List Side
  | 0, _, _ => []
  | _ + 1, [], others => others.map .second
  | _ + 1, lines, [] => lines.map .first
  | fuel + 1, line :: lines, other :: others =>
    if line == other then .both line :: merged fuel lines others
    else if Bytes.precedes line other then .first line :: merged fuel lines (other :: others)
    else .second other :: merged fuel (line :: lines) others

def isSorted : List Bytes → Bool
  | first :: second :: rest => Bytes.precedes first second && isSorted (second :: rest)
  | _ => true

def common (program : Program) : Deed Nat :=
  program.withOptions ⟨"123z", [("check-order", .flag, "check"), ("nocheck-order", .flag, "nocheck"),
    ("output-delimiter", .valued, "output"), ("total", .flag, "total"), ("zero-terminated", .flag, "z")], true⟩ 1
    fun options => program.withExactly 2 options do
  let ending : UInt8 := if options.has "z" then 0 else 0x0a
  let paths := options.operands
  let mut texts : List (List Bytes) := []
  for path in paths do
    match ← program.plainInput path with
    | none => return 1
    | some text => texts := texts ++ [Bytes.lines ending text]
  let first := texts.head?.getD []
  let second := texts.getLast?.getD []
  let separator := ((options.value? "output").map fun text => if text.isEmpty then [0] else text).getD [0x09]
  let sides := merged (first.length + second.length + 1) first second
  let one := !options.has "1"
  let two := !options.has "2"
  let lead (columns : List Bool) : Bytes := (columns.filter id).flatMap fun _ => separator
  program.print (sides.flatMap fun side => match side with
    | .first line => if one then line ++ [ending] else []
    | .second line => if two then lead [one] ++ line ++ [ending] else []
    | .both line => if options.has "3" then [] else lead [one, two] ++ line ++ [ending])
  if options.has "total" then
    let count (isMeant : Side → Bool) : Bytes := numeral (sides.countP isMeant)
    program.print (Bytes.joinWith separator [count fun side => match side with
        | .first _ => true
        | _ => false, count fun side => match side with
        | .second _ => true
        | _ => false, count fun side => match side with
        | .both _ => true
        | _ => false, utf8 "total"] ++ [ending])
  if options.has "nocheck" then return 0
  let mut code := 0
  for (lines, number) in [(second, 2), (first, 1)] do
    if !isSorted lines && !(first == second) then
      program.complain (utf8 s!"file {number} is not in sorted order")
      code := 1
  if code == 1 && !options.has "check" then program.complain (utf8 "input is not in sorted order")
  return code

/-- The fields of a line. -/
def fieldsOf (separator : Option UInt8) (line : Bytes) : List Bytes :=
  match separator with
  | some separator => Bytes.split separator line
  | none =>
    ((line.foldr (fun byte (parts : List Bytes) =>
      if SortKey.isBlank byte then [] :: parts
      else match parts with
        | part :: parts => (byte :: part) :: parts
        | [] => [[byte]]) [[]])).filter (!·.isEmpty)

/-- A field of a joined line: the common one, or one of an input. -/
inductive JoinField where
  | key
  | field (input number : Nat)

/-- The fields of a list such as `1.2,0`. -/
def joinFields? (text : Bytes) : Option (List JoinField) :=
  ((fieldsOf none (text.map fun byte => if byte == 0x2c then 0x20 else byte)).mapM fun (part : Bytes) => match part with
    | [0x30] => some JoinField.key
    | 0x31 :: 0x2e :: digits => if digits.all Printing.isDecimal then some (.field 1 (Printing.digits 10 digits)) else none
    | 0x32 :: 0x2e :: digits => if digits.all Printing.isDecimal then some (.field 2 (Printing.digits 10 digits)) else none
    | _ => none)

/-- A line with its fields and the one by which it is joined. -/
structure Joined where
  key : Bytes
  fields : List Bytes

/-- Go along two inputs in the order of their keys, those with equal keys taken
in all pairs. -/
def pairs : Nat → List Joined → List Joined → List (Option Joined × Option Joined)
  | 0, _, _ => []
  | _ + 1, [], others => others.map fun other => (none, some other)
  | _ + 1, lines, [] => lines.map fun line => (some line, none)
  | fuel + 1, line :: lines, other :: others =>
    if line.key == other.key then
      let same := (line :: lines).takeWhile (·.key == line.key)
      let sameOthers := (other :: others).takeWhile (·.key == line.key)
      (same.flatMap fun one => sameOthers.map fun two => (some one, some two)) ++
        pairs fuel ((line :: lines).drop same.length) ((other :: others).drop sameOthers.length)
    else if Bytes.precedes line.key other.key then (some line, none) :: pairs fuel lines (other :: others)
    else (none, some other) :: pairs fuel (line :: lines) others

/-- How many lines of two inputs were read before it was seen that one of them
stands alone. -/
def seenBefore (joined : List (Option Joined × Option Joined)) (first second : List Joined) : Nat × Nat :=
  let paired := joined.takeWhile fun (one, other) => one.isSome && other.isSome
  let keys := paired.filterMap fun (one, _) => one.map (·.key)
  let firstPaired := (first.takeWhile fun line => keys.contains line.key).length
  let secondPaired := (second.takeWhile fun line => keys.contains line.key).length
  match joined.drop paired.length with
  | (some _, none) :: _ => (firstPaired + 1, secondPaired)
  | (none, some _) :: _ => (firstPaired, secondPaired + 1)
  | _ => (first.length, second.length)

def join (program : Program) : Deed Nat :=
  program.withOptions ⟨"a:e:i1:2:j:o:t:v:z", [("ignore-case", .flag, "i"), ("header", .flag, "header"),
    ("check-order", .flag, "check"), ("nocheck-order", .flag, "nocheck"), ("zero-terminated", .flag, "z")], true⟩ 1
    fun options => program.withExactly 2 options do
  let wrong := (["1", "2", "j"].filterMap options.value?).find? fun text =>
    text.isEmpty || !text.all Printing.isDecimal || Printing.digits 10 text == 0
  if let some text := wrong then
    program.complain (utf8 "invalid field number: " ++ Quoting.curly text)
    return 1
  let keyField (key : String) : Nat := (((options.value? key).or (options.value? "j")).map (Printing.digits 10)).getD 1
  let separator := (options.value? "t").bind (·.head?)
  let isWhole := options.value? "t" == some []
  let read (path : Bytes) (number : Nat) : Deed (List Joined) := do
    match ← program.plainInput path with
    | none => program.exit 1
    | some text => return (Bytes.lines 0x0a text).map fun line =>
      let fields := if isWhole then [line] else fieldsOf separator line
      let key := fields[number - 1]?.getD []
      ⟨if options.has "i" then key.map Printing.lower else key, fields⟩
  let paths := options.operands
  let firstNumber := keyField "1"
  let secondNumber := keyField "2"
  let first ← read (paths.head?.getD []) firstNumber
  let second ← read (paths.getLast?.getD []) secondNumber
  let empty := (options.value? "e").getD []
  let output : List Bytes → Bytes := Bytes.joinWith [separator.getD 0x20]
  let list? := (options.value? "o").bind joinFields?
  let isAuto := options.value? "o" == some (utf8 "auto")
  let widthOf (lines : List Joined) : Nat := (lines.head?.map (·.fields.length)).getD 0
  let others (number width : Nat) (line : Option Joined) : List Bytes :=
    match line with
    | some line =>
      let fields := (line.fields.zipIdx.filter (·.2 + 1 != number)).map (·.1)
      if isAuto then (fields ++ List.replicate (width - 1 - fields.length) []).map fun (field : Bytes) =>
        if field.isEmpty then empty else field else fields
    | none => if isAuto then List.replicate (width - 1) empty else []
  let lineOf (one other : Option Joined) : Bytes :=
    let key := match one, other with
      | some one, _ => one.fields[firstNumber - 1]?.getD []
      | none, some other => other.fields[secondNumber - 1]?.getD []
      | none, none => []
    let parts := match list? with
      | some list => list.map fun field =>
        let value := match field with
          | .key => key
          | .field 1 number => (one.bind (·.fields[number - 1]?)).getD []
          | .field _ number => (other.bind (·.fields[number - 1]?)).getD []
        if value.isEmpty then empty else value
      | none => key :: others firstNumber (widthOf first) one ++ others secondNumber (widthOf second) other
    output parts ++ [0x0a]
  let alone (number : Nat) : Bool := (options.values "a" ++ options.values "v").elem (numeral number)
  let onlyAlone := options.has "v"
  program.print ((pairs (first.length + second.length + 1) first second).flatMap fun (one, other) =>
    match one, other with
    | some _, some _ => if onlyAlone then [] else lineOf one other
    | some _, none => if alone 1 then lineOf one other else []
    | none, _ => if alone 2 then lineOf one other else [])
  if options.has "nocheck" then return 0
  -- the order is looked at only from the first line on that stands alone
  let (firstSeen, secondSeen) := if options.has "check" then (0, 0) else
    seenBefore (pairs (first.length + second.length + 1) first second) first second
  let mut sound := true
  for (path, lines, seen) in [(paths.head?.getD [], first, firstSeen), (paths.getLast?.getD [], second, secondSeen)] do
    let unsorted? := ((lines.zip (lines.drop 1)).zipIdx.drop seen).find? fun ((one, other), _) =>
      !Bytes.precedes one.key other.key
    if let some ((_, line), index) := unsorted? then
      program.complain (Quoting.whenNeeded path ++ utf8 s!":{index + 2}: is not sorted: " ++ output line.fields)
      sound := false
  if !sound && !options.has "check" then program.complain (utf8 "input is not in sorted order")
  return if sound then 0 else 1

end Program
end ExitParity
