import ExitParity.Host.Applets.Inputs
import ExitParity.Host.Condition
import ExitParity.Host.Formatted

/-! The programs that print what they are given, and the one that decides. -/

namespace ExitParity.Program

/-! ### Words -/

def echo (program : Program) : Deed Nat :=
  program.answering do
    program.print (Printing.systemEchoed false false program.args)
    return 0

def printFormatted (program : Program) : Deed Nat :=
  program.answering do
    let args := if program.args.head? == some (utf8 "--") then program.args.drop 1 else program.args
    match args with
    | [] =>
      program.refuse (utf8 "missing operand")
      return 1
    | format :: args =>
      let printed := Printing.formatted Printing.ofSystem format (args.length + 1) args
      program.print printed.text
      for complaint in printed.complaints ++ printed.remark.toList ++ printed.fault.toList do
        program.complain complaint
      return if printed.complaints.isEmpty && printed.fault.isNone then 0 else 1

/-- Print a line again and again. -/
def repeatLine (program : Program) (text : Bytes) : Nat → Deed Nat
  | 0 => return 0
  | fuel + 1 => do
    match ← program.write 1 text with
    | .ok () => program.repeatLine text fuel
    | .error errno =>
      program.complainOf (utf8 "standard output") errno
      return 1

def yes (program : Program) : Deed Nat :=
  program.answering do
    let args := if program.args.head? == some (utf8 "--") then program.args.drop 1 else program.args
    let line := (if args.isEmpty then utf8 "y" else Bytes.joinWith [0x20] args) ++ [0x0a]
    program.repeatLine (List.replicate (8192 / line.length + 1) line).flatten endless

def workingDirectory (program : Program) : Deed Nat :=
  program.withOptions ⟨"LP", [("logical", .flag, "L"), ("physical", .flag, "P")], true⟩ 1 fun options => do
  let tree ← program.tree
  if !options.operands.isEmpty then program.complain (utf8 "ignoring non-option arguments")
  let told := ((program.valueOf? (utf8 "PWD")).filter fun path =>
    path.head? == some Path.slash && !(Bytes.split Path.slash path).any (fun name => name == Path.dot || name == Path.dotdot) &&
      (tree.number ⟨path⟩).toOption == some tree.cwd)
  let path := if options.last? ["L", "P"] == some "L" then told.getD tree.workingPath else tree.workingPath
  program.print (path ++ [0x0a])
  return 0

def printEnvironment (program : Program) : Deed Nat :=
  program.withOptions ⟨"0", [("null", .flag, "0")], false⟩ 2 fun options => do
  let ending : UInt8 := if options.has "0" then 0 else 0x0a
  let entries := if options.operands.isEmpty then program.env.map fun (name, value) => name ++ 0x3d :: value
    else options.operands.filterMap program.valueOf?
  program.print (entries.flatMap (· ++ [ending]))
  return if entries.length == options.operands.length || options.operands.isEmpty then 0 else 1

/-! ### Names -/

/-- The name behind the last separator, without an ending. -/
def baseName (path ending : Bytes) : Bytes :=
  let trimmed := (path.reverse.dropWhile (· == Path.slash)).reverse
  let name := (trimmed.reverse.takeWhile (· != Path.slash)).reverse
  if trimmed.isEmpty then path.take 1
  else if name == ending then name
  else (Bytes.stripSuffix? ending name).getD name

def baseNames (program : Program) : Deed Nat :=
  program.withOptions ⟨"as:z", [("multiple", .flag, "a"), ("suffix", .valued, "s"), ("zero", .flag, "z")], false⟩ 1
    fun options => do
  let line : Bytes := if options.has "z" then [0] else [0x0a]
  let ending := (options.value? "s").getD []
  match options.operands with
  | [] =>
    program.refuse (utf8 "missing operand")
    return 1
  | path :: rest =>
    if options.any ["a", "s"] then
      program.print ((path :: rest).flatMap fun path => baseName path ending ++ line)
      return 0
    match rest with
    | _ :: extra :: _ =>
      program.refuse (utf8 "extra operand " ++ Quoting.curly extra)
      return 1
    | rest =>
      program.print (baseName path (rest.head?.getD []) ++ line)
      return 0

/-- The path up to the last name. -/
def directoryName (path : Bytes) : Bytes :=
  let trimmed := (path.reverse.dropWhile (· == Path.slash)).reverse
  let before := (trimmed.reverse.dropWhile (· != Path.slash)).dropWhile (· == Path.slash) |>.reverse
  if !before.isEmpty then before
  else if path.head? == some Path.slash then [Path.slash]
  else Path.dot

def directoryNames (program : Program) : Deed Nat :=
  program.withOptions ⟨"z", [("zero", .flag, "z")], false⟩ 1 fun options => do
  if options.operands.isEmpty then
    program.refuse (utf8 "missing operand")
    return 1
  program.print (options.operands.flatMap fun path => directoryName path ++ if options.has "z" then [0] else [0x0a])
  return 0

/-! ### Numbers -/

/-- A number in decimal digits: so many parts of a power of ten, with the
number of places behind the mark and the width that it was written with. -/
structure Decimal where
  value : Int
  places : Nat
  width : Nat

/-- A number such as `12`, `-0.5` or `1e3`. -/
def decimal? (text : Bytes) : Option Decimal :=
  let (negative, unsigned) := match text with
    | 0x2d :: rest => (true, rest)
    | 0x2b :: rest => (false, rest)
    | rest => (false, rest)
  let whole := unsigned.takeWhile Printing.isDecimal
  let rest := unsigned.drop whole.length
  let fraction := match rest with
    | 0x2e :: after => after.takeWhile Printing.isDecimal
    | _ => []
  let rest := if rest.head? == some 0x2e then rest.drop (fraction.length + 1) else rest
  if whole.isEmpty && fraction.isEmpty then none
  else
    let (power, rest) := Floating.powerOf 0x65 rest
    let value : Int := Printing.digits 10 (whole ++ fraction)
    let places := max ((fraction.length : Int) - power) 0
    let value := value * 10 ^ (max (power - fraction.length) 0).toNat
    let width := (if negative then 1 else 0) + max whole.length 1 + (if places > 0 then places.toNat + 1 else 0)
    if rest.isEmpty && power.natAbs ≤ 4000 then some ⟨if negative then -value else value, places.toNat, width⟩ else none

/-- The value of a number in parts of a finer power of ten. -/
def Decimal.scaled (number : Decimal) (places : Nat) : Int := number.value * 10 ^ (places - number.places)

/-- The written form of a value in parts of a power of ten. -/
def decimalText (places width : Nat) (value : Int) : Bytes :=
  let sign : Bytes := if value < 0 then [0x2d] else []
  let bare := Floating.marked false value.natAbs places
  sign ++ List.replicate (width - sign.length - bare.length) 0x30 ++ bare

/-- How a format shows a number: the text in front, the directive, and the text
behind. -/
structure NumberFormat where
  before : Bytes
  directive : Printing.Directive
  after : Bytes

/-- Take the text up to a directive, with doubled percent signs made single. -/
def plainPart : Nat → Bytes → Bytes × Bytes
  | fuel + 1, 0x25 :: 0x25 :: rest =>
    let (before, rest) := plainPart fuel rest
    (0x25 :: before, rest)
  | _, 0x25 :: rest => ([], 0x25 :: rest)
  | fuel + 1, byte :: rest =>
    let (before, rest) := plainPart fuel rest
    (byte :: before, rest)
  | _, rest => ([], rest)

/-- Read a format with one directive. -/
def numberFormat (format : Bytes) : Except Bytes NumberFormat :=
  let (before, rest) := plainPart (format.length + 1) format
  match rest with
  | 0x25 :: rest =>
    let (directive, after, _) := Printing.readDirective Printing.ofSystem rest []
    let (ending, more) := plainPart (after.length + 1) after
    if directive.letter == 0 then .error (utf8 "format " ++ Quoting.curly format ++ utf8 " ends in %")
    else if !(utf8 "efga").elem (Printing.lower directive.letter) then
      .error (utf8 "format " ++ Quoting.curly format ++ utf8 " has unknown %" ++ directive.letter :: utf8 " directive")
    else if !more.isEmpty then .error (utf8 "format " ++ Quoting.curly format ++ utf8 " has too many % directives")
    else .ok ⟨before, directive, ending⟩
  | _ => .error (utf8 "format " ++ Quoting.curly format ++ utf8 " has no % directive")

def NumberFormat.show_ (format : NumberFormat) (places : Nat) (value : Int) : Bytes :=
  let number := Floating.ofQuotient .extended (value < 0) value.natAbs (10 ^ places)
  format.before ++ number.format format.directive ++ format.after

/-- How many numbers are printed at a time. -/
def numberBatch : Nat := 64

/-- Count from a number to another one, a batch at a time, and tell the next
number when the batch is full. -/
def countOn (last step : Int) : Nat → Int → List Int → List Int × Option Int
  | 0, value, before => (before.reverse, some value)
  | fuel + 1, value, before =>
    if (step > 0 && value > last) || (step < 0 && value < last) then (before.reverse, none)
    else countOn last step fuel (value + step) (value :: before)

/-- Print numbers with separators in front of all but the first one. -/
def printCounting (program : Program) (show_ : Int → Bytes) (separator : Bytes) (last step : Int) :
    Nat → Bool → Int → Deed Unit
  | 0, _, _ => return ()
  | fuel + 1, isFirst, value => do
    let (values, next) := countOn last step numberBatch value []
    let text := values.flatMap fun value => separator ++ show_ value
    program.print (if isFirst then text.drop separator.length else text)
    match next with
    | some value => program.printCounting show_ separator last step fuel (isFirst && values.isEmpty) value
    | none => if !(isFirst && values.isEmpty) then program.print [0x0a]

/-- The arguments of `seq`, with a negative number taken for no option. -/
def guardNumbers : List Bytes → List Bytes
  | [] => []
  | arg :: rest =>
    match arg with
    | 0x2d :: digit :: _ =>
      if Printing.isDecimal digit || digit == 0x2e then utf8 "--" :: arg :: rest
      else if [utf8 "-f", utf8 "-s"].elem arg then arg :: rest.take 1 ++ guardNumbers (rest.drop 1)
      else arg :: guardNumbers rest
    | _ => arg :: rest
termination_by args => args.length
decreasing_by all_goals simp only [List.length_drop, List.length_cons]; omega

def numberSequence (program : Program) : Deed Nat :=
  let program := { program with argv := program.name :: guardNumbers program.args }
  program.withOptions ⟨"f:s:w", [("format", .valued, "f"), ("separator", .valued, "s"), ("equal-width", .flag, "w")], false⟩ 1
    fun options => do
  let refuse (text : Bytes) : Deed Nat := do
    program.refuse text
    return 1
  match options.operands.drop 3, options.operands.find? fun arg => (decimal? arg).isNone with
  | extra :: _, _ => refuse (utf8 "extra operand " ++ Quoting.curly extra)
  | [], some wrong => refuse (utf8 "invalid floating point argument: " ++ Quoting.curly wrong)
  | [], none =>
    let one : Decimal := ⟨1, 0, 1⟩
    let range? : Option (Decimal × Decimal × Decimal) := match options.operands.filterMap decimal? with
      | [last] => some (one, one, last)
      | [first, last] => some (first, one, last)
      | [first, step, last] => some (first, step, last)
      | _ => none
    match range? with
    | none => refuse (utf8 "missing operand")
    | some (first, step, last) =>
      if step.value == 0 then
        return ← refuse (utf8 "invalid Zero increment value: " ++ Quoting.curly (options.operands[1]?.getD []))
      if options.has "w" && options.has "f" then
        return ← refuse (utf8 "format string may not be specified when printing equal width strings")
      let places := max first.places step.places
      let scale := max places last.places
      let mark (number : Decimal) : Nat := if number.places == 0 && places > 0 then 1 else 0
      let firstWidth := first.width + (places - first.places) + mark first
      let lastWidth := (last.width + places + mark last) - last.places - if last.places > 0 && places == 0 then 1 else 0
      let width := if options.has "w" then max firstWidth lastWidth else 0
      let unit : Int := 10 ^ (scale - places)
      let shown : Except Bytes (Int → Bytes) := match options.value? "f" with
        | none => .ok fun value => decimalText places width (value / unit)
        | some text => (numberFormat text).map fun format value => format.show_ scale value
      match shown with
      | .error complaint =>
        program.complain complaint
        return 1
      | .ok show_ =>
        program.printCounting show_ ((options.value? "s").getD [0x0a]) (last.scaled scale) (step.scaled scale) endless true
          (first.scaled scale)
        return 0

/-! ### Conditions -/

def test (program : Program) : Deed Nat := do
  let bracketed := program.shortName == utf8 "["
  if bracketed && program.args == [utf8 "--version"] then
    program.print program.versionText
    return 0
  if bracketed && program.args.getLast? != some [0x5d] then
    program.complain (utf8 "missing " ++ Quoting.curly (utf8 "]"))
    return 2
  let words := if bracketed then program.args.dropLast else program.args
  match Condition.holds ⟨← program.tree, false⟩ (words.length + 1) words with
  | .ok value => return if value then 0 else 1
  | .error complaint =>
    program.complain complaint.systemMessage
    return 2

end ExitParity.Program
