import ExitParity.Host.Applets.Inputs

/-! The program that cuts parts out of lines. -/

namespace ExitParity.Program

/-- A range of places, perhaps without an end. -/
structure PlaceRange where
  first : Nat
  last : Option Nat

/-- What is wrong with a list of places. -/
inductive PlaceFault where
  | zero
  | decreasing
  | invalid (text : Bytes)
  | endless

/-- The ranges of a list such as `1,3-5`. -/
def placesOf (list : Bytes) : Except PlaceFault (List PlaceRange) :=
  (Bytes.lines 0x2c (list.map fun byte => if byte == 0x20 || byte == 0x09 then 0x2c else byte)).mapM fun range => do
    let low := range.takeWhile Printing.isDecimal
    let rest := range.drop low.length
    let first := if low.isEmpty then 1 else Printing.digits 10 low
    match rest with
    | [] =>
      if low.isEmpty then throw .zero
      if first == 0 then throw .zero
      return ⟨first, some first⟩
    | 0x2d :: high =>
      if !high.all Printing.isDecimal then throw (.invalid range)
      if first == 0 then throw .zero
      if high.isEmpty then
        if low.isEmpty then throw .endless
        return ⟨first, none⟩
      let last := Printing.digits 10 high
      if last < first then throw .decreasing
      return ⟨first, some last⟩
    | _ => throw (.invalid range)

def PlaceRange.contains (range : PlaceRange) (place : Nat) : Bool :=
  range.first ≤ place && range.last.all (place ≤ ·)

def cut (program : Program) : Deed Nat :=
  program.withOptions ⟨"b:c:d:f:nsz", [("bytes", .valued, "b"), ("characters", .valued, "c"), ("delimiter", .valued, "d"),
    ("fields", .valued, "f"), ("only-delimited", .flag, "s"), ("complement", .flag, "complement"),
    ("output-delimiter", .valued, "output"), ("zero-terminated", .flag, "z")], true⟩ 1 fun options => do
  let lists := options.given.filter fun option => ["b", "c", "f"].contains option.1
  let refuse (text : Bytes) : Deed Nat := do
    program.refuse text
    return 1
  let byFields := options.has "f"
  match lists with
  | [] => refuse (utf8 "you must specify a list of bytes, characters, or fields")
  | [(_, list)] =>
    if !byFields && options.has "d" then
      return ← refuse (utf8 "an input delimiter may be specified only when operating on fields")
    if !byFields && options.has "s" then
      return ← refuse (utf8 "suppressing non-delimited lines makes sense\n\tonly when operating on fields")
    let separator := (options.value? "d").getD [0x09]
    if separator.length > 1 then return ← refuse (utf8 "the delimiter must be a single character")
    let separator := separator.head?.getD 0
    match placesOf list with
    | .error .zero =>
      refuse (utf8 (if byFields then "fields are numbered from 1" else "byte/character positions are numbered from 1"))
    | .error .decreasing => refuse (utf8 "invalid decreasing range")
    | .error .endless => refuse (utf8 "invalid range with no endpoint: -")
    | .error (.invalid text) =>
      refuse (utf8 (if byFields then "invalid field value " else "invalid byte or character position ") ++
        Quoting.curly text)
    | .ok ranges =>
      let isWanted (place : Nat) : Bool := (ranges.any (·.contains place)) != options.has "complement"
      let output := (options.value? "output").getD (if byFields then [separator] else [])
      let runs (places : List Nat) : List Nat :=
        (places.zip (places.drop 1)).filterMap fun (one, other) => if other == one + 1 then none else some other
      let cutLine (line : Bytes) : Option Bytes :=
        if byFields then
          let fields := Bytes.split separator line
          if fields.length == 1 then if options.has "s" then none else some line
          else some (Bytes.joinWith output ((fields.zipIdx.filter fun (_, index) => isWanted (index + 1)).map (·.1)))
        else
          let kept := line.zipIdx.filter fun (_, index) => isWanted (index + 1)
          let breaks := if output.isEmpty then [] else runs (kept.map (·.2))
          some (kept.flatMap fun (byte, index) => (if breaks.contains index then output else []) ++ [byte])
      let ending : UInt8 := if options.has "z" then 0 else 0x0a
      program.eachText (inputs options.operands) fun text =>
        program.print (((Bytes.lines ending text).filterMap cutLine).flatMap (· ++ [ending]))
  | _ => refuse (utf8 "only one list may be specified")

end ExitParity.Program
