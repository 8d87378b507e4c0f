import ExitParity.Host.Applets.Inputs
import ExitParity.Host.Letters

/-! The program that translates, squeezes and deletes bytes. -/

namespace ExitParity.Program

/-- One member of a set of bytes. -/
inductive SetItem where
  | plain (members : Bytes)
  | class_ (name : String)
  | fill (byte : UInt8) (count : Nat)

/-- A byte of a set, with what stands behind it. -/
def setByte : Bytes → UInt8 × Bytes
  | 0x5c :: rest =>
    let octal := (rest.take 3).takeWhile Printing.isOctal
    match rest with
    | [] => (0x5c, [])
    | letter :: more =>
      if !octal.isEmpty then ((Printing.digits 8 octal).toUInt8, rest.drop octal.length)
      else ((Printing.escaped? letter).getD letter, more)
  | byte :: rest => (byte, rest)
  | [] => (0, [])

/-- The members of a set such as `a-z`, `[:alpha:]` or `[x*3]`, or what is wrong. -/
def setItems : Nat → Bytes → Except Bytes (List SetItem)
  | 0, _ => .ok []
  | _, [] => .ok []
  | fuel + 1, text => do
    let class? : Option (String × Bytes) := match text with
      | 0x5b :: 0x3a :: rest =>
        let name := rest.takeWhile (· != 0x3a)
        match rest.drop name.length with
        | 0x3a :: 0x5d :: after => some (Utf8.display name, after)
        | _ => none
      | _ => none
    match class? with
    | some (name, after) =>
      if (Letters.class? name).isNone then throw (utf8 "invalid character class " ++ Quoting.curly (utf8 name))
      return .class_ name :: (← setItems fuel after)
    | none =>
      let fill? : Option (UInt8 × Nat × Bytes) := match text with
        | 0x5b :: rest =>
          let (byte, rest) := setByte rest
          match rest with
          | 0x2a :: rest =>
            let digits := rest.takeWhile Printing.isDecimal
            let value := Printing.digits (if digits.head? == some 0x30 then 8 else 10) digits
            if (rest.drop digits.length).head? == some 0x5d then some (byte, value, rest.drop (digits.length + 1)) else none
          | 0x3d :: _ => none
          | _ => none
        | _ => none
      let equal? : Option (UInt8 × Bytes) := match text with
        | 0x5b :: 0x3d :: byte :: 0x3d :: 0x5d :: rest => some (byte, rest)
        | _ => none
      match equal?, fill? with
      | some (byte, after), _ => return .plain [byte] :: (← setItems fuel after)
      | none, some (byte, count, after) => return .fill byte count :: (← setItems fuel after)
      | none, none =>
        let (low, rest) := setByte text
        match rest with
        | 0x2d :: next :: more =>
          let (high, after) := setByte (next :: more)
          if high < low then
            throw (utf8 "range-endpoints of " ++ Quoting.curly (low :: 0x2d :: [high]) ++
              utf8 " are in reverse collating sequence order")
          let range := (List.range (high.toNat + 1 - low.toNat)).map fun index => (low.toNat + index).toUInt8
          return .plain range :: (← setItems fuel after)
        | rest => return .plain [low] :: (← setItems fuel rest)

/-- The bytes of a class in order. -/
def classBytes (name : String) : Bytes :=
  ((List.range 128).filter ((Letters.class? name).getD fun _ => false)).map (·.toUInt8)

def SetItem.content : SetItem → Bytes
  | .plain members => members
  | .class_ name => classBytes name
  | .fill byte count => List.replicate count byte

/-- The bytes of the second set, filled up to the length of the first one where
that is asked for. -/
def secondSet (items : List SetItem) (length : Nat) : Bytes :=
  let known := (items.map (·.content.length)).foldl (· + ·) 0
  items.flatMap fun item => match item with
    | .fill byte 0 => List.replicate (length - known) byte
    | item => item.content

/-- Keep one of equal neighbours that are in a set. The one kept last goes on to
the next piece of a text. -/
def squeeze (set : Bytes) (before : Option UInt8) (text : Bytes) : Bytes × Option UInt8 :=
  let (kept, last) := text.foldl (fun ((kept, last) : Bytes × Option UInt8) byte =>
    if last == some byte && set.elem byte then (kept, last) else (byte :: kept, some byte)) ([], before)
  (kept.reverse, last)

def translate (program : Program) : Deed Nat :=
  program.withOptions ⟨"cCdst", [("complement", .flag, "c"), ("delete", .flag, "d"), ("squeeze-repeats", .flag, "s"),
    ("truncate-set1", .flag, "t")], false⟩ 1 fun options => do
  let deletes := options.has "d"
  let squeezes := options.has "s"
  let refuse (text : Bytes) (more : String) : Deed Nat := do
    program.complain text
    if more != "" then
      let _ ← program.write 2 (utf8 (more ++ "\n"))
    let _ ← program.write 2 (utf8 "Try '" ++ program.name ++ utf8 " --help' for more information.\n")
    return 1
  let translates := !deletes && (options.operands.length > 1 || !squeezes)
  let needed := if deletes == squeezes then 2 else 1
  match options.operands with
  | [] => refuse (utf8 "missing operand") ""
  | first :: others =>
    if options.operands.length < needed && !(squeezes && !deletes) then
      return ← refuse (utf8 "missing operand after " ++ Quoting.curly first)
        (if squeezes then "Two strings must be given when both deleting and squeezing repeats." else
          "Two strings must be given when translating.")
    let most := if deletes && !squeezes then 1 else 2
    match options.operands.drop most with
    | extra :: _ =>
      return ← refuse (utf8 "extra operand " ++ Quoting.curly extra) (if deletes && !squeezes && others.length == 1 then
        "Only one string may be given when deleting without squeezing repeats." else "")
    | [] =>
      let second := others.head?
      match setItems (first.length + 1) first, second.mapM fun text => setItems (text.length + 1) text with
      | .error text, _ | _, .error text =>
        program.complain text
        return 1
      | .ok firstItems, .ok secondItems? =>
        let plain := firstItems.flatMap (·.content)
        let set := if options.any ["c", "C"] then
          ((List.range 256).map (·.toUInt8)).filter fun byte => !plain.elem byte else plain
        let other := secondItems?.map (secondSet · set.length)
        if translates && other == some [] && !options.has "t" then
          program.complain (utf8 "when not truncating set1, string2 must be non-empty")
          return 1
        let target := other.getD []
        let table : Array UInt8 := (Array.range 256).map fun value =>
          match set.findIdx? (·.toNat == value) with
          | some index =>
            if options.has "t" then target[index]?.getD value.toUInt8
            else ((target[index]?).or target.getLast?).getD value.toUInt8
          | none => value.toUInt8
        let squeezed := other.getD set
        let result ← program.eachPiece 0 (fun last piece => do
          let text := if deletes then piece.filter (!set.elem ·)
            else if translates then piece.map fun byte => table[byte.toNat]?.getD byte
            else piece
          let (text, last) := if squeezes then squeeze squeezed last text else (text, last)
          program.print text
          return some last) endless none
        match result with
        | .ok _ => return 0
        | .error errno =>
          program.complainOf (utf8 "read error") errno
          return 1

end ExitParity.Program
