import ExitParity.Host.Applets.Inputs
import ExitParity.Host.Digest

/-! The programs that tell checksums and digests of files. -/

namespace ExitParity

/-- A checksum or a digest that files are known by. -/
structure Fingerprint where
  name : String
  length : Nat
  make : Bytes → Bytes

namespace Fingerprint

def digests : List (String × Fingerprint) := [
  ("md5", ⟨"MD5", 32, Digest.md5⟩), ("sha1", ⟨"SHA1", 40, Digest.sha1⟩), ("sha224", ⟨"SHA224", 56, Digest.sha224⟩),
  ("sha256", ⟨"SHA256", 64, Digest.sha256⟩), ("sha384", ⟨"SHA384", 96, Digest.sha384⟩),
  ("sha512", ⟨"SHA512", 128, Digest.sha512⟩)]

def of (fingerprint : Fingerprint) (text : Bytes) : Bytes := Digest.hexadecimal (fingerprint.make text)

/-- A name with its newlines and backslashes written out, and whether it has any. -/
def escaped (name : Bytes) : Bytes × Bool :=
  (name.flatMap fun byte => if byte == 0x0a then utf8 "\\n" else if byte == 0x5c then utf8 "\\\\" else if byte == 0x0d then
    utf8 "\\r" else [byte], name.any fun byte => byte == 0x0a || byte == 0x5c || byte == 0x0d)

/-- The line for a file. -/
def line (fingerprint : Fingerprint) (tagged : Bool) (binary : Bool) (ending : UInt8) (name text : Bytes) : Bytes :=
  let (shown, isEscaped) := if ending == 0 then (name, false) else escaped name
  (if isEscaped then [0x5c] else []) ++
    (if tagged then utf8 s!"{fingerprint.name} (" ++ shown ++ utf8 ") = " ++ fingerprint.of text
    else fingerprint.of text ++ [0x20, if binary then 0x2a else 0x20] ++ shown) ++ [ending]

/-- The digest and the name in a line that was printed earlier. -/
def read? (fingerprint : Fingerprint) (line : Bytes) : Option (Bytes × Bytes) :=
  let line := if line.head? == some 0x5c then line.drop 1 else line
  let isDigest (text : Bytes) : Bool := text.length == fingerprint.length && text.all (Printing.digitValue · < 16)
  match Bytes.stripPrefix? (utf8 s!"{fingerprint.name} (") line with
  | some rest =>
    let digest := rest.drop (rest.length - fingerprint.length)
    match Bytes.stripSuffix? (utf8 ") = " ++ digest) rest with
    | some name => if isDigest digest then some (digest.map Printing.lower, name) else none
    | none => none
  | none =>
    let digest := line.take fingerprint.length
    match line.drop fingerprint.length with
    | 0x20 :: sign :: name =>
      if isDigest digest && (sign == 0x20 || sign == 0x2a) && !name.isEmpty then some (digest.map Printing.lower, name) else none
    | _ => none

end Fingerprint

namespace Program

/-- What came of checking files. -/
structure Checked where
  listed : Nat
  malformed : Nat
  unread : Nat
  wrong : Nat

def plural (count : Nat) (one many : String) : String := if count == 1 then s!"{count} {one}" else s!"{count} {many}"

/-- Check the files that a list names. -/
def checkList (program : Program) (fingerprint : Fingerprint) (options : Options) (list : Bytes) : Deed Bool := do
  let some text ← program.plainInput list | return false
  let mut checked : Checked := ⟨0, 0, 0, 0⟩
  for line in Bytes.lines 0x0a text do
    match fingerprint.read? line with
    | none =>
      if !line.isEmpty then checked := { checked with malformed := checked.malformed + 1 }
    | some (digest, name) =>
      checked := { checked with listed := checked.listed + 1 }
      match ← program.inputOf name with
      | .error fault =>
        if !options.has "ignore" then
          program.complainOf (Quoting.whenNeeded name) fault.errno
          if !options.has "status" then program.print (name ++ utf8 ": FAILED open or read\n")
          checked := { checked with unread := checked.unread + 1 }
      | .ok content =>
        let isRight := fingerprint.of content == digest
        if !isRight then checked := { checked with wrong := checked.wrong + 1 }
        if !options.has "status" && !(isRight && options.has "quiet") then
          program.print (name ++ utf8 (if isRight then ": OK\n" else ": FAILED\n"))
  if checked.listed == 0 then
    program.flush
    let shown := if list == ownInput then utf8 "'standard input'" else Quoting.whenNeeded list
    program.complain (shown ++ utf8 ": no properly formatted checksum lines found")
    return false
  if !options.has "status" then
    program.flush
    if checked.malformed > 0 then
      program.complain (utf8 s!"WARNING: {plural checked.malformed (isOrAre false) (isOrAre true)} improperly formatted")
    if checked.unread > 0 then
      program.complain (utf8 s!"WARNING: {plural checked.unread listedFile listedFiles} could not be read")
    if checked.wrong > 0 then
      program.complain (utf8 s!"WARNING: {plural checked.wrong checksum checksums} did NOT match")
  return checked.unread == 0 && checked.wrong == 0 && !(options.has "strict" && checked.malformed > 0)
where
  isOrAre (many : Bool) : String := if many then "lines are" else "line is"
  listedFile : String := "listed file"
  listedFiles : String := "listed files"
  checksum : String := "computed checksum"
  checksums : String := "computed checksums"

def fingerprintGrammar : OptionGrammar :=
  ⟨"bctwza:", [("binary", .flag, "b"), ("check", .flag, "c"), ("text", .flag, "t"), ("tag", .flag, "tag"),
    ("zero", .flag, "z"), ("quiet", .flag, "quiet"), ("status", .flag, "status"), ("strict", .flag, "strict"),
    ("warn", .flag, "w"), ("ignore-missing", .flag, "ignore"), ("algorithm", .valued, "a"),
    ("untagged", .flag, "untagged")], true⟩

/-- Tell or check the digests of files. -/
def tellDigests (program : Program) (fingerprint : Fingerprint) (tagged : Bool) (options : Options) : Deed Nat := do
  let paths := inputs options.operands
  if options.has "c" then
    forEach (fun path => program.checkList fingerprint options path) paths
  else
    forEach (fun path => do
      match ← program.plainInput path with
      | some text =>
        program.print (fingerprint.line tagged (options.last? ["b", "t"] == some "b") (if options.has "z" then 0 else 0x0a)
          path text)
        return true
      | none => return false) paths

/-- The digests by the names of the programs that tell them. -/
def fingerprint (program : Program) : Deed Nat :=
  program.withOptions { fingerprintGrammar with letters := "bctwz" } 1 fun options => do
    let name := Utf8.display program.shortName
    match Fingerprint.digests.find? fun (key, _) => name == key ++ "sum" with
    | some (_, found) => program.tellDigests found (options.has "tag") options
    | none => return 1

/-- Tell the checksums and the sizes of files. -/
def checksum (program : Program) : Deed Nat :=
  program.withOptions fingerprintGrammar 1 fun options => do
    let kind := Utf8.display ((options.value? "a").getD (utf8 "crc"))
    match Fingerprint.digests.lookup kind with
    | some found => program.tellDigests found (!options.has "untagged") options
    | none =>
      if kind != "crc" then
        program.refuse (utf8 "invalid argument " ++ Quoting.curly (utf8 kind) ++ utf8 " for " ++ Quoting.curly (utf8 "--algorithm"))
        return 1
      forEach (fun path => do
        match ← program.plainInput path with
        | some text =>
          let name := if path == ownInput && options.operands.isEmpty then [] else 0x20 :: path
          program.print (numeral (Digest.crc text) ++ 0x20 :: numeral text.length ++ name ++ [0x0a])
          return true
        | none => return false) (inputs options.operands)

/-- Tell short checksums and the numbers of blocks of files. -/
def blockSum (program : Program) : Deed Nat :=
  program.withOptions ⟨"rs", [("sysv", .flag, "s")], true⟩ 1 fun options => do
    let folds := options.last? ["r", "s"] == some "s"
    forEach (fun path => do
      match ← program.plainInput path with
      | some text =>
        let name := if path == ownInput && options.operands.isEmpty then [] else 0x20 :: path
        let blocks (size : Nat) : Bytes := numeral ((text.length + size - 1) / size)
        let sum := numeral (Digest.rotated text)
        program.print ((if folds then numeral (Digest.folded text) ++ 0x20 :: blocks 512
          else List.replicate (5 - sum.length) 0x30 ++ sum ++ 0x20 :: rightAligned 5 (blocks 1024)) ++ name ++ [0x0a])
        return true
      | none => return false) (inputs options.operands)

end Program
end ExitParity
