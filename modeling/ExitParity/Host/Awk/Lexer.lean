import ExitParity.Host.Awk.Syntax
import ExitParity.Host.Floating

/-! The pieces that the text of a program is made of. -/

namespace ExitParity.Awk

inductive Token where
  | number (value : Float)
  | text (bytes : Bytes)
  | pattern (source : Bytes)
  /-- A name, and whether a parenthesis stands right behind it. -/
  | name (bytes : Bytes) (calls : Bool)
  | builtin (builtin : Builtin)
  | sign (text : String)
  | lineEnd
  | textEnd
  | fault (fault : Fault)

/-- A token with its line, how it is written, and whether parentheses are open
in front of it. -/
structure Lexeme where
  token : Token
  line : Nat
  spelling : Bytes
  inParentheses : Bool

/-- A text that is being taken apart. -/
structure Scan where
  rest : Bytes
  line : Nat
  parentheses : Nat
  braces : Nat
  former : Option Token

namespace Scan

def keywords : List String :=
  ["BEGIN", "END", "function", "if", "else", "while", "do", "for", "break", "continue", "next", "nextfile", "exit",
    "return", "delete", "in", "getline", "print", "printf"]

def builtins : List (String × Builtin) :=
  [("atan2", .arcTangent), ("close", .close), ("cos", .cosine), ("exp", .exponential), ("fflush", .flush),
    ("gsub", .substituteAll), ("index", .index), ("int", .integer), ("length", .length), ("log", .logarithm),
    ("match", .match_), ("mktime", .timeOf), ("rand", .random), ("sin", .sine), ("split", .split),
    ("sprintf", .format), ("sqrt", .squareRoot), ("srand", .seed), ("strftime", .timeText), ("sub", .substitute),
    ("substr", .substring), ("system", .system), ("systime", .now), ("tolower", .lower), ("toupper", .upper)]

/-- The signs of two letters. -/
def pairs : List String :=
  ["==", "!=", "<=", ">=", "&&", "||", "++", "--", "+=", "-=", "*=", "/=", "%=", "^=", "!~", ">>"]

def singles : List String :=
  ["+", "-", "*", "/", "%", "^", "!", ">", "<", "|", "?", ":", "~", "$", "=", ",", ";", "(", ")", "[", "]", "\x7b", "\x7d"]

/-- The signs behind which lines may end. -/
def joining : List String := ["\x7b", ";", ",", "&&", "||", "do", "else"]

/-- Pass over blanks and remarks, and over ends of lines where they may be. -/
def skip (overLines : Bool) : Nat → Scan → Scan
  | 0, scan => scan
  | fuel + 1, scan =>
    match scan.rest with
    | 0x20 :: rest | 0x09 :: rest | 0x0d :: rest => skip overLines fuel { scan with rest }
    | 0x5c :: 0x0a :: rest => skip overLines fuel { scan with rest, line := scan.line + 1 }
    | 0x23 :: rest => skip overLines fuel { scan with rest := rest.dropWhile (· != 0x0a) }
    | 0x0a :: rest => if overLines then skip overLines fuel { scan with rest, line := scan.line + 1 } else scan
    | _ => scan

def skipBlanks (scan : Scan) : Scan := scan.skip false scan.rest.length

def skipLines (scan : Scan) : Scan := scan.skip true scan.rest.length

/-- The text up to a quote, with its escapes, and what is behind it. -/
def quoted : Bytes → Bytes → Bytes ⊕ (Bytes × Bytes)
  | before, [] => .inl before.reverse
  | before, 0x5c :: byte :: rest => quoted (byte :: 0x5c :: before) rest
  | before, byte :: rest =>
    if byte == 0x22 then .inr (before.reverse, rest)
    else if byte == 0x0a then .inl before.reverse
    else quoted (byte :: before) rest

/-- Resolve the escapes of a text. -/
def unescaped : Nat → Bytes → Bytes
  | 0, text => text
  | _, [] => []
  | fuel + 1, 0x5c :: rest =>
    let octal := (rest.take 3).takeWhile Printing.isOctal
    let hexadecimal := ((rest.drop 1).take 2).takeWhile (Printing.digitValue · < 16)
    if !octal.isEmpty then (Printing.digits 8 octal).toUInt8 :: unescaped fuel (rest.drop octal.length)
    else if rest.head? == some 0x78 && !hexadecimal.isEmpty then
      (Printing.digits 16 hexadecimal).toUInt8 :: unescaped fuel (rest.drop (hexadecimal.length + 1))
    else match rest with
      | 0x0a :: rest => unescaped fuel rest
      | 0x22 :: rest => 0x22 :: unescaped fuel rest
      | letter :: rest =>
        match Printing.escaped? letter with
        | some byte => byte :: unescaped fuel rest
        | none => 0x5c :: letter :: unescaped fuel rest
      | [] => [0x5c]
  | fuel + 1, byte :: rest => byte :: unescaped fuel rest

/-- Where a bracket of a pattern is read. -/
inductive Bracket where
  | outside
  | start
  | inside

/-- The pattern up to a slash, and what is behind it. -/
def slashed : Bracket → Bytes → Bytes → Bytes ⊕ (Bytes × Bytes)
  | _, before, [] => .inl before.reverse
  | bracket, before, 0x5c :: byte :: rest =>
    let bracket := match bracket with
      | .start => .inside
      | _ => bracket
    slashed bracket (if byte == 0x2f then byte :: before else byte :: 0x5c :: before) rest
  | bracket, before, byte :: rest =>
    if byte == 0x0a then .inl before.reverse
    else match bracket with
      | .outside =>
        if byte == 0x2f then .inr (before.reverse, rest)
        else slashed (if byte == 0x5b then .start else .outside) (byte :: before) rest
      | .start => slashed (if byte == 0x5e then .start else .inside) (byte :: before) rest
      | .inside => slashed (if byte == 0x5d then .outside else .inside) (byte :: before) rest

/-- Whether a slash stands for a quotient behind a token. -/
def isOperand : Token → Bool
  | .number _ | .text _ | .name .. | .builtin .length => true
  | .sign text => [")", "]", "++", "--"].contains text
  | _ => false

/-- The digits of a number, with what is behind it. -/
def numeral (text : Bytes) : Bytes × Bytes :=
  let whole := text.takeWhile Printing.isDecimal
  let rest := text.drop whole.length
  let fraction : Bytes := match rest with
    | 0x2e :: rest => 0x2e :: rest.takeWhile Printing.isDecimal
    | _ => []
  let rest := rest.drop fraction.length
  let power : Bytes := match rest with
    | mark :: rest =>
      if Printing.lower mark != 0x65 then []
      else
        let sign := rest.take (if rest.head? == some 0x2b || rest.head? == some 0x2d then 1 else 0)
        let digits := (rest.drop sign.length).takeWhile Printing.isDecimal
        if digits.isEmpty then [] else mark :: sign ++ digits
    | [] => []
  (whole ++ fraction ++ power, rest.drop power.length)

def isNameStart (byte : UInt8) : Bool :=
  byte == 0x5f || (0x61 ≤ byte && byte ≤ 0x7a) || (0x41 ≤ byte && byte ≤ 0x5a)

def isNamePart (byte : UInt8) : Bool := isNameStart byte || Printing.isDecimal byte

/-- The sign at the beginning of a text. -/
def sign? (text : Bytes) : Option String :=
  ((pairs ++ singles).find? fun sign => (utf8 sign).isPrefixOf text)

/-- Put a token down behind the ones so far. -/
def put (scan : Scan) (token : Token) (spelling : Bytes) (after : Scan) : Lexeme × Scan :=
  (⟨token, scan.line, spelling, scan.parentheses > 0⟩, { after with former := some token })

/-- What a closing brace gives: first the end of the statement in front of it. -/
def brace (scan : Scan) (rest : Bytes) : Lexeme × Scan :=
  let spelling := utf8 "\x7d"
  if scan.braces == 0 then scan.put (.fault (.strayBrace scan.line)) spelling { scan with rest := [] }
  else
    let isEnded := match scan.former with
      | some .lineEnd => true
      | some (.sign text) => text == ";" || text == "\x7d"
      | _ => false
    if isEnded then
      let after := { scan with rest, braces := scan.braces - 1 }
      let after := if after.braces > 0 then after
        else
          let blank := after.rest.dropWhile fun byte => byte == 0x20 || byte == 0x09
          if blank.head? == some 0x3b then { after with rest := blank.drop 1 } else after
      scan.put (.sign "\x7d") spelling after.skipLines
    else scan.put (.sign ";") spelling scan

/-- Take the next token off a text. -/
def next (scan : Scan) : Lexeme × Scan :=
  let scan := scan.skipBlanks
  let fault (fault : Fault) (spelling : Bytes) := scan.put (.fault fault) spelling { scan with rest := [] }
  match scan.rest with
  | [] =>
    if scan.braces > 0 then fault (.missingBrace scan.line) []
    else scan.put .textEnd (utf8 "end of file") scan
  | 0x0a :: rest =>
    scan.put .lineEnd (utf8 "end of line") { scan with rest, line := scan.line + 1 }.skipLines
  | 0x22 :: rest =>
    match quoted [] rest with
    | .inl start => fault (.runawayText scan.line (0x22 :: start.take 10)) []
    | .inr (raw, rest) =>
      let value := unescaped raw.length raw
      scan.put (.text value) value { scan with rest, line := scan.line + raw.count 0x0a }
  | byte :: after =>
    if isNameStart byte then
      let word := scan.rest.takeWhile isNamePart
      let rest := scan.rest.drop word.length
      match keywords.find? (utf8 · == word), builtins.find? (utf8 ·.1 == word) with
      | some keyword, _ =>
        let behind := { scan with rest }
        scan.put (.sign keyword) word (if joining.contains keyword then behind.skipLines else behind)
      | none, some (_, builtin) => scan.put (.builtin builtin) word { scan with rest }
      | none, none => scan.put (.name word (rest.head? == some 0x28)) word { scan with rest }
    else if Printing.isDecimal byte || (byte == 0x2e && after.head?.any Printing.isDecimal) then
      let (digits, rest) := numeral scan.rest
      let value := (Floating.leading .double digits).elim (.finite false 0 0) (·.1)
      scan.put (.number value.toFloat) digits { scan with rest }
    else if byte == 0x2f && !scan.former.any isOperand then
      match slashed .outside [] after with
      | .inl start => fault (.runawayPattern scan.line (0x2f :: start.take 10)) []
      | .inr (source, rest) => scan.put (.pattern source) (0x2f :: source ++ [0x2f]) { scan with rest }
    else match sign? scan.rest with
      | none => fault (.unexpectedLetter scan.line byte) []
      | some "\x7d" => scan.brace after
      | some sign =>
        let behind := { scan with rest := scan.rest.drop sign.length }
        if sign == ")" && scan.parentheses == 0 then fault (.strayParenthesis scan.line) []
        else
          let behind :=
            if sign == "(" then { behind with parentheses := behind.parentheses + 1 }
            else if sign == ")" then { behind with parentheses := behind.parentheses - 1 }
            else if sign == "\x7b" then { behind with braces := behind.braces + 1 }
            else behind
          scan.put (.sign sign) (utf8 sign) (if joining.contains sign then behind.skipLines else behind)

/-- The tokens of a text up to its end or to a fault. -/
def all : Nat → Scan → List Lexeme
  | 0, _ => []
  | fuel + 1, scan =>
    let (lexeme, scan) := scan.next
    match lexeme.token with
    | .textEnd | .fault _ => [lexeme]
    | _ => lexeme :: all fuel scan

/-- The tokens of a program. Its last line ends even when it is not said to. -/
def lexemes (text : Bytes) : List Lexeme :=
  all (2 * text.length + 4) (skipLines ⟨text ++ [0x0a], 1, 0, 0, none⟩)

end Scan
end ExitParity.Awk
