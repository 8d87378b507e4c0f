import ExitParity.Host.Printing
import ExitParity.Shell.Source

namespace ExitParity.Shell

/-- Where a byte of a word stands. This decides what is special there and
what ends the part. -/
inductive Setting where
  | open_
  /-- The mark at which a document ends: nothing in it is expanded. -/
  | mark
  | braces
  | quotes (inBraces : Bool)
  | quotedBraces (inDocument : Bool)
  | arithmetic
  | document (mark : Bytes) (stripsTabs : Bool)

namespace Setting

/-- Whether what stands there is quoted. -/
def quotes? : Setting → Bool
  | .open_ | .mark | .braces => false
  | _ => true

def isOutside : Setting → Bool
  | .open_ | .mark => true
  | _ => false

/-- The setting of a word inside braces. -/
def inner : Setting → Setting
  | .open_ | .mark | .braces => .braces
  | .document .. | .quotedBraces true => .quotedBraces true
  | _ => .quotedBraces false

/-- Whether a backslash in quotes hides the byte behind it. -/
def escapes (setting : Setting) (byte : UInt8) : Bool :=
  byte == 0x5c || byte == 0x60 || byte == 0x24 ||
    (byte == 0x22 && match setting with
      | .document .. => false
      | _ => true) ||
    (byte == 0x7d && match setting with
      | .quotes inBraces => inBraces
      | .quotedBraces _ => true
      | _ => false)

/-- The complaint about a text that ends here, if it may not. -/
def cutOff? : Setting → Option String
  | .open_ | .mark | .document .. => none
  | .arithmetic => some "Missing '))'"
  | .braces | .quotedBraces true => some "Missing '\x7d'"
  | _ => some "Unterminated quoted string"

/-- The sign that the text lacks which ends here. -/
def closer : Setting → String
  | .arithmetic => ")"
  | .quotes _ => "\""
  | _ => "\x7d"

end Setting

/-- A byte that ends a word. -/
def isBreak (byte : UInt8) : Bool :=
  [0x20, 0x09, 0x3c, 0x3e, 0x28, 0x29, 0x3b, 0x26, 0x7c].elem byte

/-- A parameter whose name is one sign. -/
def isSpecialName (byte : UInt8) : Bool := isDigit byte || [0x23, 0x3f, 0x24, 0x21, 0x2d, 0x2a, 0x40].elem byte

/-- Whether the parenthesis that closes a text is doubled. A text that is not closed
counts as if it were. -/
def closesTwice : Nat → Bytes → Bool
  | _, [] => true
  | depth, 0x5c :: _ :: rest => closesTwice depth rest
  | depth, byte :: rest =>
    if byte == 0x28 then closesTwice (depth + 1) rest
    else if byte != 0x29 then closesTwice depth rest
    else if depth > 0 then closesTwice (depth - 1) rest
    else rest.head?.all (· == 0x29)

namespace Reading

/-- Complain about a text that ends too early. -/
def cutShort {α : Type} (core : String) (closer : String) (line : Nat) : Reading α := do
  if (← get).dialect == .core then throw core
  modify fun source => { source with line }
  throw s!"unexpected EOF while looking for matching \x60{closer}'"

/-- Whether the line is the mark of a document; then the line is taken. -/
def atMark (mark : Bytes) (stripsTabs : Bool) : Reading Bool := do
  if stripsTabs then
    modify fun source => { source with text := source.text.dropWhile (· == 0x09) }
  let source ← get
  match Bytes.stripPrefix? mark source.text with
  | some [] =>
    set { source with text := [] }
    return true
  | some (0x0a :: rest) =>
    set { source with text := rest, line := source.line + 1 }
    return true
  | _ => return false

/-- The text of a document in which nothing is expanded. -/
def rawDocument (mark : Bytes) (stripsTabs : Bool) : Nat → Reading Bytes
  | 0 => return []
  | fuel + 1 => do
    if ← atMark mark stripsTabs then return []
    let line := (← get).text.takeWhile (· != 0x0a)
    let rest := (← get).text.drop line.length
    modify fun source => { source with text := rest.drop 1 }
    if rest.isEmpty then
      noteUnfinished mark
      return if line.isEmpty || (← get).dialect == .core then line else line ++ [0x0a]
    endLine
    return line ++ 0x0a :: (← rawDocument mark stripsTabs fuel)

/-- What stands between single quotes that were opened on a line. -/
def singleQuoted (opened : Nat) : Nat → Reading Bytes
  | 0 => return []
  | fuel + 1 => do
    match ← take with
    | none => cutShort "Unterminated quoted string" "'" opened
    | some byte =>
      if byte == 0x27 then return []
      if byte == 0x0a then endLine
      return byte :: (← singleQuoted opened fuel)

/-- What stands between single quotes behind a dollar sign, with its escapes. -/
def escapedQuoted (opened : Nat) : Nat → Reading Bytes
  | 0 => return []
  | fuel + 1 => do
    match ← take with
    | none => cutShort "Unterminated quoted string" "'" opened
    | some 0x27 => return []
    | some 0x5c =>
      let text := (← get).text
      let (byte, rest) := match text with
        | 0x27 :: rest => (0x27, rest)
        | 0x22 :: rest => (0x22, rest)
        | 0x65 :: rest | 0x45 :: rest => (0x1b, rest)
        | 0x78 :: rest =>
          let found := (rest.take 2).takeWhile (Printing.digitValue · < 16)
          if found.isEmpty then (0x5c, text) else ((Printing.digits 16 found).toUInt8, rest.drop found.length)
        | text => Printing.escape text
      modify fun source => { source with text := rest }
      return byte :: (← escapedQuoted opened fuel)
    | some byte =>
      if byte == 0x0a then endLine
      return byte :: (← escapedQuoted opened fuel)

/-- The text between backquotes. -/
def backquoted (opened : Nat) (inQuotes : Bool) : Nat → Reading Bytes
  | 0 => return []
  | fuel + 1 => do
    match ← takeJoined with
    | none => cutShort "EOF in backquote substitution" "\x60" opened
    | some 0x60 => return []
    | some 0x5c =>
      match ← take with
      | none => cutShort "EOF in backquote substitution" "\x60" opened
      | some byte =>
        let hidden := byte == 0x5c || byte == 0x60 || byte == 0x24 || (inQuotes && byte == 0x22)
        let rest ← backquoted opened inQuotes fuel
        return if hidden then byte :: rest else 0x5c :: byte :: rest
    | some byte =>
      if byte == 0x0a then endLine
      return byte :: (← backquoted opened inQuotes fuel)

/-- Take a sign, where a longer one is preferred. -/
def sign (one : String) (byte : UInt8) (two : String) : Reading Lexeme := do
  return if ← accept byte then .sign two else .sign one

def skipComment : Reading Unit :=
  modify fun source => { source with text := source.text.dropWhile (· != 0x0a) }

def isExtended : Reading Bool := return (← get).dialect == .extended

/-- The rest of a redirection of output. -/
def outputRedirect (target : Nat) : Reading Redirect := do
  if ← accept 0x3e then return .file target .append []
  if ← accept 0x7c then return .file target .overwrite []
  if ← accept 0x26 then return .copy target []
  return .file target .write []

/-- The rest of a redirection of input. -/
def inputRedirect (target : Nat) : Reading Redirect := do
  if ← accept 0x3c then
    if (← isExtended) && (← accept 0x3c) then return .line target []
    let stripsTabs ← accept 0x2d
    modify fun source => { source with stripsTabs }
    return .document target 0
  if ← accept 0x26 then return .copy target []
  if ← accept 0x3e then return .file target .readWrite []
  return .file target .read []

/-- Read a redirection from behind the descriptor. -/
def redirection (descriptor : Option Nat) : Reading Lexeme := do
  let isOutput := (← takeJoined) == some 0x3e
  let redirect ← if isOutput then outputRedirect (descriptor.getD 1) else inputRedirect (descriptor.getD 0)
  modify fun source => { source with redirect, isDoubled := false }
  return .redirection

/-- Read what an ampersand begins: a sign, or a redirection of all that is
printed and complained. -/
def ampersand : Reading Lexeme := do
  if (← isExtended) && (← accept 0x3e) then
    let access : Access := if ← accept 0x3e then .append else .write
    modify fun source => { source with redirect := .file 1 access [], isDoubled := true }
    return .redirection
  sign "&" 0x26 "&&"

/-- Put the text of an alias in the place of its name. An alias is not looked
at again inside its own text. -/
def replaceAlias (word : Word) : Reading Bool := do
  let source ← get
  let active := source.active.filter (·.2 < source.text.length)
  match (Word.plain? word).bind fun name => (source.aliases.find? (·.1 == name)) with
  | some (name, value) =>
    if active.any (·.1 == name) then return false
    set { source with text := value ++ source.text, active := (name, source.text.length) :: active }
    return true
  | none => return false

mutual

/-- Read parts of a word up to the end of their setting. A closing brace inside
inner quotes is none; the depth counts parentheses. -/
def gather : Nat → Setting → Bool → Nat → Word → Reading Word
  | 0, _, _, _, before => return before
  | fuel + 1, setting, quotedInside, depth, before => do
    let quoted := setting.quotes?
    let goOn (before : Word) : Reading Word := gather fuel setting quotedInside depth before
    match ← peek with
    | none =>
      match setting.cutOff? with
      | some complaint => cutShort complaint setting.closer ((← get).line - Word.lineCount before)
      | none =>
        match setting with
        | .document mark _ =>
          noteUnfinished mark
          let isWhole := match before with
            | [] | .literal (0x0a :: _) _ :: _ => true
            | _ => false
          return if isWhole || !(← isExtended) then before else Word.push 0x0a true before
        | _ => return before
    | some 0x0a =>
      if setting.isOutside then return before
      skip
      endLine
      let before := Word.push 0x0a quoted before
      match setting with
      | .document mark stripsTabs => if ← atMark mark stripsTabs then return before else goOn before
      | _ => goOn before
    | some 0x5c =>
      skip
      match ← take with
      | none => goOn (Word.push 0x5c true before)
      | some byte =>
        if quoted && !setting.escapes byte then goOn (Word.push byte true (Word.push 0x5c true before))
        else goOn (Word.push byte true before)
    | some 0x24 =>
      skip
      match setting with
      | .mark => goOn (Word.push 0x24 false before)
      | _ =>
        match ← dollar fuel setting quotedInside with
        | none => goOn (Word.push 0x24 quoted before)
        | some part => goOn (Word.pushAll [part] before)
    | some 0x60 =>
      skip
      match setting with
      | .mark => goOn (Word.push 0x60 true before)
      | _ =>
        let text ← backquoted (← get).line quoted (← bound)
        let script ← inside fuel text
        goOn (.output script quoted :: before)
    | some 0x27 =>
      skip
      if quoted then goOn (Word.push 0x27 true before)
      else
        let text ← singleQuoted (← get).line (← bound)
        goOn (Word.pushAll [.literal text true] before)
    | some 0x22 =>
      skip
      match setting with
      | .open_ | .mark | .braces =>
        let inBraces := match setting with
          | .braces => true
          | _ => false
        let parts := Word.finished (← gather fuel (.quotes inBraces) false 0 [])
        match parts with
        | [.parameter [0x40] .value true] => goOn (parts ++ before)
        | [.parameter [0x40] (.part ..) true] => goOn (parts ++ before)
        | [.element _ [.literal [0x40] false] _ true] => goOn (parts ++ before)
        | _ => goOn (Word.pushAll parts (.literal [] true :: before))
      | .quotes _ => return before
      | .quotedBraces _ => gather fuel setting (!quotedInside) depth before
      | _ => goOn (Word.push 0x22 true before)
    | some 0x7d =>
      skip
      match setting with
      | .braces => return before
      | .quotedBraces _ => if quotedInside then goOn (Word.push 0x7d true before) else return before
      | _ => goOn (Word.push 0x7d quoted before)
    | some byte =>
      if setting.isOutside && isBreak byte then
        let isChannel := (byte == 0x3c || byte == 0x3e) && (← get).text[1]? == some 0x28
        if !isChannel || !(← isExtended) then return before
        skip
        skip
        let outer ← get
        set { outer with awaited := [] }
        let script ← commands fuel false true .nothing
        if (← readLexeme fuel) != .sign ")" then unexpected (some (.sign ")"))
        modify fun source => { source with awaited := outer.awaited }
        return ← goOn (.channel script (byte == 0x3c) :: before)
      skip
      let before := Word.push byte quoted before
      match setting with
      | .arithmetic =>
        if byte == 0x28 then gather fuel setting quotedInside (depth + 1) before
        else if byte == 0x29 then
          if depth > 0 then gather fuel setting quotedInside (depth - 1) before
          else if ← accept 0x29 then
            match before with
            | .literal (_ :: bytes) same :: rest => return .literal bytes same :: rest
            | before => return before
          else goOn before
        else goOn before
      | _ => goOn before

/-- Read what a dollar sign begins. Alone it stands for itself. -/
def dollar : Nat → Setting → Bool → Reading (Option Part)
  | 0, _, _ => return none
  | fuel + 1, setting, quotedInside => do
    let quoted := setting.quotes?
    match ← peek with
    | some 0x27 =>
      if quoted || !(← isExtended) then return none
      skip
      return some (.literal (← escapedQuoted (← get).line (← bound)) true)
    | some 0x22 =>
      if quoted || !(← isExtended) then return none
      return some (.literal [] false)
    | some 0x28 =>
      skip
      let isCommand := (← isExtended) && !closesTwice 0 ((← get).text.drop 1)
      if !isCommand && (← accept 0x28) then
        let expression ← gather fuel .arithmetic false 0 []
        return some (.arithmetic (Word.finished expression) quoted)
      else
        let outer ← get
        set { outer with awaited := [] }
        let script ← commands fuel false true .nothing
        let closer ← readLexeme fuel
        if closer == .endOfText && (← isExtended) then cutShort "" ")" (← get).line
        if closer != .sign ")" then unexpected (some (.sign ")"))
        modify fun source => { source with awaited := outer.awaited }
        return some (.output script quoted)
    | some 0x7b =>
      skip
      let begun := (← get).text
      let (name, index?, use) ← braced fuel setting quotedInside
      let taken := begun.take (begun.length - (← get).text.length)
      let use : Use := match use with
        | .malformed _ => .malformed (utf8 "$\x7b" ++ taken)
        | use => use
      match index? with
      | some index => return some (.element name index use quoted)
      | none => return some (.parameter name use quoted)
    | some byte =>
      if isNameStart byte then
        let name ← takeWhile isNameByte (← bound)
        return some (.parameter name .value quoted)
      else if isSpecialName byte then
        skip
        return some (.parameter [byte] .value quoted)
      else return none
    | none => return none

/-- Read a parameter from behind the opening brace. -/
def braced : Nat → Setting → Bool → Reading (Bytes × Option Word × Use)
  | 0, _, _ => return ([], none, .malformed [])
  | fuel + 1, setting, quotedInside => do
    let name (first : UInt8) : Reading Bytes := do
      takeWhile (if isDigit first then isDigit else isNameByte) (← bound)
    let rest (found : Bytes) (index? : Option Word) (malformed : Bool) : Reading (Bytes × Option Word × Use) := do
      return (found, index?, ← braceRest fuel setting quotedInside malformed)
    match ← peek with
    | none => rest [] none true
    | some byte =>
      if isNameStart byte || isDigit byte then
        let found ← name byte
        rest found (← listIndex fuel) false
      else if byte == 0x7d then rest [] none true
      else if byte == 0x23 then
        skip
        match ← peek with
        | some next =>
          if isNameByte next then
            let found ← name next
            let index? ← listIndex fuel
            if ← accept 0x7d then return (found, index?, .length) else rest found index? true
          else
            let behind := (← get).text.drop 1
            if next != 0x7d && behind.head? == some 0x7d then
              if isSpecialName next then
                skip
                skip
                return ([next], none, .length)
              else rest [next] none true
            else rest [0x23] none false
        | none => rest [0x23] none false
      else if byte == 0x21 && (← isExtended) && (← get).text[1]?.any isNameByte then
        skip
        let found ← name ((← peek).getD 0)
        let index? ← listIndex fuel
        if ← accept 0x7d then return (found, index?, if index?.isSome then .indices else .indirect)
        match (← get).text with
        | sign :: 0x7d :: _ =>
          if sign == 0x2a || sign == 0x40 then
            skip
            skip
            return (found ++ [sign], none, .names)
          else rest found index? true
        | _ => rest found index? true
      else if isSpecialName byte then
        skip
        rest [byte] none false
      else
        skip
        rest [byte] none true

/-- Read the index of an element in the extended language, if there is one. -/
def listIndex : Nat → Reading (Option Word)
  | 0 => return none
  | fuel + 1 => do
    match (← get).text, ← isExtended with
    | 0x5b :: text, true =>
      match bracketed? 0 text with
      | none => return none
      | some (index, rest) =>
        let outer ← get
        set { Source.ofText (index ++ [0x7d]) outer.nextDocument with dialect := outer.dialect, line := outer.line }
        let word := Word.finished (← gather fuel .braces false 0 [])
        modify fun source => { outer with
          text := rest
          documents := outer.documents ++ source.documents
          nextDocument := source.nextDocument }
        return some word
    | _, _ => return none

/-- Read what is made of a parameter, up to the closing brace. -/
def braceRest : Nat → Setting → Bool → Bool → Reading Use
  | 0, _, _, _ => return .malformed []
  | fuel + 1, setting, quotedInside, malformed => do
    let _ := quotedInside
    let body (setting : Setting) : Reading Word := do return Word.finished (← gather fuel setting false 0 [])
    if malformed then
      let _ ← body setting.inner
      return .malformed []
    let colon ← accept 0x3a
    let substitute? : Option Substitute := match ← peek with
      | some 0x2d => some .whenMissing
      | some 0x2b => some .whenPresent
      | some 0x3d => some .assigned
      | some 0x3f => some .complaint
      | _ => none
    match substitute? with
    | some substitute =>
      skip
      return .replaced substitute colon (← body setting.inner)
    | none =>
      if (← isExtended) && (colon || (← peek).any fun byte => [0x2f, 0x5e, 0x2c].elem byte) then
        return ← addedUse fuel colon
      match ← isExtended, (← get).text with
      | true, 0x40 :: letter :: 0x7d :: _ =>
        let use? : Option Use := match Char.ofNat letter.toNat with
          | 'Q' => some .quoted
          | 'U' => some (.recased true true)
          | 'u' => some (.recased true false)
          | 'L' => some (.recased false true)
          | _ => none
        if let some use := use? then
          skip
          skip
          skip
          return use
      | _, _ => pure ()
      if colon then
        let _ ← accept 0x7d
        let _ ← body setting.inner
        return .malformed []
      match ← takeJoined with
      | some 0x7d => return .value
      | some byte =>
        if byte == 0x25 || byte == 0x23 then
          let longest ← accept byte
          return .trimmed (byte == 0x25) longest (← body .braces)
        else
          let _ ← body setting.inner
          return .malformed []
      | none =>
        let _ ← body setting.inner
        return .malformed []

/-- Read one of the uses of a parameter that the extended language adds. -/
def addedUse : Nat → Bool → Reading Use
  | 0, _ => return .malformed []
  | fuel + 1, colon => do
    if colon then
      let body := Word.finished (← gather fuel .braces false 0 [])
      if body.isEmpty then return .malformed []
      match Word.cutAt 0x3a false body with
      | some (offset, length) => return .part offset (some length)
      | none => return .part body none
    let sign ← takeJoined
    let all ← accept (sign.getD 0)
    let body := Word.finished (← gather fuel .braces false 0 [])
    if sign == some 0x2f then
      let (pattern, replacement) := (Word.cutAt 0x2f false body).getD (body, [])
      return .exchanged all pattern replacement
    else return .recased (sign == some 0x5e) all

/-- Read commands from a text of their own. -/
def inside : Nat → Bytes → Reading Command
  | 0, _ => return .nothing
  | fuel + 1, text => do
    let outer ← get
    set { Source.ofText text outer.nextDocument with aliases := outer.aliases, dialect := outer.dialect }
    let script ← commands fuel false true .nothing
    modify fun source =>
      { outer with documents := outer.documents ++ source.documents, nextDocument := source.nextDocument, pushedBack := false }
    return script

/-- Read the documents that were announced on the line. -/
def readDocuments : Nat → Reading Unit
  | 0 => return ()
  | fuel + 1 => do
    match (← get).awaited with
    | [] => return ()
    | document :: rest =>
      modify fun source => { source with awaited := rest, documentLine := document.line }
      let text ←
        if document.expands then
          if ← atMark document.mark document.stripsTabs then pure []
          else pure (Word.finished (← gather fuel (.document document.mark document.stripsTabs) false 0 []))
        else pure [Part.literal (← rawDocument document.mark document.stripsTabs (← bound)) true]
      modify fun source => { source with documents := source.documents ++ [(document.number, text)] }
      readDocuments fuel

/-- Take the next lexeme as it is written. -/
def scan : Nat → Reading Lexeme
  | 0 => return .endOfText
  | fuel + 1 => do
    if (← get).pushedBack then
      modify fun source => { source with pushedBack := false }
      return (← get).lexeme
    let lexeme ← match ← peek with
      | none => pure .endOfText
      | some byte =>
        if byte == 0x20 || byte == 0x09 then
          skip
          scan fuel
        else if byte == 0x23 then
          skipComment
          scan fuel
        else if byte == 0x0a then
          skip
          endLine
          pure .newline
        else if byte == 0x26 then
          skip
          ampersand
        else if byte == 0x7c then
          skip
          if (← isExtended) && (← accept 0x26) then pure (.sign "|&") else sign "|" 0x7c "||"
        else if byte == 0x3b then
          skip
          if !(← isExtended) then sign ";" 0x3b ";;"
          else if ← accept 0x26 then pure (.sign ";&")
          else if ← accept 0x3b then pure (.sign (if ← accept 0x26 then ";;&" else ";;"))
          else pure (.sign ";")
        else if byte == 0x28 || byte == 0x29 then
          skip
          pure (.sign (if byte == 0x28 then "(" else ")"))
        else
          let setting := if (← get).checks.mark then Setting.mark else .open_
          let word := Word.finished (← gather fuel setting false 0 [])
          let next := (← get).text.head?
          let isRedirection := next == some 0x3c || next == some 0x3e
          match isRedirection, word with
          | true, [] => redirection none
          | true, [.literal [digit] false] =>
            if isDigit digit then redirection (some (digit.toNat - 0x30))
            else
              modify fun source => { source with word }
              pure .word
          | _, _ =>
            modify fun source => { source with word }
            pure .word
    modify fun source => { source with lexeme }
    return lexeme

/-- Pass over newlines. -/
def passNewlines : Nat → Lexeme → Reading Lexeme
  | 0, lexeme => return lexeme
  | fuel + 1, lexeme => do
    if lexeme == .newline then
      readDocuments fuel
      passNewlines fuel (← scan fuel)
    else return lexeme

/-- Take the next lexeme, looked at as was asked for. -/
def readLexeme : Nat → Reading Lexeme
  | 0 => return .endOfText
  | fuel + 1 => do
    let checks := (← get).checks
    let first ← scan fuel
    let lexeme ← if checks.newlines then passNewlines fuel first else pure first
    look .none
    if lexeme != .word then return lexeme
    let word := (← get).word
    let keyword? := (Word.plain? word).bind (Lexeme.keyword? (← get).dialect)
    match checks.keywords, keyword? with
    | true, some keyword =>
      modify fun source => { source with lexeme := .sign keyword }
      return .sign keyword
    | _, _ =>
      if checks.aliases then
        if ← replaceAlias word then
          look checks
          readLexeme fuel
        else return .word
      else return .word

/-- Read a list of commands. A list of a whole line ends at the end of the
line, and every other one before a lexeme that closes it. -/
def commands : Nat → Bool → Bool → Command → Reading Command
  | 0, _, _, before => return before
  | fuel + 1, wholeLine, mayBeEmpty, before => do
    have isFirst : Bool := match before with
      | .nothing => true
      | _ => false
    look ⟨!wholeLine, true, true, false⟩
    let lexeme ← readLexeme fuel
    if lexeme == .newline then
      readDocuments fuel
      return before
    if lexeme == .endOfText then
      readDocuments fuel
      pushBack
      modify fun source => { source with lexeme := .endOfText }
      return before
    pushBack
    if lexeme.closes && !wholeLine && (mayBeEmpty || !isFirst) then return before
    let command ← joinedCommands fuel
    let lexeme ← readLexeme fuel
    let command := if lexeme == .sign "&" then inBackground command else command
    let all := if isFirst then command else .sequence before command
    if lexeme == .endOfText then
      readDocuments fuel
      pushBack
      modify fun source => { source with lexeme := .endOfText }
      return all
    else if lexeme == .newline then
      pushBack
      commands fuel wholeLine mayBeEmpty all
    else if lexeme == .sign "&" || lexeme == .sign ";" then commands fuel wholeLine mayBeEmpty all
    else
      if wholeLine then unexpected none
      pushBack
      return all
where
  /-- A command that is not waited for. -/
  inBackground : Command → Command
    | .pipeline commands _ => .pipeline commands true
    | .redirected line body redirects => .background line body redirects
    | .simple line assignments words redirects => .background line (.simple line assignments words redirects) []
    | command => .background 0 command []

/-- Read pipelines joined by `&&` and `||`. -/
def joinedCommands : Nat → Reading Command
  | 0 => return .nothing
  | fuel + 1 => do
    let first ← pipeline fuel
    moreJoined fuel first

def moreJoined : Nat → Command → Reading Command
  | 0, before => return before
  | fuel + 1, before => do
    match ← readLexeme fuel with
    | .sign "&&" =>
      look ⟨true, true, true, false⟩
      let next ← pipeline fuel
      moreJoined fuel (.both before next)
    | .sign "||" =>
      look ⟨true, true, true, false⟩
      let next ← pipeline fuel
      moreJoined fuel (.either before next)
    | _ =>
      pushBack
      return before

def pipeline : Nat → Reading Command
  | 0 => return .nothing
  | fuel + 1 => do
    let opening ← readLexeme fuel
    if opening == .sign "time" then
      look ⟨false, true, true, false⟩
      return .timed (← pipeline fuel)
    let negated := opening == .sign "!"
    if negated then look ⟨false, true, true, false⟩ else pushBack
    let first ← command fuel
    let whole ← match ← morePiped fuel first with
      | [single] => pure single
      | commands => pure (.pipeline commands false)
    return if negated then .negated whole else whole

/-- Read the commands that are piped to behind a first one. -/
def morePiped : Nat → Command → Reading (List Command)
  | 0, first => return [first]
  | fuel + 1, first => do
    let lexeme ← readLexeme fuel
    if lexeme == .sign "|" || lexeme == .sign "|&" then
      look ⟨true, true, true, false⟩
      let next ← command fuel
      return (if lexeme == .sign "|&" then withComplaints first else first) :: (← morePiped fuel next)
    else
      pushBack
      return [first]
where
  /-- A command that complains where it prints. -/
  withComplaints : Command → Command
    | .simple line assignments words redirects => .simple line assignments words (redirects ++ [joined])
    | .subshell line body redirects => .subshell line body (redirects ++ [joined])
    | command => .redirected 0 command [joined]
  joined : Redirect := .copy 2 [.literal [0x31] false]

/-- Read a lexeme that has to be the given one. -/
def expect : Nat → Lexeme → Reading Unit
  | 0, _ => return ()
  | fuel + 1, expected => do
    if (← readLexeme fuel) != expected then unexpected (some expected)

/-- Read one command with the redirections behind it. -/
def command : Nat → Reading Command
  | 0 => return .nothing
  | fuel + 1 => do
    let line := (← get).line
    let closed (closer : String) (command : Command) : Reading Command := do
      expect fuel (.sign closer)
      return command
    let found ← match ← readLexeme fuel with
      | .sign "if" => do
        let choice ← conditional fuel
        closed "fi" choice
      | .sign "while" => do
        let loop ← whileLoop fuel true
        closed "done" loop
      | .sign "until" => do
        let loop ← whileLoop fuel false
        closed "done" loop
      | .sign "for" => do
        let isCounted := ((← get).text.dropWhile fun byte => byte == 0x20 || byte == 0x09).take 2 == [0x28, 0x28]
        if isCounted && (← isExtended) then countLoop fuel line
        else
          let loop ← forLoop fuel line
          closed "done" loop
      | .sign "case" => do
        if (← readLexeme fuel) != .word then unexpected (some .word)
        let word := (← get).word
        look ⟨true, true, true, false⟩
        expect fuel (.sign "in")
        let arms ← caseArms fuel
        pure (.select line word arms)
      | .sign "(" => do
        if (← isExtended) && (← get).text.head? == some 0x28 then
          skip
          let expression ← gather fuel .arithmetic false 0 []
          pure (.compute line (Word.finished expression))
        else
          let body ← commands fuel false false .nothing
          closed ")" (.subshell line body [])
      | .sign "[[" => do
        let test ← anyTest fuel
        if Word.plain? (← get).word != some (utf8 "]]") then unexpected none
        pure (.check line test)
      | .sign "function" => do
        if (← readLexeme fuel) != .word then unexpected none
        let name := (Word.plain? (← get).word).getD []
        look ⟨true, true, true, false⟩
        if (← readLexeme fuel) == .sign "(" then
          expect fuel (.sign ")")
          look ⟨true, true, true, false⟩
        else
          pushBack
        let line := (← get).line
        return .define line name (← command fuel)
      | .sign "\x7b" => do
        let body ← commands fuel false false .nothing
        -- what is joined to a group later belongs to all of it
        let body := match ← isExtended, body with
          | true, .simple .. | true, .subshell .. => .redirected line body []
          | _, body => body
        closed "\x7d" body
      | .word | .redirection => do
        pushBack
        return (← simple fuel ⟨false, false, true, false⟩ (← get).line [] [] [])
      | _ => unexpected none
    look ⟨false, true, true, false⟩
    let redirects ← trailingRedirects fuel
    match found, redirects with
    | found, [] => return found
    | .subshell line body _, redirects => return .subshell line body redirects
    | found, redirects => return .redirected line found redirects

def trailingRedirects : Nat → Reading (List Redirect)
  | 0 => return []
  | fuel + 1 => do
    if (← readLexeme fuel) == .redirection then
      let redirects ← redirectTarget fuel
      return redirects ++ (← trailingRedirects fuel)
    else
      pushBack
      return []

/-- Read a condition on words, up to the lexeme behind it. -/
def anyTest : Nat → Reading Test
  | 0 => unexpected none
  | fuel + 1 => do
    let first ← allTest fuel
    if (← get).lexeme == .sign "||" then return .either first (← anyTest fuel) else return first

def allTest : Nat → Reading Test
  | 0 => unexpected none
  | fuel + 1 => do
    let first ← oneTest fuel
    if (← get).lexeme == .sign "&&" then return .both first (← allTest fuel) else return first

def oneTest : Nat → Reading Test
  | 0 => unexpected none
  | fuel + 1 => do
    look ⟨true, false, false, false⟩
    match ← readLexeme fuel with
    | .sign "(" =>
      let test ← anyTest fuel
      if (← get).lexeme != .sign ")" then unexpected (some (.sign ")"))
      let _ ← readLexeme fuel
      return test
    | .word =>
      let first := (← get).word
      if Word.plain? first == some [0x21] then return .not (← oneTest fuel)
      let lexeme ← readLexeme fuel
      let second := (← get).word
      match lexeme, Word.plain? first, Word.plain? second with
      | .redirection, _, _ =>
        let operator : Bytes := match (← get).redirect with
          | .file 0 .read _ => [0x3c]
          | _ => [0x3e]
        if (← readLexeme fuel) != .word then unexpected none
        let second := (← get).word
        let _ ← readLexeme fuel
        return .binary operator first second
      | .word, some [0x2d, letter], plain =>
        if plain == some (utf8 "]]") then return .unary (utf8 "-n") first
        let _ ← readLexeme fuel
        return .unary [0x2d, letter] second
      | .word, _, some operator =>
        if operator == utf8 "]]" then return .unary (utf8 "-n") first
        let word ← if operator == utf8 "=~" then unsplit fuel else do
            if (← readLexeme fuel) != .word then unexpected none
            pure (← get).word
        let _ ← readLexeme fuel
        return .binary operator first word
      | _, _, _ => return .unary (utf8 "-n") first
    | _ => unexpected none

/-- Read a word in which only blanks are special. -/
def unsplit : Nat → Reading Word
  | 0 => return []
  | fuel + 1 => do
    let _ ← takeWhile (fun byte => byte == 0x20 || byte == 0x09) (← bound)
    let part := Word.finished (← gather fuel .open_ false 0 [])
    match (← get).text with
    | byte :: _ =>
      if byte == 0x20 || byte == 0x09 || byte == 0x0a then return part
      skip
      return part ++ .literal [byte] false :: (← unsplitRest fuel)
    | [] => return part

def unsplitRest : Nat → Reading Word
  | 0 => return []
  | fuel + 1 => do
    match (← get).text with
    | byte :: _ => if byte == 0x20 || byte == 0x09 || byte == 0x0a then return [] else unsplit fuel
    | [] => return []

/-- Read what a redirection leads to. -/
def redirectTarget : Nat → Reading (List Redirect)
  | 0 => return []
  | fuel + 1 => do
    let redirect := (← get).redirect
    let isDoubled := (← get).isDoubled
    let stripsTabs := (← get).stripsTabs
    match redirect with
    | .document .. => look ⟨false, false, false, true⟩
    | _ => pure ()
    if (← readLexeme fuel) != .word then unexpected none
    let word := (← get).word
    match redirect with
    | .file descriptor access _ =>
      let complaints : List Redirect := if isDoubled then [.copy 2 [.literal [0x31] false]] else []
      return .file descriptor access word :: complaints
    | .copy descriptor _ => return [.copy descriptor word]
    | .line descriptor _ => return [.line descriptor word]
    | .document descriptor _ =>
      let mark := word.flatMap fun
        | .literal bytes _ => bytes
        | _ => []
      modify fun source =>
        { source with
          awaited := source.awaited ++ [⟨source.nextDocument, source.line, mark, !Word.isQuoted word, stripsTabs⟩]
          nextDocument := source.nextDocument + 1 }
      return [.document descriptor ((← get).nextDocument - 1)]

def conditional : Nat → Reading Command
  | 0 => return .nothing
  | fuel + 1 => do
    let condition ← commands fuel false false .nothing
    expect fuel (.sign "then")
    let accepted ← commands fuel false false .nothing
    match ← readLexeme fuel with
    | .sign "elif" =>
      let otherwise ← conditional fuel
      return .choose condition accepted otherwise
    | .sign "else" =>
      let otherwise ← commands fuel false false .nothing
      return .choose condition accepted otherwise
    | _ =>
      pushBack
      return .choose condition accepted .nothing

def whileLoop : Nat → Bool → Reading Command
  | 0, _ => return .nothing
  | fuel + 1, whileTrue => do
    let condition ← commands fuel false false .nothing
    expect fuel (.sign "do")
    let body ← commands fuel false false .nothing
    return .loop whileTrue condition body

def forLoop : Nat → Nat → Reading Command
  | 0, _ => return .nothing
  | fuel + 1, line => do
    let lexeme ← readLexeme fuel
    match lexeme, Word.plain? (← get).word with
    | .word, some name =>
      if !isName name then throw "Bad for loop variable"
      look ⟨true, true, true, false⟩
      let words ←
        if (← readLexeme fuel) == .sign "in" then
          let words ← loopWords fuel
          let ending := (← get).lexeme
          if ending != .newline && ending != .sign ";" then unexpected none
          pure words
        else
          if (← get).lexeme != .sign ";" then pushBack
          pure [[.parameter [0x40] .value true]]
      look ⟨true, true, true, false⟩
      expect fuel (.sign "do")
      let body ← commands fuel false false .nothing
      return .each line name words body
    | _, _ => throw "Bad for loop variable"

/-- Read a loop over the values of three expressions. -/
def countLoop : Nat → Nat → Reading Command
  | 0, _ => return .nothing
  | fuel + 1, line => do
    let _ ← takeWhile (· != 0x28) (← bound)
    skip
    skip
    let expressions := Word.finished (← gather fuel .arithmetic false 0 [])
    match Word.cutAt 0x3b true expressions with
    | none => unexpected none
    | some (first, rest) =>
      match Word.cutAt 0x3b true rest with
      | none => unexpected none
      | some (condition, next) =>
        look ⟨true, true, true, false⟩
        let lexeme ← readLexeme fuel
        let lexeme ← if lexeme == .sign ";" then do
            look ⟨true, true, true, false⟩
            readLexeme fuel
          else pure lexeme
        let closer := if lexeme == .sign "\x7b" then "\x7d" else "done"
        if lexeme != .sign "do" && lexeme != .sign "\x7b" then unexpected none
        let body ← commands fuel false false .nothing
        expect fuel (.sign closer)
        return .count line first condition next body

/-- Read the values of a list, up to the closing parenthesis. -/
def listWords : Nat → Reading (List Word)
  | 0 => return []
  | fuel + 1 => do
    look ⟨true, false, false, false⟩
    match ← readLexeme fuel with
    | .word =>
      let word := (← get).word
      return word :: (← listWords fuel)
    | .sign ")" => return []
    | _ => unexpected none

def loopWords : Nat → Reading (List Word)
  | 0 => return []
  | fuel + 1 => do
    if (← readLexeme fuel) == .word then
      let word := (← get).word
      return word :: (← loopWords fuel)
    else return []

/-- Read the arms of a selection up to its closing keyword. -/
def caseArms : Nat → Reading (List (List Word × Command × Follow))
  | 0 => return []
  | fuel + 1 => do
    look ⟨true, true, false, false⟩
    let lexeme ← readLexeme fuel
    if lexeme == .sign "esac" then return []
    if lexeme == .sign "(" then
      let _ ← readLexeme fuel
    let patterns ← casePatterns fuel
    if (← get).lexeme != .sign ")" then unexpected (some (.sign ")"))
    let body ← commands fuel false true .nothing
    look ⟨true, true, false, false⟩
    let ending ← readLexeme fuel
    let follow : Follow := if ending == .sign ";&" then .commands else if ending == .sign ";;&" then .patterns else .nothing
    if ending == .sign "esac" then return [(patterns, body, .nothing)]
    if ending != .sign ";;" && follow == .nothing then unexpected (some (.sign ";;"))
    return (patterns, body, follow) :: (← caseArms fuel)

def casePatterns : Nat → Reading (List Word)
  | 0 => return []
  | fuel + 1 => do
    let isWord := (← get).lexeme == .word
    if (← isExtended) && !isWord then unexpected none
    let word := (← get).word
    if (← readLexeme fuel) == .sign "|" then
      let _ ← readLexeme fuel
      return word :: (← casePatterns fuel)
    else return [word]

/-- Read a command of words, or the definition of a function. The collected
parts are kept in reverse. -/
def simple : Nat → Checks → Nat → List Assignment → List Word → List Redirect → Reading Command
  | 0, _, _, _, _, _ => return .nothing
  | fuel + 1, checks, line, assignments, words, redirects => do
    look checks
    let lexeme ← readLexeme fuel
    let isSecond := assignments.length + words.length + redirects.length == 1
    let line ← if isSecond && (← isExtended) then pure ((← get).line - if lexeme == .newline then 1 else 0) else pure line
    let finished : Command := .simple line assignments.reverse words.reverse redirects.reverse
    match lexeme with
    | .word =>
      let word := (← get).word
      let dialect := (← get).dialect
      let opensList := dialect == .extended && (← get).text.head? == some 0x28
      match checks.aliases, assignment? dialect word with
      | true, some (.one list none adds []) =>
        if opensList then
          skip
          let values ← listWords fuel
          simple fuel checks line (.all list adds values :: assignments) words redirects
        else simple fuel checks line (.one list none adds [] :: assignments) words redirects
      | true, some assignment => simple fuel checks line (assignment :: assignments) words redirects
      | false, some (.one list none adds []) =>
        if opensList then
          skip
          let values ← listWords fuel
          simple fuel .none line (.all list adds values :: assignments) ([.literal list false] :: words) redirects
        else simple fuel .none line assignments (word :: words) redirects
      | _, _ => simple fuel .none line assignments (word :: words) redirects
    | .redirection =>
      let more ← redirectTarget fuel
      simple fuel checks line assignments words (more.reverse ++ redirects)
    | .sign "(" =>
      match words, assignments, redirects with
      | [word], [], [] =>
        if (← readLexeme fuel) != .sign ")" then unexpected (some (.sign ")"))
        let name := (Word.plain? word).getD []
        let isTaken := !isName name || specialNames.contains name
        if isTaken && !(← isExtended) then throw "Bad function name"
        look ⟨true, true, true, false⟩
        let line := (← get).line
        if ← isExtended then
          let opening ← readLexeme fuel
          if opening == .word || opening == .redirection then unexpected none
          pushBack
        let body ← command fuel
        return .define line name body
      | _, _, _ =>
        pushBack
        return finished
    | _ =>
      pushBack
      return finished
where
  /-- The assignment that a word is. -/
  assignment? (dialect : Dialect) : Word → Option Assignment
    | .literal bytes false :: rest =>
      let name := bytes.takeWhile isNameByte
      if !isName name then none
      else match dialect, bytes.drop name.length with
        | _, 0x3d :: value => some (.one name none false (behind value rest))
        | .extended, 0x2b :: 0x3d :: value => some (.one name none true (behind value rest))
        | .extended, 0x5b :: inner =>
          match Word.cutAt 0x5d false (.literal inner false :: rest) with
          | some (index, .literal (0x3d :: value) false :: rest) => some (.one name (some index) false (behind value rest))
          | some (index, .literal (0x2b :: 0x3d :: value) false :: rest) =>
            some (.one name (some index) true (behind value rest))
          | _ => none
        | _, _ => none
    | _ => none
  behind (value : Bytes) (rest : Word) : Word := if value.isEmpty then rest else .literal value false :: rest
  /-- Commands of the shell whose names no function can have. -/
  specialNames : List Bytes :=
    [".", ":", "break", "continue", "eval", "exec", "exit", "export", "readonly", "return", "set", "shift", "times",
      "trap", "unset"].map utf8

end

/-- Read the commands of the next line. Nothing is read at the end of the text. -/
def line : Reading (Option Command) := do
  modify fun source => { source with pushedBack := false, checks := .none, awaited := [] }
  let read ← commands (16 * (← bound) + 64) true true .nothing
  let source ← get
  match read with
  | .nothing => if source.isAtEnd then return none else return some .nothing
  | command => return some command

end Reading
end ExitParity.Shell
