import ExitParity.Proofs.Naming.Siblings
import ExitParity.Proofs.Report.Writing
import ExitParity.Proofs.Text.Utf8
import ExitParity.Report.Summary

namespace ExitParity

section Numbers

theorem toDigits_inj {n m : Nat} (same : Nat.toDigits 10 n = Nat.toDigits 10 m) : n = m := by
  have read := congrArg (Nat.ofDigitChars 10 · 0) same
  simpa only [Nat.ofDigitChars_ten_toDigits] using read

theorem dropWhile_toDigits (n : Nat) (rest : List Char) :
    (Nat.toDigits 10 n ++ rest).dropWhile Char.isDigit = rest.dropWhile Char.isDigit :=
  List.dropWhile_append_of_pos fun _ member => Nat.isDigit_of_mem_toDigits (by decide) (by decide) member

/-- A text that does not begin with a digit. -/
def Undigited (text : List Char) : Prop := text.dropWhile Char.isDigit = text

/-- A number ends where the digits end. -/
theorem toDigits_append_inj {n m : Nat} {rest other : List Char} (ends : Undigited rest) (otherEnds : Undigited other)
    (same : Nat.toDigits 10 n ++ rest = Nat.toDigits 10 m ++ other) : n = m ∧ rest = other := by
  have behind : rest = other := by
    have dropped := congrArg (List.dropWhile Char.isDigit) same
    rwa [dropWhile_toDigits, dropWhile_toDigits, ends, otherEnds] at dropped
  subst behind
  exact ⟨toDigits_inj (List.append_cancel_right same), rfl⟩

theorem newline_not_mem_toDigits (n : Nat) : '\n' ∉ Nat.toDigits 10 n := fun member =>
  absurd (Nat.isDigit_of_mem_toDigits (by decide) (by decide) member) (by decide)

end Numbers

section Literals

variable {literal : String} {c d : Char} {more : List Char}

theorem undigited_literal (spelled : literal = String.ofList (c :: more)) (letter : c.isDigit = false)
    (rest : List Char) : Undigited (literal.toList ++ rest) := by
  rw [Undigited, spelled, String.toList_ofList, List.cons_append, List.dropWhile_cons, letter]
  rfl

theorem newline_mem_utf8_iff (text : String) : 0x0a ∈ utf8 text ↔ '\n' ∈ text.toList :=
  Utf8.mem_utf8_iff (by decide) text

theorem newline_not_mem_literal (spelled : literal = String.ofList more) (plain : more.elem '\n' = false) :
    '\n' ∉ literal.toList := by
  rw [spelled, String.toList_ofList, ← List.elem_iff, plain]
  exact Bool.false_ne_true

end Literals

namespace Report

/-- A line of the printed summary by what it says. -/
inductive Line where
  | suite (name : String)
  | unprepared (failure : String)
  | crashed (count : Nat)
  | strange (count : Nat)
  | item (index : Nat) (shown : String)
  | blank
  | judged (verdict : Verdict)
  | cut (processed passed failed : Nat)

namespace Line

def ofVerdict : Verdict → List Char
  | .passed total => "Passed all ".toList ++ (Nat.toDigits 10 total ++ " tests!".toList)
  | .failed failures total =>
    "Failed ".toList ++ (Nat.toDigits 10 failures ++ (" of ".toList ++ (Nat.toDigits 10 total ++ " tests!".toList)))
  | .empty => "There is something odd with the testsuite, 0 tests executed!".toList
  | .interrupted => "Interrupted, results are incomplete!".toList

def letters : Line → List Char
  | .suite name => "suite ".toList ++ (name.toList ++ ":".toList)
  | .unprepared failure => "warning: artifact generation failed: ".toList ++ failure.toList
  | .crashed count => Nat.toDigits 10 count ++ " reference tests failed!".toList
  | .strange count => Nat.toDigits 10 count ++ " tests have a nonzero reference exit code!".toList
  | .item index shown => "  ".toList ++ (Nat.toDigits 10 index ++ (") ".toList ++ shown.toList))
  | .blank => []
  | .judged verdict => ofVerdict verdict
  | .cut processed passed failed =>
    Nat.toDigits 10 processed ++ (" artifacts processed before the interrupt (".toList ++
      (Nat.toDigits 10 passed ++ (" passed, ".toList ++ (Nat.toDigits 10 failed ++ " failed)".toList))))

/-- What a line is known by: the first two letters behind the number that it
may begin with. -/
def sign (text : List Char) : List Char := (text.dropWhile Char.isDigit).take 2

theorem sign_toDigits (n : Nat) (rest : List Char) : sign (Nat.toDigits 10 n ++ rest) = sign rest := by
  rw [sign, dropWhile_toDigits, sign]

theorem sign_append {literal : String} {c d : Char} {more : List Char}
    (spelled : literal = String.ofList (c :: d :: more)) (letter : c.isDigit = false) (rest : List Char) :
    sign (literal.toList ++ rest) = [c, d] := by
  rw [sign, undigited_literal spelled letter, spelled, String.toList_ofList]
  rfl

theorem sign_literal {literal : String} {c d : Char} {more : List Char}
    (spelled : literal = String.ofList (c :: d :: more)) (letter : c.isDigit = false) :
    sign literal.toList = [c, d] := by
  rw [← List.append_nil literal.toList, sign_append spelled letter]

/-- The sign of a line that says this. -/
def mark : Line → List Char
  | .suite _ => ['s', 'u']
  | .unprepared _ => ['w', 'a']
  | .crashed _ => [' ', 'r']
  | .strange _ => [' ', 't']
  | .item .. => [' ', ' ']
  | .blank => []
  | .judged (.passed _) => ['P', 'a']
  | .judged (.failed ..) => ['F', 'a']
  | .judged .empty => ['T', 'h']
  | .judged .interrupted => ['I', 'n']
  | .cut .. => [' ', 'a']

theorem sign_letters (line : Line) : sign line.letters = line.mark := by
  cases line with
  | suite name => exact sign_append rfl rfl _
  | unprepared failure => exact sign_append rfl rfl _
  | crashed count => exact (sign_toDigits _ _).trans (sign_literal rfl rfl)
  | strange count => exact (sign_toDigits _ _).trans (sign_literal rfl rfl)
  | item index shown => exact sign_append rfl rfl _
  | blank => rfl
  | judged verdict =>
    cases verdict with
    | passed total => exact sign_append rfl rfl _
    | failed failures total => exact sign_append rfl rfl _
    | empty => exact sign_literal rfl rfl
    | interrupted => exact sign_literal rfl rfl
  | cut processed passed failed => exact (sign_toDigits _ _).trans (sign_append rfl rfl _)

/-- Two verdicts of one sign are told apart by their numbers. -/
theorem ofVerdict_inj {verdict other : Verdict} (marks : mark (.judged verdict) = mark (.judged other))
    (same : ofVerdict verdict = ofVerdict other) : verdict = other := by
  have ends (rest : List Char) : Undigited (" tests!".toList ++ rest) := undigited_literal rfl rfl rest
  have inside (rest : List Char) : Undigited (" of ".toList ++ rest) := undigited_literal rfl rfl rest
  cases verdict with
  | passed total =>
    cases other with
    | passed otherTotal =>
      have counts := List.append_cancel_left same
      rw [toDigits_inj (List.append_cancel_right counts)]
    | _ => cases marks
  | failed failures total =>
    cases other with
    | failed otherFailures otherTotal =>
      obtain ⟨failures, rest⟩ := toDigits_append_inj (inside _) (inside _) (List.append_cancel_left same)
      have totals := List.append_cancel_right (List.append_cancel_left rest)
      rw [failures, toDigits_inj totals]
    | _ => cases marks
  | empty =>
    cases other with
    | empty => rfl
    | _ => cases marks
  | interrupted =>
    cases other with
    | interrupted => rfl
    | _ => cases marks

/-- A line says one thing only. -/
theorem letters_inj {line other : Line} (same : line.letters = other.letters) : line = other := by
  have marks : line.mark = other.mark := by rw [← sign_letters, same, sign_letters]
  cases line with
  | suite name =>
    cases other with
    | suite otherName =>
      have names := List.append_cancel_right (List.append_cancel_left same)
      rw [String.toList_inj.mp names]
    | judged verdict => cases verdict <;> cases marks
    | _ => cases marks
  | unprepared failure =>
    cases other with
    | unprepared otherFailure => rw [String.toList_inj.mp (List.append_cancel_left same)]
    | judged verdict => cases verdict <;> cases marks
    | _ => cases marks
  | crashed count =>
    cases other with
    | crashed otherCount => rw [toDigits_inj (List.append_cancel_right same)]
    | judged verdict => cases verdict <;> cases marks
    | _ => cases marks
  | strange count =>
    cases other with
    | strange otherCount => rw [toDigits_inj (List.append_cancel_right same)]
    | judged verdict => cases verdict <;> cases marks
    | _ => cases marks
  | item index shown =>
    cases other with
    | item otherIndex otherShown =>
      have ends (rest : List Char) : Undigited (") ".toList ++ rest) := undigited_literal rfl rfl rest
      obtain ⟨indices, rest⟩ := toDigits_append_inj (ends _) (ends _) (List.append_cancel_left same)
      rw [indices, String.toList_inj.mp (List.append_cancel_left rest)]
    | judged verdict => cases verdict <;> cases marks
    | _ => cases marks
  | blank =>
    cases other with
    | blank => rfl
    | judged verdict => cases verdict <;> cases marks
    | _ => cases marks
  | judged verdict =>
    cases other with
    | judged otherVerdict => rw [ofVerdict_inj marks same]
    | _ => cases verdict <;> cases marks
  | cut processed passed failed =>
    cases other with
    | cut otherProcessed otherPassed otherFailed =>
      have first (rest : List Char) :
          Undigited (" artifacts processed before the interrupt (".toList ++ rest) := undigited_literal rfl rfl rest
      have second (rest : List Char) : Undigited (" passed, ".toList ++ rest) := undigited_literal rfl rfl rest
      obtain ⟨processed, rest⟩ := toDigits_append_inj (first _) (first _) same
      obtain ⟨passed, rest⟩ := toDigits_append_inj (second _) (second _) (List.append_cancel_left rest)
      have failed := List.append_cancel_right (List.append_cancel_left rest)
      rw [processed, passed, toDigits_inj failed]
    | judged verdict => cases verdict <;> cases marks
    | _ => cases marks

/-- What a line shows that is not its own wording is in one line. -/
def IsPlain : Line → Prop
  | .suite name => '\n' ∉ name.toList
  | .unprepared failure => '\n' ∉ failure.toList
  | .item _ shown => '\n' ∉ shown.toList
  | _ => True

theorem newline_not_mem_ofVerdict (verdict : Verdict) : '\n' ∉ ofVerdict verdict := by
  cases verdict with
  | passed total =>
    exact List.not_mem_append (newline_not_mem_literal rfl rfl)
      (List.not_mem_append (newline_not_mem_toDigits total) (newline_not_mem_literal rfl rfl))
  | failed failures total =>
    exact List.not_mem_append (newline_not_mem_literal rfl rfl)
      (List.not_mem_append (newline_not_mem_toDigits failures) (List.not_mem_append (newline_not_mem_literal rfl rfl)
        (List.not_mem_append (newline_not_mem_toDigits total) (newline_not_mem_literal rfl rfl))))
  | empty => exact newline_not_mem_literal rfl rfl
  | interrupted => exact newline_not_mem_literal rfl rfl

theorem IsPlain.letters {line : Line} (plain : line.IsPlain) : '\n' ∉ line.letters := by
  cases line with
  | suite name =>
    exact List.not_mem_append (newline_not_mem_literal rfl rfl)
      (List.not_mem_append plain (newline_not_mem_literal rfl rfl))
  | unprepared failure => exact List.not_mem_append (newline_not_mem_literal rfl rfl) plain
  | crashed count => exact List.not_mem_append (newline_not_mem_toDigits count) (newline_not_mem_literal rfl rfl)
  | strange count => exact List.not_mem_append (newline_not_mem_toDigits count) (newline_not_mem_literal rfl rfl)
  | item index shown =>
    exact List.not_mem_append (newline_not_mem_literal rfl rfl) (List.not_mem_append (newline_not_mem_toDigits index)
      (List.not_mem_append (newline_not_mem_literal rfl rfl) plain))
  | blank => exact List.not_mem_nil
  | judged verdict => exact newline_not_mem_ofVerdict verdict
  | cut processed passed failed =>
    exact List.not_mem_append (newline_not_mem_toDigits processed)
      (List.not_mem_append (newline_not_mem_literal rfl rfl) (List.not_mem_append (newline_not_mem_toDigits passed)
        (List.not_mem_append (newline_not_mem_literal rfl rfl)
          (List.not_mem_append (newline_not_mem_toDigits failed) (newline_not_mem_literal rfl rfl)))))

end Line

/-- The lines of a list of paths. -/
def itemLines (paths : List Path) : List Line := paths.zipIdx.map fun (path, index) => .item index path.display

/-- The lines of a list of paths below a heading, if there are any. -/
def partLines (heading : Line) (paths : List Path) : List Line :=
  if paths.isEmpty then [] else heading :: itemLines paths ++ [.blank]

/-- The lines of the printed summary. -/
def lines (report : Report) : List Line :=
  [.suite report.suite] ++ report.prepareFailure.toList.map .unprepared ++
  partLines (.crashed report.failedReference.length) report.failedReference ++
  partLines (.strange report.wrong.length) report.wrong ++ [.judged report.verdict] ++ itemLines report.failed ++
  if report.interrupted then [.cut report.processed report.passed.length report.failed.length] else []

theorem toList_count (n : Nat) (behind : String) :
    (toString n ++ behind).toList = Nat.toDigits 10 n ++ behind.toList := by
  rw [String.toList_append]
  exact congrArg (· ++ behind.toList) Nat.toList_repr

theorem toList_around (before : String) (n : Nat) (behind : String) :
    (before ++ toString n ++ behind).toList = before.toList ++ (Nat.toDigits 10 n ++ behind.toList) := by
  rw [String.append_assoc, String.toList_append, toList_count]

theorem message_letters (verdict : Verdict) : verdict.message.toList = (Line.judged verdict).letters := by
  cases verdict with
  | passed total => exact toList_around _ total _
  | failed failures total =>
    refine (toList_around ("Failed " ++ toString failures ++ " of ") total " tests!").trans ?_
    rw [toList_around "Failed " failures " of ", List.append_assoc, List.append_assoc]
    rfl
  | empty => rfl
  | interrupted => rfl

theorem numbered_letters (paths : List Path) :
    (numbered paths).map String.toList = (itemLines paths).map Line.letters := by
  rw [numbered, itemLines, List.map_map, List.map_map]
  refine List.map_congr_left fun item _ => ?_
  obtain ⟨path, index⟩ := item
  change ("  " ++ toString index ++ ") " ++ path.display).toList = _
  rw [String.toList_append, toList_around, List.append_assoc, List.append_assoc]
  rfl

theorem section_letters (heading : String) {line : Line} (same : heading.toList = line.letters) (paths : List Path) :
    (section_ heading paths).map String.toList = (partLines line paths).map Line.letters := by
  unfold section_ partLines
  split
  · rfl
  · simp only [List.map_append, List.map_cons, List.map_nil, numbered_letters, same]
    rfl

theorem suite_letters (name : String) : (s!"suite {name}:").toList = (Line.suite name).letters := by
  rw [String.toList_append, String.toList_append, List.append_assoc]
  rfl

theorem unprepared_letters (failure : Option String) :
    (failure.toList.map fun failure => s!"warning: artifact generation failed: {failure}").map String.toList =
      (failure.toList.map Line.unprepared).map Line.letters := by
  rw [List.map_map, List.map_map]
  exact List.map_congr_left fun failure _ => String.toList_append

theorem cut_letters (processed passed failed : Nat) :
    (s!"{processed} artifacts processed before the interrupt ({passed} passed, {failed} failed)").toList =
      (Line.cut processed passed failed).letters := by
  refine (toList_around (toString processed ++ " artifacts processed before the interrupt (" ++ toString passed ++
    " passed, ") failed " failed)").trans ?_
  rw [toList_around (toString processed ++ " artifacts processed before the interrupt (") passed " passed, ",
    toList_count, List.append_assoc, List.append_assoc, List.append_assoc]
  rfl

/-- The printed lines are worded as they should be. -/
theorem summaryLines_letters (report : Report) :
    report.summaryLines.map String.toList = report.lines.map Line.letters := by
  simp only [summaryLines, lines, List.map_append]
  congr 1
  · congr 1
    · congr 1
      · congr 1
        · congr 1
          · congr 1
            · exact congrArg (fun letters => [letters]) (suite_letters report.suite)
            · exact unprepared_letters report.prepareFailure
          · exact section_letters _ (toList_count report.failedReference.length _) report.failedReference
        · exact section_letters _ (toList_count report.wrong.length _) report.wrong
      · exact congrArg (fun letters => [letters]) (message_letters report.verdict)
    · exact numbered_letters report.failed
  · split
    · exact congrArg (fun letters => [letters]) (cut_letters _ _ _)
    · rfl

theorem split_summary {report : Report} (plain : ∀ line ∈ report.lines, line.IsPlain) :
    Bytes.split 0x0a report.summary = report.summaryLines.map utf8 ++ [[]] := by
  have inLine : ∀ text ∈ report.summaryLines, (0x0a : UInt8) ∉ utf8 text := by
    intro text member
    rw [newline_mem_utf8_iff]
    have letters : text.toList ∈ report.lines.map Line.letters :=
      summaryLines_letters report ▸ List.mem_map_of_mem member
    obtain ⟨line, found, same⟩ := List.mem_map.mp letters
    exact same ▸ (plain line found).letters
  rw [summary, summaryPieces]
  generalize report.summaryLines = texts at inLine
  induction texts with
  | nil => rfl
  | cons text texts ih =>
    obtain ⟨first, later⟩ := List.forall_mem_cons.mp inLine
    rw [List.map_cons, List.flatten_cons, List.append_assoc, List.singleton_append, Bytes.split_append first, ih later,
      List.map_cons, List.cons_append]

/-- The printed bytes tell the lines. -/
theorem lines_eq_of_summary {report other : Report} (plain : ∀ line ∈ report.lines, line.IsPlain)
    (otherPlain : ∀ line ∈ other.lines, line.IsPlain) (same : report.summary = other.summary) :
    report.lines = other.lines := by
  have cut := congrArg (Bytes.split 0x0a) same
  rw [split_summary plain, split_summary otherPlain] at cut
  have texts : report.summaryLines = other.summaryLines :=
    (List.map_inj_right fun _ _ => Utf8.utf8_inj).mp (List.append_cancel_right cut)
  have letters := congrArg (List.map String.toList) texts
  rw [summaryLines_letters, summaryLines_letters] at letters
  exact (List.map_inj_right fun _ _ => Line.letters_inj).mp letters

namespace Line

def suite? : Line → Option String
  | .suite name => name
  | _ => none

def unprepared? : Line → Option String
  | .unprepared failure => failure
  | _ => none

def crashed? : Line → Option Nat
  | .crashed count => count
  | _ => none

def strange? : Line → Option Nat
  | .strange count => count
  | _ => none

def item? : Line → Option (Nat × String)
  | .item index shown => (index, shown)
  | _ => none

def judged? : Line → Option Verdict
  | .judged verdict => verdict
  | _ => none

def cut? : Line → Option (Nat × Nat × Nat)
  | .cut processed passed failed => (processed, passed, failed)
  | _ => none

end Line

section Kinds

variable {α : Type} {kind : Line → Option α}

theorem filterMap_itemLines (other : ∀ index shown, kind (.item index shown) = none) (paths : List Path) :
    (itemLines paths).filterMap kind = [] := by
  rw [itemLines, List.filterMap_map, List.filterMap_eq_nil_iff]
  exact fun item _ => other _ _

theorem filterMap_partLines (other : ∀ index shown, kind (.item index shown) = none) (blank : kind .blank = none)
    (heading : Line) (paths : List Path) :
    (partLines heading paths).filterMap kind = if paths.isEmpty then [] else (kind heading).toList := by
  unfold partLines
  split
  · rfl
  · rw [List.filterMap_append, List.filterMap_cons, filterMap_itemLines other]
    cases kind heading <;> simp [blank]

/-- The lines of a kind that lists of paths have no part in. -/
theorem filterMap_lines (other : ∀ index shown, kind (.item index shown) = none) (blank : kind .blank = none)
    (report : Report) :
    report.lines.filterMap kind =
      (kind (.suite report.suite)).toList ++ report.prepareFailure.toList.filterMap (kind ∘ .unprepared) ++
      (if report.failedReference.isEmpty then [] else (kind (.crashed report.failedReference.length)).toList) ++
      (if report.wrong.isEmpty then [] else (kind (.strange report.wrong.length)).toList) ++
      (kind (.judged report.verdict)).toList ++
      if report.interrupted then (kind (.cut report.processed report.passed.length report.failed.length)).toList
        else [] := by
  have single (line : Line) : [line].filterMap kind = (kind line).toList := by
    cases told : kind line <;> simp [told]
  simp only [lines, List.filterMap_append, single, List.filterMap_map, filterMap_partLines other blank,
    filterMap_itemLines other, List.append_nil]
  congr 1
  split
  · exact single _
  · rfl

end Kinds

/-- The paths of a list with their numbers, as they are shown. -/
def shown (paths : List Path) : List (Nat × String) := paths.zipIdx.map fun (path, index) => (index, path.display)

/-- What lines say of a report, one kind of line at a time. -/
structure Tells (lines : List Line) (report : Report) : Prop where
  suite : lines.filterMap Line.suite? = [report.suite]
  unprepared : lines.filterMap Line.unprepared? = report.prepareFailure.toList
  crashed : lines.filterMap Line.crashed? =
    if report.failedReference.isEmpty then [] else [report.failedReference.length]
  strange : lines.filterMap Line.strange? = if report.wrong.isEmpty then [] else [report.wrong.length]
  items : lines.filterMap Line.item? = shown report.failedReference ++ shown report.wrong ++ shown report.failed
  judged : lines.filterMap Line.judged? = [report.verdict]
  cut : lines.filterMap Line.cut? =
    if report.interrupted then [(report.processed, report.passed.length, report.failed.length)] else []

theorem filterMap_item?_itemLines (paths : List Path) : (itemLines paths).filterMap Line.item? = shown paths := by
  rw [itemLines, List.filterMap_map, shown, ← List.filterMap_eq_map]
  rfl

theorem filterMap_item?_partLines {heading : Line} (other : heading.item? = none) (paths : List Path) :
    (partLines heading paths).filterMap Line.item? = shown paths := by
  unfold partLines
  split
  · next empty =>
    rw [List.isEmpty_iff.mp empty]
    rfl
  · rw [List.filterMap_append, List.filterMap_cons, other, filterMap_item?_itemLines]
    simp [Line.item?]

theorem lines_tell (report : Report) : Tells report.lines report where
  suite := by
    rw [filterMap_lines (fun _ _ => rfl) rfl]
    simp [Line.suite?]
  unprepared := by
    have same : Line.unprepared? ∘ Line.unprepared = some := rfl
    rw [filterMap_lines (fun _ _ => rfl) rfl, same, List.filterMap_some]
    simp [Line.unprepared?]
  crashed := by
    rw [filterMap_lines (fun _ _ => rfl) rfl]
    simp [Line.crashed?]
  strange := by
    rw [filterMap_lines (fun _ _ => rfl) rfl]
    simp [Line.strange?]
  items := by
    have crashed := filterMap_item?_partLines (rfl : (Line.crashed report.failedReference.length).item? = none)
    have strange := filterMap_item?_partLines (rfl : (Line.strange report.wrong.length).item? = none)
    have failures : (report.prepareFailure.toList.map Line.unprepared).filterMap Line.item? = [] := by
      rw [List.filterMap_map, List.filterMap_eq_nil_iff]
      exact fun _ _ => rfl
    have last : (if report.interrupted then
        [Line.cut report.processed report.passed.length report.failed.length] else []).filterMap Line.item? = [] := by
      split <;> rfl
    have suite : [Line.suite report.suite].filterMap Line.item? = [] := rfl
    have judged : [Line.judged report.verdict].filterMap Line.item? = [] := rfl
    simp only [lines, List.filterMap_append, suite, failures, crashed, strange, judged, filterMap_item?_itemLines, last,
      List.nil_append, List.append_nil]
  judged := by
    rw [filterMap_lines (fun _ _ => rfl) rfl]
    simp [Line.judged?]
  cut := by
    rw [filterMap_lines (fun _ _ => rfl) rfl]
    simp [Line.cut?]

/-- The name, the failure and the paths of a report are text in one line each. -/
structure InLines (report : Report) : Prop where
  suite : '\n' ∉ report.suite.toList
  failure : ∀ failure ∈ report.prepareFailure, '\n' ∉ failure.toList
  path : ∀ outcome, ∀ path ∈ report.bucket outcome, Utf8.valid path.bytes = true ∧ 0x0a ∉ path.bytes

variable {report other : Report}

theorem InLines.items (inLines : report.InLines) (outcome : Outcome) {line : Line}
    (member : line ∈ itemLines (report.bucket outcome)) : line.IsPlain := by
  obtain ⟨⟨path, index⟩, listed, rfl⟩ := List.mem_map.mp member
  obtain ⟨wellFormed, inLine⟩ := inLines.path outcome path (List.fst_mem_of_mem_zipIdx listed)
  have same : utf8 path.display = path.bytes := Utf8.lossy_of_valid wellFormed
  rw [← same, newline_mem_utf8_iff] at inLine
  exact inLine

theorem InLines.parts (inLines : report.InLines) (outcome : Outcome) {heading line : Line} (known : heading.IsPlain)
    (member : line ∈ partLines heading (report.bucket outcome)) : line.IsPlain := by
  unfold partLines at member
  split at member
  · cases member
  · rcases List.mem_append.mp member with early | last
    · rcases List.mem_cons.mp early with rfl | listed
      · exact known
      · exact inLines.items outcome listed
    · rw [List.mem_singleton.mp last]
      trivial

theorem InLines.plain (inLines : report.InLines) : ∀ line ∈ report.lines, line.IsPlain := by
  intro line member
  simp only [lines, List.mem_append] at member
  rcases member with (((((suite | unprepared) | crashed) | strange) | judged) | failed) | cut
  · rw [List.mem_singleton.mp suite]
    exact inLines.suite
  · obtain ⟨failure, some_, rfl⟩ := List.mem_map.mp unprepared
    exact inLines.failure failure (by simpa using some_)
  · exact inLines.parts .failedReference
      (show (Line.crashed report.failedReference.length).IsPlain from trivial) crashed
  · exact inLines.parts .wrong (show (Line.strange report.wrong.length).IsPlain from trivial) strange
  · rw [List.mem_singleton.mp judged]
    trivial
  · exact inLines.items .failed failed
  · split at cut
    · rw [List.mem_singleton.mp cut]
      trivial
    · cases cut

theorem length_shown (paths : List Path) : (shown paths).length = paths.length := by
  rw [shown, List.length_map, List.length_zipIdx]

/-- Paths that are text are known by what is shown of them. -/
theorem shown_inj {paths others : List Path} (isText : ∀ path ∈ paths, Utf8.valid path.bytes = true)
    (otherIsText : ∀ path ∈ others, Utf8.valid path.bytes = true) (same : shown paths = shown others) :
    paths = others := by
  have texts (paths : List Path) : (shown paths).map Prod.snd = paths.map Path.display := by
    refine Eq.trans ?_ (congrArg (List.map Path.display) (List.zipIdx_map_fst 0 paths))
    rw [shown, List.map_map, List.map_map]
    rfl
  have bytes {paths : List Path} (isText : ∀ path ∈ paths, Utf8.valid path.bytes = true) :
      (paths.map Path.display).map utf8 = paths.map Path.bytes := by
    rw [List.map_map]
    exact List.map_congr_left fun path member => Utf8.lossy_of_valid (isText path member)
  have written : paths.map Path.bytes = others.map Path.bytes := by
    rw [← bytes isText, ← bytes otherIsText, ← texts, ← texts, same]
  refine (List.map_inj_right fun path other equal => ?_).mp written
  cases path
  cases other
  exact congrArg Path.mk equal

/-- The number that a heading gives, if there is one, is the length of the list. -/
theorem length_eq_of_heading {paths others : List Path} (same : (if paths.isEmpty then [] else [paths.length]) =
    if others.isEmpty then [] else [others.length]) : paths.length = others.length := by
  cases paths <;> cases others <;> simp_all

/-- The number of tests that a verdict gives. -/
def testsIn : Verdict → Nat
  | .passed total | .failed _ total => total
  | .empty | .interrupted => 0

theorem testsIn_verdict (whole : report.interrupted = false) : testsIn report.verdict = report.total := by
  unfold verdict
  rw [whole, if_neg Bool.false_ne_true]
  split
  · rfl
  · split
    · next none_ => exact none_.symm
    · rfl

/-- Two reports that are the same but for which artifacts passed. -/
structure ReadsLike (report other : Report) : Prop where
  suite : report.suite = other.suite
  prepareFailure : report.prepareFailure = other.prepareFailure
  failedReference : report.failedReference = other.failedReference
  wrong : report.wrong = other.wrong
  failed : report.failed = other.failed
  interrupted : report.interrupted = other.interrupted
  passed : report.passed.length = other.passed.length

/-- The number of passed artifacts is in the verdict, or in the last line when
the verdict says that the run was interrupted. -/
theorem Tells.passed {lines : List Line} (tells : Tells lines report) (otherTells : Tells lines other)
    (failed : report.failed = other.failed) :
    report.interrupted = other.interrupted ∧ report.passed.length = other.passed.length := by
  have cut := tells.cut.symm.trans otherTells.cut
  have judged := List.singleton_inj.mp (tells.judged.symm.trans otherTells.judged)
  cases broken : report.interrupted with
  | true =>
    cases otherBroken : other.interrupted with
    | true =>
      rw [broken, otherBroken, if_pos rfl, if_pos rfl] at cut
      simp only [List.cons.injEq, Prod.mk.injEq] at cut
      exact ⟨rfl, cut.1.2.1⟩
    | false => simp [broken, otherBroken] at cut
  | false =>
    cases otherBroken : other.interrupted with
    | true => simp [broken, otherBroken] at cut
    | false =>
      have totals : report.total = other.total := by
        rw [← testsIn_verdict broken, judged, testsIn_verdict otherBroken]
      unfold total at totals
      rw [failed] at totals
      exact ⟨rfl, Nat.add_right_cancel totals⟩

theorem Tells.readsLike {lines : List Line} (tells : Tells lines report) (otherTells : Tells lines other)
    (inLines : report.InLines) (otherInLines : other.InLines) : report.ReadsLike other := by
  have isText (outcome : Outcome) : ∀ path ∈ report.bucket outcome, Utf8.valid path.bytes = true :=
    fun path member => (inLines.path outcome path member).1
  have otherIsText (outcome : Outcome) : ∀ path ∈ other.bucket outcome, Utf8.valid path.bytes = true :=
    fun path member => (otherInLines.path outcome path member).1
  have crashed := length_eq_of_heading (tells.crashed.symm.trans otherTells.crashed)
  have strange := length_eq_of_heading (tells.strange.symm.trans otherTells.strange)
  rw [← length_shown, ← length_shown other.failedReference] at crashed
  rw [← length_shown, ← length_shown other.wrong] at strange
  -- The lists stand behind one another, and the headings say where each of them ends.
  obtain ⟨both, failed⟩ := List.append_inj (tells.items.symm.trans otherTells.items) (by
    rw [List.length_append, List.length_append, crashed, strange])
  obtain ⟨failedReference, wrong⟩ := List.append_inj both crashed
  have sameFailed : report.failed = other.failed := shown_inj (isText .failed) (otherIsText .failed) failed
  obtain ⟨interrupted, passed⟩ := tells.passed otherTells sameFailed
  have failure : report.prepareFailure = other.prepareFailure := by
    have first := congrArg List.head? (tells.unprepared.symm.trans otherTells.unprepared)
    rwa [Option.head?_toList, Option.head?_toList] at first
  exact {
    suite := List.singleton_inj.mp (tells.suite.symm.trans otherTells.suite)
    prepareFailure := failure
    failedReference := shown_inj (isText .failedReference) (otherIsText .failedReference) failedReference
    wrong := shown_inj (isText .wrong) (otherIsText .wrong) wrong
    failed := sameFailed
    interrupted := interrupted
    passed := passed }

theorem ReadsLike.summary (alike : report.ReadsLike other) : report.summary = other.summary := by
  have total : report.total = other.total := by rw [Report.total, alike.passed, alike.failed, Report.total]
  have verdict : report.verdict = other.verdict := by
    rw [Report.verdict, alike.interrupted, alike.failed, total, Report.verdict]
  have processed : report.processed = other.processed := by
    rw [Report.processed, total, alike.failedReference, alike.wrong, Report.processed]
  rw [Report.summary, summaryPieces, summaryLines, alike.suite, alike.prepareFailure, alike.failedReference,
    alike.wrong, verdict, alike.failed, alike.interrupted, processed, alike.passed]
  rfl

/-- A device that takes everything behind what it has. -/
def takeAll : Writer Bytes := fun bytes taken => (true, taken ++ bytes)

theorem writePieces_takeAll (pieces : List Bytes) (taken : Bytes) :
    writePieces takeAll pieces taken = (true, taken ++ pieces.flatten) := by
  induction pieces generalizing taken with
  | nil => rw [writePieces, List.flatten_nil, List.append_nil]
  | cons piece pieces ih =>
    change writePieces takeAll pieces (taken ++ piece) = _
    rw [ih, List.flatten_cons, List.append_assoc]

/-- The summary that is printed. -/
def printed (report : Report) : Bytes := (report.writeSummary takeAll []).2

theorem printed_eq_summary (report : Report) : report.printed = report.summary := by
  rw [printed, writeSummary_eq, writePieces_takeAll]
  exact List.nil_append _

/-- Nothing in a printed summary can be taken for something else, nothing is
left out of it and nothing is in it twice: it is the same for two reports only
when they differ in nothing but which artifacts passed. -/
theorem printed_same_iff (inLines : report.InLines) (otherInLines : other.InLines) :
    report.printed = other.printed ↔ report.ReadsLike other := by
  rw [printed_eq_summary, printed_eq_summary]
  constructor
  · intro same
    have tells := lines_tell report
    rw [lines_eq_of_summary inLines.plain otherInLines.plain same] at tells
    exact tells.readsLike (lines_tell other) inLines otherInLines
  · exact ReadsLike.summary

/-- A reference that crashed under a name that reads like the end of its list and the beginning of another. -/
def muddled : Report where
  suite := "s:"
  passed := [.ofString "a.ll"]
  failed := [.ofString "  0) b.ll"]
  failedReference := [.ofString "1 tests have a nonzero reference exit code!", .ofString "Failed 1 of 2 tests!"]
  wrong := []
  prepareFailure := some "1 reference tests failed!"
  interrupted := false

/-- The same with the second path under the other warning. -/
def sorted : Report :=
  { muddled with
    failedReference := [.ofString "1 tests have a nonzero reference exit code!"]
    wrong := [.ofString "Failed 1 of 2 tests!"] }

theorem muddled_not_sorted : muddled.printed ≠ sorted.printed := by
  have inLines : muddled.InLines := ⟨by decide, by decide, fun outcome => by cases outcome <;> decide +kernel⟩
  have otherInLines : sorted.InLines := ⟨by decide, by decide, fun outcome => by cases outcome <;> decide +kernel⟩
  intro same
  exact absurd ((printed_same_iff inLines otherInLines).mp same).wrong (by decide)

end Report
end ExitParity
