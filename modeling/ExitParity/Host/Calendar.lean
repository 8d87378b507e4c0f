import ExitParity.Host.Printing
import ExitParity.Utf8

/-! Dates: how days are counted, and how moments are written and read. -/

namespace ExitParity

/-- A moment in parts, in universal time. Months and days are counted from one. -/
structure Moment where
  year : Int
  month : Nat
  day : Nat
  hour : Nat
  minute : Nat
  second : Nat
  nanosecond : Nat

namespace Moment

/-- The number of days from the beginning of 1970 to a day. Years begin in
March here, so that the day that only some years have comes last. -/
def daysOf (year : Int) (month day : Nat) : Int :=
  let year := if month ≤ 2 then year - 1 else year
  let era := year / 400
  let yearOfEra := year - era * 400
  let monthFromMarch := (month + 9) % 12
  let dayOfYear : Int := (153 * monthFromMarch + 2) / 5 + day - 1
  era * 146097 + yearOfEra * 365 + yearOfEra / 4 - yearOfEra / 100 + dayOfYear - 719468

/-- The day that comes so many days after the beginning of 1970. -/
def dayOf (days : Int) : Int × Nat × Nat :=
  let days := days + 719468
  let era := days / 146097
  let dayOfEra := days - era * 146097
  let yearOfEra := (dayOfEra - dayOfEra / 1460 + dayOfEra / 36524 - dayOfEra / 146096) / 365
  let dayOfYear := (dayOfEra - (365 * yearOfEra + yearOfEra / 4 - yearOfEra / 100)).toNat
  let fromMarch := (5 * dayOfYear + 2) / 153
  let month := (fromMarch + 2) % 12 + 1
  (yearOfEra + era * 400 + if month ≤ 2 then 1 else 0, month, dayOfYear - (153 * fromMarch + 2) / 5 + 1)

/-- The seconds from the beginning of 1970 to a moment. -/
def seconds (moment : Moment) : Int :=
  daysOf moment.year moment.month moment.day * 86400 + moment.hour * 3600 + moment.minute * 60 + moment.second

def ofNanoseconds (time : Int) : Moment :=
  let seconds := time / 10 ^ 9
  let days := seconds / 86400
  let inDay := (seconds - days * 86400).toNat
  let (year, month, day) := dayOf days
  ⟨year, month, day, inDay / 3600, inDay / 60 % 60, inDay % 60, (time - seconds * 10 ^ 9).toNat⟩

def nanoseconds (moment : Moment) : Int := moment.seconds * 10 ^ 9 + moment.nanosecond

/-- The day of the week, Sunday being zero. -/
def weekday (moment : Moment) : Nat := ((daysOf moment.year moment.month moment.day + 4) % 7).toNat

/-- The day of the year, counted from zero. -/
def yearDay (moment : Moment) : Nat :=
  (daysOf moment.year moment.month moment.day - daysOf moment.year 1 1).toNat

def isLeap (year : Int) : Bool := year % 4 == 0 && (year % 100 != 0 || year % 400 == 0)

def monthLength (year : Int) (month : Nat) : Nat :=
  if month == 2 then if isLeap year then 29 else 28
  else if [4, 6, 9, 11].contains month then 30 else 31

def isSound (moment : Moment) : Bool :=
  1 ≤ moment.month && moment.month ≤ 12 && 1 ≤ moment.day && moment.day ≤ monthLength moment.year moment.month &&
    moment.hour < 24 && moment.minute < 60 && moment.second ≤ 60

def monthNames : List String :=
  ["January", "February", "March", "April", "May", "June", "July", "August", "September", "October", "November", "December"]

def dayNames : List String := ["Sunday", "Monday", "Tuesday", "Wednesday", "Thursday", "Friday", "Saturday"]

/-- A number in at least so many digits. -/
def padded (fill : UInt8) (width number : Nat) : Bytes :=
  let digits := Printing.toDigits 10 number
  List.replicate (width - digits.length) fill ++ digits

/-- The week of the year, weeks beginning on a day of the week. -/
def weekOfYear (moment : Moment) (start : Nat) : Nat := (moment.yearDay + 7 - (moment.weekday + 7 - start) % 7) / 7

/-- The year and the week by the rule that a week belongs to the year that most
of its days are in. -/
def mainWeek (moment : Moment) : Int × Nat :=
  let weekday := if moment.weekday == 0 then 7 else moment.weekday
  let days := daysOf moment.year moment.month moment.day + 4 - weekday
  let (year, _, _) := dayOf days
  (year, ((days - daysOf year 1 1) / 7).toNat + 1)

mutual

/-- Write a moment as a format says. -/
def format (moment : Moment) : Nat → Bytes → Bytes
  | fuel + 1, 0x25 :: rest =>
    let flags := rest.takeWhile fun byte => [0x2d, 0x5f, 0x30, 0x5e, 0x23].elem byte
    let rest := rest.drop flags.length
    let width := rest.takeWhile Printing.isDecimal
    let rest := rest.drop width.length
    match rest with
    | [] => 0x25 :: flags
    | letter :: rest =>
      let text := part moment fuel flags letter
      let text := if flags.elem 0x5e then text.map Printing.upper else text
      let fill : UInt8 := if flags.elem 0x5f then 0x20 else 0x30
      List.replicate (Printing.digits 10 width - text.length) fill ++ text ++ format moment fuel rest
  | fuel + 1, byte :: rest => byte :: format moment fuel rest
  | _, _ => []

/-- What a letter behind a percent sign stands for. -/
def part (moment : Moment) (fuel : Nat) (flags : Bytes) (letter : UInt8) : Bytes :=
  let number (fill : UInt8) (width value : Nat) : Bytes :=
    if flags.elem 0x2d then Printing.toDigits 10 value
    else padded (if flags.elem 0x5f then 0x20 else if flags.elem 0x30 then 0x30 else fill) width value
  let two := number 0x30 2
  let name (names : List String) (index : Nat) : Bytes := utf8 (names[index]?.getD "")
  let hour12 := if moment.hour % 12 == 0 then 12 else moment.hour % 12
  let whole (text : String) : Bytes :=
    match fuel with
    | 0 => []
    | fuel + 1 => format moment fuel (utf8 text)
  let (weekYear, week) := moment.mainWeek
  match Char.ofNat letter.toNat with
  | '%' => [0x25]
  | 'n' => [0x0a]
  | 't' => [0x09]
  | 'Y' => number 0x30 1 moment.year.toNat
  | 'C' => two (moment.year / 100).toNat
  | 'y' => two (moment.year % 100).toNat
  | 'm' => two moment.month
  | 'd' => two moment.day
  | 'e' => number 0x20 2 moment.day
  | 'H' => two moment.hour
  | 'k' => number 0x20 2 moment.hour
  | 'I' => two hour12
  | 'l' => number 0x20 2 hour12
  | 'M' => two moment.minute
  | 'S' => two moment.second
  | 'N' => padded 0x30 9 moment.nanosecond
  | 's' => (if moment.seconds < 0 then [0x2d] else []) ++ number 0x30 1 moment.seconds.natAbs
  | 'j' => number 0x30 3 (moment.yearDay + 1)
  | 'u' => number 0x30 1 (if moment.weekday == 0 then 7 else moment.weekday)
  | 'w' => number 0x30 1 moment.weekday
  | 'a' => (name dayNames moment.weekday).take 3
  | 'A' => name dayNames moment.weekday
  | 'b' | 'h' => (name monthNames (moment.month - 1)).take 3
  | 'B' => name monthNames (moment.month - 1)
  | 'p' => utf8 (if moment.hour < 12 then "AM" else "PM")
  | 'P' => utf8 (if moment.hour < 12 then "am" else "pm")
  | 'q' => number 0x30 1 ((moment.month + 2) / 3)
  | 'U' => two (moment.weekOfYear 0)
  | 'W' => two (moment.weekOfYear 1)
  | 'V' => two week
  | 'G' => number 0x30 1 weekYear.toNat
  | 'g' => two (weekYear % 100).toNat
  | 'z' => utf8 "+0000"
  | 'Z' => utf8 "UTC"
  | 'D' | 'x' => whole "%m/%d/%y"
  | 'F' => whole "%Y-%m-%d"
  | 'T' | 'X' => whole "%H:%M:%S"
  | 'R' => whole "%H:%M"
  | 'r' => whole "%I:%M:%S %p"
  | 'c' => whole "%a %b %e %H:%M:%S %Y"
  | _ => 0x25 :: flags ++ [letter]

end

/-- A moment as a format says. -/
def show_ (moment : Moment) (layout : Bytes) : Bytes := moment.format (layout.length + 32) layout

/-- The words of a text, between blanks. -/
def wordsOf (text : Bytes) : List Bytes :=
  ((text.foldr (fun byte (words : List Bytes) =>
    if Printing.isSpace byte then [] :: words
    else match words with
      | word :: words => (byte :: word) :: words
      | [] => [[byte]]) [[]])).filter (!·.isEmpty)

/-- A day such as `2024-02-29`. -/
def date? (text : Bytes) : Option (Int × Nat × Nat) :=
  match Bytes.split 0x2d text with
  | [year, month, day] =>
    if [year, month, day].all fun part => !part.isEmpty && part.all Printing.isDecimal then
      some (Printing.digits 10 year, Printing.digits 10 month, Printing.digits 10 day)
    else none
  | _ => none

/-- A time of day such as `12:30`, `12:30:15` or `12:30:15.5`, in nanoseconds. -/
def timeOfDay? (text : Bytes) : Option (Nat × Nat × Nat × Nat) :=
  let isNumber (part : Bytes) : Bool := !part.isEmpty && part.all Printing.isDecimal
  match Bytes.split 0x3a text with
  | [hour, minute] =>
    if isNumber hour && isNumber minute then some (Printing.digits 10 hour, Printing.digits 10 minute, 0, 0) else none
  | [hour, minute, second] =>
    let whole := second.takeWhile Printing.isDecimal
    let fraction := (second.drop (whole.length + 1)).take 9
    if isNumber hour && isNumber minute && isNumber whole && fraction.all Printing.isDecimal then
      some (Printing.digits 10 hour, Printing.digits 10 minute, Printing.digits 10 whole,
        Printing.digits 10 (fraction ++ List.replicate (9 - fraction.length) 0x30))
    else none
  | _ => none

/-- The number and the unit of a distance such as `2 days ago`, in seconds. -/
def unitSeconds? (word : Bytes) : Option Int :=
  let name := Utf8.display (word.map Printing.lower)
  let name := if name.endsWith "s" then (name.dropEnd 1).toString else name
  [("sec", 1), ("second", 1), ("min", 60), ("minute", 60), ("hour", 3600), ("day", 86400), ("week", 604800),
    ("fortnight", 1209600)].lookup name

/-- Apply words of a text to a moment, given with the one from which on
distances are counted. -/
def applyWords (now : Int) : Nat → List Bytes → Int → Option Int
  | 0, _, _ => none
  | _, [], time => some time
  | fuel + 1, word :: rest, time =>
    let name := Utf8.display (word.map Printing.lower)
    let day : Int := 86400 * 10 ^ 9
    if ["now", "today", "utc", "z", "gmt"].contains name then applyWords now fuel rest time
    else if name == "yesterday" then applyWords now fuel rest (time - day)
    else if name == "tomorrow" then applyWords now fuel rest (time + day)
    else match word with
      | 0x40 :: digits =>
        let (negative, digits) := match digits with
          | 0x2d :: digits => (true, digits)
          | digits => (false, digits)
        if !digits.isEmpty && digits.all Printing.isDecimal then
          let value : Int := Printing.digits 10 digits
          applyWords now fuel rest ((if negative then -value else value) * 10 ^ 9)
        else none
      | _ =>
        match date? word, timeOfDay? word with
        | some (year, month, date), _ =>
          let moment : Moment := ⟨year, month, date, 0, 0, 0, 0⟩
          if moment.isSound then applyWords now fuel rest moment.nanoseconds else none
        | none, some (hour, minute, second, fraction) =>
          let current := ofNanoseconds time
          let moment : Moment := ⟨current.year, current.month, current.day, hour, minute, second, fraction⟩
          if moment.isSound then applyWords now fuel rest moment.nanoseconds else none
        | none, none =>
          let (negative, digits) := match word with
            | 0x2d :: digits => (true, digits)
            | 0x2b :: digits => (false, digits)
            | digits => (false, digits)
          match rest with
          | unit :: others =>
            if digits.isEmpty || !digits.all Printing.isDecimal then none
            else match unitSeconds? unit with
              | none => none
              | some seconds =>
                let isAgo := others.head?.any fun word => utf8 "ago" == word.map Printing.lower
                let distance := seconds * Printing.digits 10 digits * 10 ^ 9
                applyWords now fuel (if isAgo then others.drop 1 else others)
                  (if negative != isAgo then time - distance else time + distance)
          | [] => none

/-- The moment that a text such as `2024-02-29 12:30` or `@86400` names. -/
def ofText? (now : Int) (text : Bytes) : Option Int :=
  let spaced := text.map fun byte => if byte == 0x54 && text.any (· == 0x3a) then 0x20 else byte
  let words := wordsOf spaced
  let words := words.map fun word => if word.getLast? == some 0x5a && word.length > 1 then word.dropLast else word
  if words.isEmpty then
    let current := ofNanoseconds now
    some ({ current with hour := 0, minute := 0, second := 0, nanosecond := 0 } : Moment).nanoseconds
  else applyWords now (words.length + 1) words now

/-- The moment that digits such as `202402291230.15` stand for. The year can be
left out. -/
def ofStamp? (now : Int) (text : Bytes) : Option Int :=
  let main := text.takeWhile (· != 0x2e)
  let seconds := text.drop (main.length + 1)
  let digits (from_ count : Nat) : Nat := Printing.digits 10 ((main.drop from_).take count)
  if !main.all Printing.isDecimal || !seconds.all Printing.isDecimal then none
  else
    let year? : Option (Int × Nat) :=
      if main.length == 12 then some (digits 0 4, 4)
      else if main.length == 10 then some (if digits 0 2 < 69 then 2000 + digits 0 2 else 1900 + digits 0 2, 2)
      else if main.length == 8 then some ((ofNanoseconds now).year, 0)
      else none
    year?.bind fun (year, start) =>
      let moment : Moment := ⟨year, digits start 2, digits (start + 2) 2, digits (start + 4) 2, digits (start + 6) 2,
        Printing.digits 10 seconds, 0⟩
      if moment.isSound then some moment.nanoseconds else none

example : dayOf (daysOf 2024 2 29) = (2024, 2, 29) := by decide
example : daysOf 1970 1 1 = 0 := by decide

end Moment
end ExitParity
