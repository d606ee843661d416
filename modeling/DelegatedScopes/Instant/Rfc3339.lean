import DelegatedScopes.Arithmetic
import DelegatedScopes.Instant
import DelegatedScopes.Instant.Calendar
import DelegatedScopes.Text

/-!
# Instants — RFC 3339

Instants are written in UTC, with no fraction or with the shortest of three, six and nine digits
that is exact.  The reader is more tolerant: fields may have fewer digits, blanks may surround
them, a space may stand for the `T`, the offset may be anything short of a day, and years of more
than four digits are read when they carry a sign.

* `Instant.write`: the written form.
* `Instant.read`: the reader; `Instant.Fault` says what it can object to.

The reader takes its fields from left to right, and the first fault ends it.  A field's own range
is checked where the field stands; whether the month has the day is checked last.
-/

namespace DelegatedScopes.Instant

/-- What is wrong with a text that should be an instant. -/
inductive Fault
  | premature
  | invalid
  | outOfRange
  | impossible
  | trailing
deriving DecidableEq

/-- The fault in words. -/
def Fault.message : Fault → String
  | .premature => "premature end of input"
  | .invalid => "input contains invalid characters"
  | .outOfRange => "input is out of range"
  | .impossible => "no possible date and time matching input"
  | .trailing => "trailing input"

/-! ### Writing -/

/-- A number with zeros in front, up to a width. -/
def padded (width n : Nat) : Text :=
  let digits := Text.decimal n
  List.replicate (width - digits.length) '0' ++ digits

/-- A year: four digits, and a sign when it is outside `0` to `9999`. -/
def writeYear (year : Int) : Text :=
  if 0 ≤ year ∧ year ≤ 9999 then padded 4 year.toNat
  else (if year < 0 then '-' else '+') :: padded 4 year.natAbs

/-- A fraction of a second: nothing, or the shortest of three, six and nine digits. -/
def writeFraction (nano : Nat) : Text :=
  if nano = 0 then []
  else if nano % 1000000 = 0 then '.' :: padded 3 (nano / 1000000)
  else if nano % 1000 = 0 then '.' :: padded 6 (nano / 1000)
  else '.' :: padded 9 nano

/-- The written form of an instant. -/
def write (i : Instant) : Text :=
  let date := Date.ofDayNumber (i.second / 86400 + Date.epochDay)
  let time := (i.second % 86400).toNat
  let leap := i.nano / 1000000000
  writeYear date.year ++ ['-'] ++ padded 2 date.month ++ ['-'] ++ padded 2 date.day ++ ['T']
    ++ padded 2 (time / 3600) ++ [':'] ++ padded 2 (time / 60 % 60) ++ [':']
    ++ padded 2 (time % 60 + leap) ++ writeFraction (i.nano % 1000000000) ++ ['Z']

/-! ### Reading -/

/-- A blank: the characters that Unicode calls white space. -/
def isBlank (c : Char) : Bool :=
  let n := c.toNat
  (0x9 ≤ n && n ≤ 0xd) || n == 0x20 || n == 0x85 || n == 0xa0 || n == 0x1680
    || (0x2000 ≤ n && n ≤ 0x200a) || n == 0x2028 || n == 0x2029 || n == 0x202f || n == 0x205f
    || n == 0x3000

/-- The text without the blanks it starts with. -/
def skipBlanks (t : Text) : Text := t.dropWhile isBlank

/-- The run of at most `most` digits at the start of a text, and the rest. -/
def takeDigits : (most : Nat) → Text → Text × Text
  | most + 1, c :: cs =>
    if c.isDigit then
      let (digits, rest) := takeDigits most cs
      (c :: digits, rest)
    else ([], c :: cs)
  | _, t => ([], t)

/-- A number of at least one and at most `most` digits. -/
def readNumber (most : Nat) (t : Text) : Except Fault (Nat × Text) :=
  match takeDigits most t with
  | ([], []) => .error .premature
  | ([], _ :: _) => .error .invalid
  | (digits, rest) => .ok (Text.digitsValue digits, rest)

/-- A field of one or two digits, within bounds. -/
def readField (low high : Nat) (t : Text) : Except Fault (Nat × Text) := do
  let (n, rest) ← readNumber 2 (skipBlanks t)
  if low ≤ n ∧ n ≤ high then .ok (n, rest) else .error .outOfRange

/-- A year: at most four digits, or any number of them after a sign. -/
def readYear (t : Text) : Except Fault (Int × Text) := do
  let (year, rest) ← match skipBlanks t with
    | '-' :: digits => do
      let (n, rest) ← readNumber digits.length digits
      .ok (-(n : Int), rest)
    | '+' :: digits => do
      let (n, rest) ← readNumber digits.length digits
      .ok ((n : Int), rest)
    | digits => do
      let (n, rest) ← readNumber 4 digits
      .ok ((n : Int), rest)
  if -2147483648 ≤ year ∧ year ≤ 2147483647 then .ok (year, rest) else .error .outOfRange

/-- A separator, with blanks before it. -/
def readMark (mark : Char) (t : Text) : Except Fault Text :=
  match skipBlanks t with
  | [] => .error .premature
  | c :: rest => if c = mark then .ok rest else .error .invalid

/-- A fraction of a second in nanoseconds, zero when there is none; digits beyond the ninth are
passed over. -/
def readFraction : Text → Except Fault (Nat × Text)
  | '.' :: t =>
    match takeDigits 9 t with
    | ([], []) => .error .premature
    | ([], _ :: _) => .error .invalid
    | (digits, rest) =>
      .ok (Text.digitsValue digits * tenTo (9 - digits.length), rest.dropWhile Char.isDigit)
  | t => .ok (0, t)

/-- The hours and minutes of an offset, in seconds.  Colons and blanks may stand between them. -/
def readOffsetSize (t : Text) : Except Fault (Nat × Text) := do
  let (hours, rest) ← match t with
    | a :: b :: rest =>
      if a.isDigit && b.isDigit then .ok (Text.digitsValue [a, b], rest) else .error .invalid
    | [c] => .error (if 2 ≤ c.utf8Size then .invalid else .premature)
    | [] => .error .premature
  match rest.dropWhile fun c => c == ':' || isBlank c with
  | a :: b :: rest =>
    if a.isDigit && b.isDigit then
      if a ≤ '5' then .ok (hours * 3600 + Text.digitsValue [a, b] * 60, rest)
      else .error .outOfRange
    else .error .invalid
  | [c] => .error (if 2 ≤ c.utf8Size then .invalid else .premature)
  | [] => .error .premature

/-- An offset from UTC in seconds: `Z`, `UTC` in any case, or a sign with hours and minutes.  The
minus sign U+2212 counts as a hyphen. -/
def readOffset (t : Text) : Except Fault (Int × Text) :=
  match t with
  | [] => .error .premature
  | c :: rest =>
    if (t.take 3).map Char.toLower = "utc".toList then .ok (0, t.drop 3)
    else if c = 'Z' ∨ c = 'z' then .ok (0, rest)
    else if c = '+' then do
      let (n, rest) ← readOffsetSize rest
      .ok ((n : Int), rest)
    else if c = '-' ∨ c = '−' then do
      let (n, rest) ← readOffsetSize rest
      .ok (-(n : Int), rest)
    else .error .invalid

/-- The years that instants reach. -/
def inCalendar (year : Int) : Bool := -262143 ≤ year && year ≤ 262142

/-- The instant of a local date and time of day, at an offset.  Second 60 is a leap second. -/
def ofLocal (date : Date) (hour minute second nano : Nat) (offset : Int) : Except Fault Instant :=
  if ¬ (inCalendar date.year ∧ date.Valid) then .error .outOfRange
  else if ¬ (-86400 < offset ∧ offset < 86400) then .error .outOfRange
  else
    let days := date.dayNumber - Date.epochDay
    let leap := second / 60
    let total := days * 86400 + hour * 3600 + minute * 60 + (second - leap : Nat) - offset
    if inCalendar (Date.ofDayNumber (total / 86400 + Date.epochDay)).year then
      .ok ⟨total, nano + leap * 1000000000⟩
    else .error .impossible

/-- Reads an instant. -/
def read (t : Text) : Except Fault Instant := do
  let (year, t) ← readYear t
  let t ← readMark '-' t
  let (month, t) ← readField 1 12 t
  let t ← readMark '-' t
  let (day, t) ← readField 1 31 t
  let t ← match t with
    | [] => .error .premature
    | c :: rest => if c = 'T' ∨ c = 't' ∨ c = ' ' then .ok rest else .error .invalid
  let (hour, t) ← readField 0 23 t
  let t ← readMark ':' t
  let (minute, t) ← readField 0 59 t
  let t ← readMark ':' t
  let (second, t) ← readField 0 60 t
  let (nano, t) ← readFraction t
  let (offset, t) ← readOffset (skipBlanks t)
  if (skipBlanks t).isEmpty then ofLocal ⟨year, month, day⟩ hour minute second nano offset
  else .error .trailing

end DelegatedScopes.Instant
