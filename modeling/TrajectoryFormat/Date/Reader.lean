import TrajectoryFormat.Date.Fields
import TrajectoryFormat.Date.Pattern
import TrajectoryFormat.Number
import TrajectoryFormat.Text.Casing
import TrajectoryFormat.Text.Cut

/-!
# Dates read by a pattern

A value is read from left to right along the steps of its pattern. A run of blanks in the pattern
takes in any run of blanks, a run of other literal characters must stand in the value as it is, and
a field takes in the digits, the name or the offset that it shows. Lengths are counted in bytes, as
the value is stored.
-/

namespace TrajectoryFormat

open Text

/-- A step along a date pattern. -/
inductive DateStep where
  | field (f : DateField)
  | literal (text : Text)
  | blank
deriving DecidableEq, Repr

namespace DateStep

/-- The steps for a literal character and what follows it. Blanks make one step, and so do other
characters, but `%` is a step of its own. -/
def prependLiteral (c : Char) (steps : List DateStep) : List DateStep :=
  if isBlank c then
    match steps with
    | blank :: _ => steps
    | _ => blank :: steps
  else if c = '%' then literal ['%'] :: steps
  else match steps with
    | literal (d :: text) :: rest =>
      if d = '%' then literal [c] :: steps else literal (c :: d :: text) :: rest
    | _ => literal [c] :: steps

def ofItems : List DateItem → List DateStep
  | [] => []
  | .field f :: items => field f :: ofItems items
  | .literal c :: items => prependLiteral c (ofItems items)

end DateStep

namespace DateReader

def byteLength : Text → Nat
  | [] => 0
  | c :: s => c.utf8Size + byteLength s

def digitValue (c : Char) : Nat := c.toNat - '0'.toNat

/-- Reads up to `width` further digits of a number below 2 ^ 63. -/
def moreDigits (n : Nat) : Nat → Text → Except DateFault (Nat × Text)
  | 0, s => .ok (n, s)
  | _ + 1, [] => .ok (n, [])
  | width + 1, c :: rest =>
    if c.isDigit then
      let next := n * 10 + digitValue c
      if next < Number.twoTo 63 then moreDigits next width rest else .error .outOfRange
    else .ok (n, c :: rest)

/-- Reads a number of one to `width` digits. -/
def number (width : Nat) : Text → Except DateFault (Nat × Text)
  | [] => .error .tooShort
  | c :: rest => if c.isDigit then moreDigits 0 width (c :: rest) else .error .invalid

/-- Reads exactly `width` digits. -/
def exactDigits (width : Nat) (s : Text) : Except DateFault (Nat × Text) :=
  if byteLength s < width then .error .tooShort
  else
    let digits := s.take width
    if digits.length = width ∧ digits.all Char.isDigit then
      .ok (Nat.ofDigitChars 10 digits 0, s.drop width)
    else .error .invalid

/-- Reads a year: four digits at most, or any number of them after a sign. -/
def year : Text → Except DateFault (Int × Text)
  | '-' :: rest => do
    let (n, rest') ← number rest.length rest
    pure (-n, rest')
  | '+' :: rest => do
    let (n, rest') ← number rest.length rest
    pure (n, rest')
  | s => do
    let (n, rest) ← number 4 s
    pure (n, rest)

/-- Names by their first three letters and the letters that the long form adds. -/
abbrev Names := List (Text × Text)

def monthNames : Names :=
  [("jan", "uary"), ("feb", "ruary"), ("mar", "ch"), ("apr", "il"), ("may", ""), ("jun", "e"),
   ("jul", "y"), ("aug", "ust"), ("sep", "tember"), ("oct", "ober"), ("nov", "ember"),
   ("dec", "ember")]

def weekdayNames : Names :=
  [("mon", "day"), ("tue", "sday"), ("wed", "nesday"), ("thu", "rsday"), ("fri", "day"),
   ("sat", "urday"), ("sun", "day")]

/-- Reads a name of three letters in whatever case: its place in the list. -/
def shortName (names : Names) (s : Text) : Except DateFault (Nat × Text) :=
  if byteLength s < 3 then .error .tooShort
  else match names.findIdx? fun (short, _) => short.sameIgnoringCase (s.take 3) with
    | some i => .ok (i, s.drop 3)
    | none => .error .invalid

/-- Reads a name of three letters, and the rest of its long form where it follows. -/
def longName (names : Names) (s : Text) : Except DateFault (Nat × Text) := do
  let (i, rest) ← shortName names s
  match names[i]? with
  | some (_, more) => pure (i, if more.opensWith rest then rest.drop more.length else rest)
  | none => pure (i, rest)

def meridiem (s : Text) : Except DateFault (Bool × Text) :=
  if byteLength s < 2 then .error .tooShort
  else if sameIgnoringCase "am" (s.take 2) then .ok (false, s.drop 2)
  else if sameIgnoringCase "pm" (s.take 2) then .ok (true, s.drop 2)
  else .error .invalid

def twoDigits : Text → Except DateFault ((Nat × Nat) × Text)
  | a :: b :: rest =>
    if a.isDigit && b.isDigit then .ok ((digitValue a, digitValue b), rest) else .error .invalid
  | s => if byteLength s < 2 then .error .tooShort else .error .invalid

/-- Reads a plus sign, a hyphen or a minus sign: whether it is negative. -/
def sign : Text → Except DateFault (Bool × Text)
  | [] => .error .tooShort
  | '+' :: rest => .ok (false, rest)
  | '-' :: rest => .ok (true, rest)
  | '\u2212' :: rest => .ok (true, rest)
  | _ :: _ => .error .invalid

/-- Reads a distance from universal time in seconds: sign, hours, and minutes after colons or
blanks. -/
def offset (s : Text) : Except DateFault (Int × Text) := do
  let (negative, s) ← sign s
  let ((h, h'), s) ← twoDigits s
  let ((m, m'), s) ← twoDigits (s.dropWhile fun c => c == ':' || isBlank c)
  if 6 ≤ m then throw .outOfRange
  let seconds : Int := ((h * 10 + h') * 60 + (m * 10 + m')) * 60
  pure (if negative then -seconds else seconds, s)

def field (f : DateFields) (s : Text) : DateField → Except DateFault (DateFields × Text)
  | .year => do
    let (n, rest) ← year (trimStart s)
    if -2147483648 ≤ n ∧ n ≤ 2147483647 then
      pure ({ f with year := ← DateFields.agree f.year n }, rest)
    else throw .outOfRange
  | .yearOfCentury => do
    let (n, rest) ← number 2 (trimStart s)
    pure ({ f with yearOfCentury := ← DateFields.agree f.yearOfCentury n }, rest)
  | .month => do
    let (n, rest) ← number 2 (trimStart s)
    pure ({ f with month := ← DateFields.agree f.month (← DateFields.within 1 12 n) }, rest)
  | .monthShortName => do
    let (i, rest) ← shortName monthNames s
    pure ({ f with month := ← DateFields.agree f.month (i + 1) }, rest)
  | .monthName => do
    let (i, rest) ← longName monthNames s
    pure ({ f with month := ← DateFields.agree f.month (i + 1) }, rest)
  | .day => do
    let (n, rest) ← number 2 (trimStart s)
    pure ({ f with day := ← DateFields.agree f.day (← DateFields.within 1 31 n) }, rest)
  | .dayOfYear => do
    let (n, rest) ← number 3 (trimStart s)
    pure ({ f with dayOfYear := ← DateFields.agree f.dayOfYear (← DateFields.within 1 366 n) },
      rest)
  | .weekdayShortName => do
    let (i, rest) ← shortName weekdayNames s
    pure ({ f with weekday := ← DateFields.agree f.weekday i }, rest)
  | .weekdayName => do
    let (i, rest) ← longName weekdayNames s
    pure ({ f with weekday := ← DateFields.agree f.weekday i }, rest)
  | .meridiem => do
    let (late, rest) ← meridiem s
    pure ({ f with afternoon := ← DateFields.agree f.afternoon late }, rest)
  | .hour => do
    let (n, rest) ← number 2 (trimStart s)
    let n ← DateFields.within 0 23 n
    let afternoon ← DateFields.agree f.afternoon (12 ≤ n)
    let hourOfHalfDay ← DateFields.agree f.hourOfHalfDay (n % 12)
    pure ({ f with afternoon, hourOfHalfDay }, rest)
  | .hourOfHalfDay => do
    let (n, rest) ← number 2 (trimStart s)
    let n ← DateFields.within 1 12 n
    pure ({ f with hourOfHalfDay := ← DateFields.agree f.hourOfHalfDay (n % 12) }, rest)
  | .minute => do
    let (n, rest) ← number 2 (trimStart s)
    pure ({ f with minute := ← DateFields.agree f.minute (← DateFields.within 0 59 n) }, rest)
  | .second => do
    let (n, rest) ← number 2 (trimStart s)
    pure ({ f with second := ← DateFields.agree f.second (← DateFields.within 0 60 n) }, rest)
  | .milliseconds => do
    let (n, rest) ← exactDigits 3 s
    pure ({ f with nanosecond := ← DateFields.agree f.nanosecond (n * 1000000) }, rest)
  | .microseconds => do
    let (n, rest) ← exactDigits 6 s
    pure ({ f with nanosecond := ← DateFields.agree f.nanosecond (n * 1000) }, rest)
  | .nanoseconds => do
    let (n, rest) ← exactDigits 9 s
    pure ({ f with nanosecond := ← DateFields.agree f.nanosecond n }, rest)
  | .offset | .offsetWithColon => do
    let (seconds, rest) ← offset (trimStart s)
    pure ({ f with offset := ← DateFields.agree f.offset seconds }, rest)

def literal (text s : Text) : Except DateFault (Unit × Text) :=
  if byteLength s < byteLength text then .error .tooShort
  else match after? text s with
    | some rest => .ok ((), rest)
    | none => .error .invalid

def run (f : DateFields) (s : Text) : List DateStep → Except DateFault DateFields
  | [] => if s.isEmpty then .ok f else .error .trailing
  | .blank :: steps => run f (trimStart s) steps
  | .literal text :: steps => do
    let (_, rest) ← literal text s
    run f rest steps
  | .field kind :: steps => do
    let (f, rest) ← field f s kind
    run f rest steps

end DateReader

/-- A value that is not a date of its pattern. -/
structure DateValueError where
  value : Text
  pattern : Text
  fault : DateFault
deriving DecidableEq, Repr

def DateValueError.message (e : DateValueError) : Text :=
  "'" ++ e.value ++ "' does not match date pattern \"" ++ e.pattern ++ "\": " ++ e.fault.message

namespace DatePattern

/-- The instant of the fields of a value, read in the zone they give, else as universal time.
Without a time of day it is midnight. -/
def instant? (p : DatePattern) (f : DateFields) : Except DateFault Int :=
  if p.hasZone then f.zonedTime? else if p.hasTime then f.localTime? else f.midnight?

/-- Reads a value, blanks around it left out: milliseconds since 1970. -/
def epochMillis (p : DatePattern) (value : Text) : Except DateValueError Int :=
  let trimmed := trim value
  let read := DateReader.run {} trimmed (DateStep.ofItems p.items)
  (read >>= p.instant?).mapError fun fault => ⟨trimmed, p.source, fault⟩

end DatePattern

end TrajectoryFormat
