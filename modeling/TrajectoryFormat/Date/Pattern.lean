import TrajectoryFormat.Text.Blank

/-!
# Date patterns

A date pattern is written in letters: a run of one letter stands for one field of a date, text
between single quotes for itself, a doubled quote for one quote, and any other character for itself.
It is compiled into its items, each a field or a literal character. Their compiled form writes a
conversion for a field, and it is read back before the pattern is accepted.
-/

namespace TrajectoryFormat

/-- The fields that a date value may show. -/
inductive DateField where
  | year
  | yearOfCentury
  | month
  | monthShortName
  | monthName
  | day
  | dayOfYear
  | weekdayShortName
  | weekdayName
  | meridiem
  | hour
  | hourOfHalfDay
  | minute
  | second
  | milliseconds
  | microseconds
  | nanoseconds
  | offset
  | offsetWithColon
deriving DecidableEq, Repr

namespace DateField

/-- The conversion that stands for a field in the compiled form of a pattern. -/
def conversion : DateField → Text
  | year => "%Y"
  | yearOfCentury => "%y"
  | month => "%m"
  | monthShortName => "%b"
  | monthName => "%B"
  | day => "%d"
  | dayOfYear => "%j"
  | weekdayShortName => "%a"
  | weekdayName => "%A"
  | meridiem => "%p"
  | hour => "%H"
  | hourOfHalfDay => "%I"
  | minute => "%M"
  | second => "%S"
  | milliseconds => "%3f"
  | microseconds => "%6f"
  | nanoseconds => "%9f"
  | offset => "%z"
  | offsetWithColon => "%:z"

/-- Hour, minute, second or fraction. The half of the day alone is no time. -/
def isTime : DateField → Bool
  | hour | hourOfHalfDay | minute | second | milliseconds | microseconds | nanoseconds => true
  | _ => false

/-- The distance from universal time. -/
def isZone : DateField → Bool
  | offset | offsetWithColon => true
  | _ => false

/-- The field that `run` letters `c` in a row stand for. -/
def ofLetter? (c : Char) (run : Nat) : Option DateField :=
  match c with
  | 'y' | 'u' => some (if run = 2 then yearOfCentury else year)
  | 'M' => some (if run ≤ 2 then month else if run = 3 then monthShortName else monthName)
  | 'd' => some day
  | 'D' => some dayOfYear
  | 'E' => some (if run ≤ 3 then weekdayShortName else weekdayName)
  | 'a' => some meridiem
  | 'H' | 'k' => some hour
  | 'h' | 'K' => some hourOfHalfDay
  | 'm' => some minute
  | 's' => some second
  | 'S' => some (if run ≤ 3 then milliseconds else if run ≤ 6 then microseconds else nanoseconds)
  | 'Z' => some offset
  | 'X' | 'x' => some (if run ≤ 2 then offset else offsetWithColon)
  | _ => none

/-- The field of a directive without its mark, and what follows the directive. -/
def directive? : Text → Option (DateField × Text)
  | 'Y' :: rest => some (year, rest)
  | 'y' :: rest => some (yearOfCentury, rest)
  | 'm' :: rest => some (month, rest)
  | 'b' :: rest => some (monthShortName, rest)
  | 'B' :: rest => some (monthName, rest)
  | 'd' :: rest => some (day, rest)
  | 'j' :: rest => some (dayOfYear, rest)
  | 'a' :: rest => some (weekdayShortName, rest)
  | 'A' :: rest => some (weekdayName, rest)
  | 'p' :: rest => some (meridiem, rest)
  | 'H' :: rest => some (hour, rest)
  | 'I' :: rest => some (hourOfHalfDay, rest)
  | 'M' :: rest => some (minute, rest)
  | 'S' :: rest => some (second, rest)
  | '3' :: 'f' :: rest => some (milliseconds, rest)
  | '6' :: 'f' :: rest => some (microseconds, rest)
  | '9' :: 'f' :: rest => some (nanoseconds, rest)
  | 'z' :: rest => some (offset, rest)
  | ':' :: 'z' :: rest => some (offsetWithColon, rest)
  | _ => none

/-- A conversion is a directive for its field, and it does not begin as a doubled mark does. -/
theorem exists_directive (f : DateField) :
    ∃ c s, f.conversion = '%' :: c :: s ∧ c ≠ '%' ∧ ∀ rest,
      directive? (c :: s ++ rest) = some (f, rest) := by
  cases f <;> exact ⟨_, _, rfl, by decide, fun _ => rfl⟩

theorem length_of_directive? {s rest : Text} {f : DateField} (h : directive? s = some (f, rest)) :
    rest.length < s.length := by
  unfold directive? at h
  split at h <;> cases h <;> simp only [List.length_cons] <;> omega

end DateField

/-- Why a date pattern is refused. -/
inductive DatePatternError where
  | empty
  | unsupportedLetter (c : Char)
  | unterminatedQuote
  | invalid (pattern : Text)
deriving DecidableEq, Repr

def DatePatternError.message : DatePatternError → Text
  | empty => "Date pattern is empty"
  | unsupportedLetter c => "Unsupported date pattern letter '" ++ [c] ++ "'"
  | unterminatedQuote => "Unterminated quoted literal in date pattern"
  | invalid pattern => "Invalid date pattern: " ++ pattern

/-- A field, or a character that stands for itself. -/
inductive DateItem where
  | field (f : DateField)
  | literal (c : Char)
deriving DecidableEq, Repr

/-- An item in the compiled form. The mark of a conversion is doubled where it stands for itself. -/
def DateItem.render : DateItem → Text
  | field f => f.conversion
  | literal c => if c = '%' then "%%" else [c]

/-- The items of a compiled form from left to right: a mark and a directive are a field, a doubled
mark is that character, and any other character is itself. -/
def DateItem.readAll (s : Text) : Option (List DateItem) :=
  match s with
  | [] => some []
  | '%' :: '%' :: rest => (.literal '%' :: ·) <$> readAll rest
  | '%' :: rest =>
    match _ : DateField.directive? rest with
    | some (f, after) => (.field f :: ·) <$> readAll after
    | none => none
  | c :: rest => (.literal c :: ·) <$> readAll rest
termination_by s.length
decreasing_by
  · simp only [List.length_cons]
    omega
  · have := DateField.length_of_directive? ‹_›
    simp only [List.length_cons]
    omega
  · simp

namespace DateItem

@[simp] theorem readAll_field (f : DateField) (rest : Text) :
    readAll ((field f).render ++ rest) = (field f :: ·) <$> readAll rest := by
  obtain ⟨c, s, conversion, single, directive⟩ := f.exists_directive
  rw [render, conversion, List.cons_append, readAll]
  · split
    · next g after found =>
      cases found.symm.trans (directive rest)
      rfl
    · next none => cases none.symm.trans (directive rest)
  · exact fun _ first => single (List.cons.inj first).1

@[simp] theorem readAll_literal (c : Char) (rest : Text) :
    readAll ((literal c).render ++ rest) = (literal c :: ·) <$> readAll rest := by
  rw [render]
  split
  · next mark =>
    subst mark
    exact readAll.eq_2 rest
  · next other =>
    rw [List.singleton_append, readAll]
    · exact fun _ first => absurd first other
    · exact other

/-- What was written item by item is read item by item. -/
@[simp] theorem readAll_render (items : List DateItem) :
    readAll (items.flatMap render) = some items := by
  induction items with
  | nil => rw [List.flatMap_nil, readAll]
  | cons item items ih =>
    rw [List.flatMap_cons]
    cases item with
    | field f =>
      rw [readAll_field, ih]
      rfl
    | literal c =>
      rw [readAll_literal, ih]
      rfl

end DateItem

/-- A compiled date pattern: the text it was written as, and its items. -/
structure DatePattern where
  source : Text
  items : List DateItem
deriving DecidableEq, Repr

namespace DatePattern

/-- The items of a pattern, the rest of which is inside quotes or not. -/
def scan (quoted : Bool) (s : Text) : Except DatePatternError (List DateItem) :=
  match s with
  | [] => if quoted then .error .unterminatedQuote else .ok []
  | '\'' :: '\'' :: rest => (.literal '\'' :: ·) <$> scan quoted rest
  | '\'' :: rest => scan (!quoted) rest
  | c :: rest =>
    if !quoted && c.isAlpha then
      match DateField.ofLetter? c (1 + (rest.takeWhile (· == c)).length) with
      | some field => (.field field :: ·) <$> scan false (rest.dropWhile (· == c))
      | none => .error (.unsupportedLetter c)
    else (.literal c :: ·) <$> scan quoted rest
termination_by s.length
decreasing_by
  all_goals simp only [List.length_cons]
  · omega
  · omega
  · have := (List.dropWhile_sublist (· == c) (l := rest)).length_le
    omega
  · omega

/-- A date bond as a space, and any other character as it is. -/
def unbonded (c : Char) : Char := if c = dateBond then ' ' else c

def format (p : DatePattern) : Text := p.items.flatMap DateItem.render

/-- A pattern whose compiled form can be read. -/
def check (p : DatePattern) : Except DatePatternError DatePattern :=
  if (DateItem.readAll p.format).isNone then .error (.invalid p.source) else .ok p

/-- Compiles a pattern, its bonds read as spaces. -/
def compile (pattern : Text) : Except DatePatternError DatePattern :=
  let source := pattern.map unbonded
  if Text.isAllBlank source then .error .empty
  else scan false source >>= fun items => check ⟨source, items⟩

/-- The compiled form of any items passes its check. -/
@[simp] theorem check_eq (p : DatePattern) : p.check = .ok p := by
  rw [check, format, DateItem.readAll_render, Option.isNone_some, if_neg Bool.false_ne_true]

theorem compile_eq (pattern : Text) :
    compile pattern =
      if Text.isAllBlank (pattern.map unbonded) then .error .empty
      else (⟨pattern.map unbonded, ·⟩) <$> scan false (pattern.map unbonded) := by
  simp only [compile, check_eq]
  split
  · rfl
  · cases scan false (pattern.map unbonded) <;> rfl

def anyField (p : DatePattern) (condition : DateField → Bool) : Bool :=
  p.items.any fun
    | .field f => condition f
    | .literal _ => false

def hasTime (p : DatePattern) : Bool := p.anyField DateField.isTime

def hasZone (p : DatePattern) : Bool := p.anyField DateField.isZone

end DatePattern

end TrajectoryFormat
