import TrajectoryFormat.Proofs.AcceptedLists
import TrajectoryFormat.Proofs.CompiledModel

/-!
# Intervals that end before they begin

The intervals of a list of lines are spelled in decimal digits of any script, and a description may
have any number of lists. An interval that ends before it begins is reported where it stands in the
last list and both its ends are ASCII digits below 64 bits, and nowhere else.
-/

namespace TrajectoryFormat

open Checked Description Text

/-! ## What lists spell -/

/-- The value of a decimal digit of any script. The digits of a script follow each other from
zero. -/
def digitValue (c : Char) : Nat :=
  if c.toNat < 128 then c.toNat - '0'.toNat
  else match decimalDigitRanges.find? fun (first, last) => first ≤ c.toNat && c.toNat ≤ last with
    | some (first, _) => (c.toNat - first) % 10
    | none => 0

/-- The number that decimal digits of any script spell. -/
def spelledValue (digits : Text) : Nat := digits.foldl (fun n c => 10 * n + digitValue c) 0

/-- The two ends of an interval, as they are spelled. -/
abbrev Ends := Text × Text

namespace Ends

/-- The interval ends before it begins. -/
def Inverted (e : Ends) : Prop := spelledValue e.2 < spelledValue e.1

/-- Both ends are ASCII digits below 64 bits. -/
def Readable (e : Ends) : Prop :=
  ∀ digits ∈ [e.1, e.2], Number.isDigits digits = true ∧ spelledValue digits < Number.limit64

instance (e : Ends) : Decidable e.Inverted := inferInstanceAs (Decidable (_ < _))

instance (e : Ends) : Decidable e.Readable := inferInstanceAs (Decidable (∀ digits ∈ [e.1, e.2], _))

def values (e : Ends) : Nat × Nat := (spelledValue e.1, spelledValue e.2)

/-- The ends of an item that is an interval. -/
def ofItem? (item : Text) : Option Ends :=
  match item.splitOn '-' with
  | [first, last] => some (first, last)
  | _ => none

end Ends

/-- The intervals that a list of lines spells, in order. -/
def spelledIntervals : Text → List Ends
  | '[' :: rest => (rest.dropLast.splitOn ',').filterMap Ends.ofItem?
  | _ => []

/-- The intervals of a list that end before they begin. -/
def inversions (list : Text) : List (Nat × Nat) :=
  ((spelledIntervals list).filter fun e => e.Inverted).map Ends.values

/-- The inversions of a list whose ends can be read. -/
def readInversions (list : Text) : List (Nat × Nat) :=
  ((spelledIntervals list).filter fun e => e.Readable ∧ e.Inverted).map Ends.values

/-! ## Digits of any script -/

theorem digitValue_of_isDigit {c : Char} (digit : c.isDigit = true) :
    digitValue c = c.toNat - '0'.toNat := by
  have := toNat_of_isDigit digit
  rw [digitValue, if_pos (by omega)]

/-- ASCII digits spell the number that they are read as. -/
theorem spelledValue_of_isDigits {digits : Text} (spelled : Number.isDigits digits = true) :
    spelledValue digits = Number.value digits := by
  have same : ∀ n, digits.foldl (fun n c => 10 * n + digitValue c) n
      = Nat.ofDigitChars 10 digits n := by
    have digit := Number.isDigit_of_isDigits spelled
    clear spelled
    induction digits with
    | nil =>
      intro n
      rw [Nat.ofDigitChars_nil, List.foldl_nil]
    | cons c rest ih =>
      intro n
      rw [List.forall_mem_cons] at digit
      rw [List.foldl_cons, ih digit.2, Nat.ofDigitChars_cons, digitValue_of_isDigit digit.1]
  exact same 0

/-- A run is read where it is in ASCII digits and below the limit. -/
theorem IsRun.read? {digits : Text} (run : IsRun digits) (limit : Nat) :
    Number.read? limit (trim digits)
      = if Number.isDigits digits = true ∧ spelledValue digits < limit
        then some (spelledValue digits)
        else none := by
  rw [trim_of_no_blank fun c mem => isBlank_of_isDecimalDigit (run.2 c mem)]
  by_cases spelled : Number.isDigits digits = true
  · rw [Number.read?_digits limit spelled, spelledValue_of_isDigits spelled]
    simp only [spelled, true_and]
  · have noPlus : Number.dropPlus digits = digits := by
      unfold Number.dropPlus
      split
      · next rest =>
        exact absurd List.mem_cons_self (run.notMem (isDecimalDigit_of_ascii (by decide)))
      · rfl
    rw [Number.read?, noPlus, if_neg (by simp [spelled]), if_neg (by simp [spelled])]

/-! ## Lists that are read -/

/-- An item is read as an interval where its ends can be read. -/
theorem IsItem.bounds? {item : Text} (h : IsItem item) :
    LineInterval.bounds? item
      = (Ends.ofItem? item).bind fun e => if e.Readable then some e.values else none := by
  cases h with
  | line run =>
    have absent := run.notMem hyphen_no_digit
    have uncut : cut? "-" item = none := cut?_none item absent
    rw [LineInterval.bounds?, uncut, Ends.ofItem?, List.splitOn_eq_singleton absent]
    rfl
  | @interval first last opens closes =>
    have cut : cut? "-" (first ++ '-' :: last) = some (first, last) :=
      cut?_at first last (opens.notMem hyphen_no_digit)
    rw [LineInterval.bounds?, cut, Ends.ofItem?, opens.splitOn_hyphen closes]
    simp only [opens.read?, closes.read?, Option.bind_eq_bind, Option.bind_some, Ends.Readable,
      List.forall_mem_cons, Ends.values]
    by_cases readFirst : Number.isDigits first = true ∧ spelledValue first < Number.limit64 <;>
      by_cases readLast : Number.isDigits last = true ∧ spelledValue last < Number.limit64 <;>
      simp [readFirst, readLast]

theorem filter_read (ends : List Ends) :
    (ends.filterMap fun e => if e.Readable then some e.values else none).filter
        (fun (first, last) => last < first)
      = (ends.filter fun e => e.Readable ∧ e.Inverted).map Ends.values := by
  have read : (ends.filterMap fun e => if e.Readable then some e.values else none)
      = (ends.filter fun e => e.Readable).map Ends.values := by
    induction ends with
    | nil => rfl
    | cons e rest ih => by_cases readable : e.Readable <;> simp [readable, ih]
  rw [read, List.filter_map, List.filter_filter]
  refine congrArg (List.map Ends.values) (List.filter_congr fun e _ => ?_)
  rw [Bool.decide_and, Bool.and_comm]
  rfl

/-- What is found to be inverted in a list are its inversions that can be read. -/
theorem inverted_eq {list : Text} (form : LineInterval.isList list = true) :
    LineInterval.inverted list = readInversions list := by
  obtain ⟨inside, rfl, items⟩ := exists_inside form
  have read : (inside.splitOn ',').filterMap LineInterval.bounds?
      = ((inside.splitOn ',').filterMap Ends.ofItem?).filterMap
          fun e => if e.Readable then some e.values else none := by
    rw [List.filterMap_filterMap]
    exact List.filterMap_congr fun item mem => (items item mem).bounds?
  rw [LineInterval.inverted, listBody_of_items items, read, filter_read, readInversions,
    spelledIntervals, List.dropLast_concat]

/-! ## Reports -/

namespace Description

/-- The lists of lines that declarations give, in order. -/
def ignoredLists (lines : List (List Token)) : List Text := lines.filterMap (setting? .ignoreLines)

def Violation.interval? : Violation → Option (Nat × Nat)
  | .invalidInterval first last => some (first, last)
  | _ => none

/-- The intervals that are reported to be inverted. -/
def reportedIntervals (tokens : List Token) : List (Nat × Nat) :=
  (violations tokens).filterMap Violation.interval?

/-- The violations that name no part of a description. -/
def plainViolations : List Violation :=
  [.missingId, .idAndAutoId, .missingCoordinates, .missingX, .missingY, .missingTime]

/-- The rules about the ID and the coordinates report plain violations only. -/
theorem filterMap_violations {α : Type} {read : Violation → Option α}
    (plain : ∀ v ∈ plainViolations, read v = none) (tokens : List Token) :
    (violations tokens).filterMap read
      = ((Facts.duplicates [] (Facts.ofTokens tokens).attributeNames).map
        .duplicateAttribute).filterMap read
        ++ (Facts.ofTokens tokens).intervalViolations.filterMap read := by
  have identity : (Facts.ofTokens tokens).identityViolations ⊆ plainViolations := by
    unfold Facts.identityViolations
    split <;> decide
  have coordinates : (Facts.ofTokens tokens).coordinatesViolations ⊆ plainViolations := by
    unfold Facts.coordinatesViolations
    split
    · decide
    · unfold Facts.missingAxes
      split_ifs <;> decide
  have silent : ∀ {vs : List Violation}, vs ⊆ plainViolations → vs.filterMap read = [] :=
    fun within => List.filterMap_eq_nil_iff.mpr fun v mem => plain v (within mem)
  simp only [violations, List.filterMap_append, silent identity, silent coordinates,
    List.nil_append]

/-- Only the rule about intervals reports intervals. -/
theorem reportedIntervals_eq (tokens : List Token) :
    reportedIntervals tokens = (Facts.ofTokens tokens).intervalViolations.filterMap
      Violation.interval? := by
  have names : ∀ names : List Text, (names.map Violation.duplicateAttribute).filterMap
      Violation.interval? = [] := by
    intro names
    rw [List.filterMap_map, List.filterMap_eq_nil_iff]
    exact fun _ _ => rfl
  rw [reportedIntervals, filterMap_violations (by decide), names, List.nil_append]

theorem isList_of_mem {lines : List (List Token)} (accepted : ∀ line ∈ lines, Accepted line) :
    ∀ list ∈ ignoredLists lines, LineInterval.isList list = true := by
  intro list mem
  obtain ⟨line, mem, given⟩ := List.mem_filterMap.mp mem
  obtain ⟨_, _, _, rfl, legal⟩ := (accepted line mem).legal given
  exact legal

/-- The inversions of the last list are reported as far as they can be read. -/
theorem reportedIntervals_of_accepted {tokens : List Token}
    (accepted : ∀ line ∈ declarationLines tokens, Accepted line) :
    reportedIntervals tokens
      = ((ignoredLists (declarationLines tokens)).getLast?.map readInversions).getD [] := by
  have last : (Facts.ofTokens tokens).ignoreLines
      = (ignoredLists (declarationLines tokens)).getLast? := by
    rw [Facts.ofTokens_eq accepted]
    exact latest_eq_getLast? _ _
  rw [reportedIntervals_eq, Facts.intervalViolations, last]
  cases given : (ignoredLists (declarationLines tokens)).getLast? with
  | none => rfl
  | some list =>
    have form := isList_of_mem accepted list (List.mem_of_getLast? given)
    simp only [inverted_eq form, List.filterMap_map, Option.map_some, Option.getD_some]
    exact List.filterMap_some

end Description

theorem readInversions_eq (list : Text) :
    readInversions list
      = (((spelledIntervals list).filter fun e => e.Inverted).filter fun e => e.Readable).map
        Ends.values := by
  rw [readInversions, List.filter_filter]
  simp only [Bool.decide_and]

/-- The last of some lists gives all inversions where the others have none and its own can be
read. -/
theorem readInversions_eq_flatMap_iff (init : List Text) (last : Text) :
    readInversions last = (init ++ [last]).flatMap inversions ↔
      (∀ list ∈ init, inversions list = []) ∧ ∀ e ∈ spelledIntervals last, e.Inverted →
        e.Readable := by
  rw [readInversions_eq, List.flatMap_append, List.flatMap_singleton, inversions]
  generalize inverted : (spelledIntervals last).filter (fun e => e.Inverted) = ends
  have all_read : (∀ e ∈ spelledIntervals last, e.Inverted → e.Readable) ↔
      ∀ e ∈ ends, e.Readable := by
    simp [← inverted, and_imp]
  rw [all_read]
  constructor
  · intro same
    have lengths := congrArg List.length same
    rw [List.length_append, List.length_map, List.length_map] at lengths
    have fewer := List.length_filter_le (fun e : Ends => decide e.Readable) ends
    have none_before : init.flatMap inversions = [] := List.length_eq_zero_iff.mp (by omega)
    have all : (ends.filter fun e => decide e.Readable).length = ends.length := by omega
    refine ⟨List.flatMap_eq_nil_iff.mp none_before, ?_⟩
    simpa using List.length_filter_eq_length_iff.mp all
  · rintro ⟨none_before, all⟩
    rw [List.flatMap_eq_nil_iff.mpr none_before, List.nil_append,
      List.filter_eq_self.mpr (by simpa using all)]

/-! ## Descriptions -/

/-- What becomes of the inverted intervals of a description whose declarations are accepted. -/
structure IntervalReport (description : Text) (tokens : List Token) : Prop where
  reported : reportedIntervals tokens
    = ((ignoredLists (declarationLines tokens)).getLast?.map readInversions).getD []
  complete_iff : reportedIntervals tokens
    = (ignoredLists (declarationLines tokens)).flatMap inversions ↔
    (∀ list ∈ (ignoredLists (declarationLines tokens)).dropLast, inversions list = [])
      ∧ ∀ list, (ignoredLists (declarationLines tokens)).getLast? = some list →
        ∀ e ∈ spelledIntervals list, e.Inverted → e.Readable
  compiled : ∀ f, (compile description).result = .ok f →
    ∀ list ∈ ignoredLists (declarationLines tokens), ∀ e ∈ spelledIntervals list, e.Inverted →
      (ignoredLists (declarationLines tokens)).getLast? ≠ some list ∨ ¬e.Readable

/-- Inverted intervals are reported of the last list only, as far as they can be read. So every one
of a description is reported just where the lists before have none and all of the last can be read,
and what compiles may have others. -/
theorem interval_report {description : Text} {tokens : List Token}
    (lexed : tokens? (Text.lines description) = some tokens)
    (passed : checkDeclarations tokens = .ok ()) :
    IntervalReport description tokens := by
  have reported := reportedIntervals_of_accepted (checkDeclarations_eq_ok.mp passed)
  refine ⟨reported, ?_, ?_⟩
  · rw [reported]
    rcases List.eq_nil_or_concat' (ignoredLists (declarationLines tokens)) with none
      | ⟨init, last, lists⟩
    · simp [none]
    · rw [lists, List.getLast?_concat, List.dropLast_concat, Option.map_some, Option.getD_some,
        readInversions_eq_flatMap_iff]
      simp
  · intro f compiled list _ e mem inverted
    obtain ⟨tokens', lexed', _, rules, _⟩ := compile_eq_ok.mp compiled
    obtain rfl : tokens = tokens' := Option.some.inj (lexed.symm.trans lexed')
    by_contra neither
    rw [not_or, not_not, not_not] at neither
    have none_reported : readInversions list = [] := by
      rw [reportedIntervals, rules, neither.1] at reported
      exact reported.symm
    have here : e.values ∈ readInversions list :=
      List.mem_map_of_mem (List.mem_filter.mpr ⟨mem, by simp [neither.2, inverted]⟩)
    rw [none_reported] at here
    cases here

/-- Two lists, of which the first has an inverted interval, and the last has one that can be read
and one that leaves 64 bits. -/
def invertedDescription : Text :=
  Text.join "\n"
    ["_IGNORE_LINES [1,5-2]", "_IGNORE_LINES [9-3,18446744073709551616-4]", "_ID STRING ;",
      "_COORDINATES ARRAY(_X DECIMAL , _Y DECIMAL , _TIME INTEGER ,) EOF"]

theorem interval_report_inverted :
    ∃ tokens, tokens? (Text.lines invertedDescription) = some tokens
      ∧ checkDeclarations tokens = .ok ()
      ∧ reportedIntervals tokens = [(9, 3)]
      ∧ (ignoredLists (declarationLines tokens)).flatMap inversions
        = [(5, 2), (9, 3), (18446744073709551616, 4)]
      ∧ IntervalReport invertedDescription tokens := by
  have run : (tokens? (Text.lines invertedDescription)).map
      (fun tokens => ((checkDeclarations tokens).isOk, reportedIntervals tokens,
        (ignoredLists (declarationLines tokens)).flatMap inversions))
      = some (true, [(9, 3)], [(5, 2), (9, 3), (18446744073709551616, 4)]) := by
    decide +kernel
  obtain ⟨tokens, lexed, outcome⟩ := Option.map_eq_some_iff.mp run
  obtain ⟨isOk, rest⟩ := Prod.mk.inj outcome
  obtain ⟨reported, spelled⟩ := Prod.mk.inj rest
  obtain ⟨⟨⟩, passed⟩ := exists_of_isOk isOk
  exact ⟨tokens, lexed, passed, reported, spelled, interval_report lexed passed⟩

/-- A list with an inverted interval, and another list after it. -/
def earlierDescription : Text :=
  Text.join "\n"
    ["_IGNORE_LINES [5-2]", "_IGNORE_LINES [1]", "_ID STRING ;",
      "_COORDINATES ARRAY(_X DECIMAL , _Y DECIMAL , _TIME INTEGER ,) EOF"]

/-- Not every description that compiles is without inverted intervals: one in a list that is not the
last is never looked at. -/
theorem earlier_inversion_accepted :
    ¬∀ description f tokens, (compile description).result = .ok f →
      tokens? (Text.lines description) = some tokens →
        ∀ list ∈ ignoredLists (declarationLines tokens), inversions list = [] := by
  intro ordered
  have run : (tokens? (Text.lines earlierDescription)).map
      (fun tokens => (ignoredLists (declarationLines tokens)).map inversions)
        = some [[(5, 2)], []] := by
    decide +kernel
  have compiles : (compile earlierDescription).result.isOk = true := by decide +kernel
  obtain ⟨f, compiled⟩ := exists_of_isOk compiles
  obtain ⟨tokens, lexed, found⟩ := Option.map_eq_some_iff.mp run
  have none := ordered _ f tokens compiled lexed
  have all_none : ∀ found ∈ (ignoredLists (declarationLines tokens)).map inversions,
      found = [] := by
    simpa using none
  rw [found] at all_none
  exact absurd (all_none [(5, 2)] (by simp)) (by simp)

end TrajectoryFormat
