import TrajectoryFormat.Proofs.InvertedIntervals

/-!
# Lines that are left out

A list of lines asks for the lines of its items. An item is used where it begins at a line, counted
from one, and its numbers are below 64 bits. The lines that are left out are the ones that used
items ask for, each once and in ascending order, and the other items are named in warnings.
-/

namespace TrajectoryFormat

open Text

/-! ## Numbers of lines -/

namespace LineInterval

theorem contains_iff (i : LineInterval) (k : Nat) :
    i.contains k = true ↔ i.first ≤ k + 1 ∧ k + 1 ≤ i.last := by
  simp [contains]

theorem le_of_mem_ascending {intervals : List LineInterval} {start k : Nat}
    (mem : k ∈ ascending start intervals) :
    start ≤ k := by
  induction intervals generalizing start with
  | nil => cases mem
  | cons i rest ih =>
    rcases List.mem_append.mp mem with here | later
    · have := (List.mem_range'_1.mp here).1
      omega
    · have := ih later
      omega

/-- The numbers from a place on that lie in intervals, which may overlap. -/
theorem mem_ascending {intervals : List LineInterval} {start k : Nat}
    (ordered : intervals.Pairwise fun i j => i.first ≤ j.first) :
    k ∈ ascending start intervals ↔ start ≤ k ∧ ∃ i ∈ intervals, i.contains k = true := by
  induction intervals generalizing start with
  | nil => simp [ascending]
  | cons i rest ih =>
    rw [List.pairwise_cons] at ordered
    have first : k ∈ List.range' (max start (i.first - 1)) (i.last - max start (i.first - 1)) ↔
        start ≤ k ∧ i.contains k = true := by
      rw [List.mem_range'_1, contains_iff]
      omega
    have later : (∃ j ∈ rest, j.contains k = true) → i.first ≤ k + 1 := by
      rintro ⟨j, mem, inside⟩
      exact (ordered.1 j mem).trans ((contains_iff j k).mp inside).1
    rw [ascending, List.mem_append, first, ih ordered.2, List.exists_mem_cons_iff]
    constructor
    · rintro (⟨reached, inside⟩ | ⟨beyond, inside⟩)
      · exact ⟨reached, .inl inside⟩
      · exact ⟨(le_max_left _ _).trans beyond, .inr inside⟩
    · rintro ⟨reached, inside | inside⟩
      · exact .inl ⟨reached, inside⟩
      · -- Where the intervals overlap the number stands among those of the first.
        by_cases beyond : i.last ≤ k
        · exact .inr ⟨max_le reached beyond, inside⟩
        · exact .inl ⟨reached, (contains_iff i k).mpr ⟨later inside, by omega⟩⟩

theorem ascending_pairwise (intervals : List LineInterval) (start : Nat) :
    (ascending start intervals).Pairwise (· < ·) := by
  induction intervals generalizing start with
  | nil => exact .nil
  | cons i rest ih =>
    rw [ascending, List.pairwise_append]
    refine ⟨List.pairwise_lt_range' , ih _, fun a here b later => ?_⟩
    have := List.mem_range'_1.mp here
    have := le_of_mem_ascending later
    omega

/-- The numbers of lines are those of the lines that lie in an interval. -/
@[simp] theorem mem_lineNumbers {intervals : List LineInterval} {k : Nat} :
    k ∈ lineNumbers intervals ↔ ∃ i ∈ intervals, i.contains k = true := by
  have ordered : (intervals.mergeSort fun i j => i.first ≤ j.first).Pairwise fun i j =>
      i.first ≤ j.first := by
    simpa using @List.pairwise_mergeSort LineInterval (fun i j => i.first ≤ j.first)
      (by simpa using fun _ _ _ => le_trans) (by simpa using fun _ _ => le_total _ _) intervals
  simp [lineNumbers, mem_ascending ordered]

end LineInterval

/-- The interval between two lines, if it begins at one and does not end before it begins. -/
def LineInterval.between? (ends : Nat × Nat) : Option LineInterval :=
  if h : 1 ≤ ends.1 ∧ ends.1 ≤ ends.2 then some ⟨ends.1, ends.2, h.1, h.2⟩ else none

theorem LineInterval.between?_eq_some {ends : Nat × Nat} {i : LineInterval} :
    between? ends = some i ↔ (i.first, i.last) = ends := by
  obtain ⟨first, last, first_pos, first_le_last⟩ := i
  unfold between?
  split <;> grind

/-! ## What a list asks for -/

/-- The items that a list of lines spells, in order. -/
def spelledItems : Text → List Text
  | '[' :: rest => rest.dropLast.splitOn ','
  | _ => []

namespace Ends

/-- The ends of an item. A single line is both. -/
def ofItem (item : Text) : Ends := (ofItem? item).getD (item, item)

/-- Line `n`, counted from one, lies between the ends. -/
def AskFor (e : Ends) (n : Nat) : Prop := spelledValue e.1 ≤ n ∧ n ≤ spelledValue e.2

/-- The item begins at a line, counted from one, and its numbers are below 64 bits. -/
def Usable (e : Ends) : Prop :=
  1 ≤ spelledValue e.1 ∧ spelledValue e.1 < Number.limit64 ∧ spelledValue e.2 < Number.limit64

instance (e : Ends) (n : Nat) : Decidable (e.AskFor n) := inferInstanceAs (Decidable (_ ∧ _))

instance (e : Ends) : Decidable e.Usable := inferInstanceAs (Decidable (_ ∧ _))

end Ends

/-- In ASCII a run of digits is in the digits that numbers are read in. -/
theorem IsRun.isDigits {digits : Text} (run : IsRun digits) (ascii : ∀ c ∈ digits, c.toNat < 128) :
    Number.isDigits digits = true := by
  rw [Number.isDigits, Bool.and_eq_true, List.all_eq_true]
  refine ⟨by simpa using run.1, fun c mem => ?_⟩
  rw [← isDecimalDigit_of_ascii (ascii c mem)]
  exact run.2 c mem

namespace IsItem

variable {item : Text}

theorem ne_nil (h : IsItem item) : item ≠ [] := by
  cases h with
  | line run => exact run.1
  | interval => simp

/-- An ASCII item can be read where its numbers are below 64 bits. -/
theorem readable_iff (h : IsItem item) (ascii : ∀ c ∈ item, c.toNat < 128) :
    (Ends.ofItem item).Readable ↔ spelledValue (Ends.ofItem item).1 < Number.limit64
      ∧ spelledValue (Ends.ofItem item).2 < Number.limit64 := by
  cases h with
  | line run =>
    simp [Ends.Readable, Ends.ofItem, Ends.ofItem?,
      List.splitOn_eq_singleton (run.notMem hyphen_no_digit), run.isDigits ascii]
  | interval opens closes =>
    rw [List.forall_mem_append, List.forall_mem_cons] at ascii
    simp [Ends.Readable, Ends.ofItem, Ends.ofItem?, opens.splitOn_hyphen closes,
      opens.isDigits ascii.1, closes.isDigits ascii.2.2]

/-- An item gives the interval between its ends where they can be read. -/
theorem ofItem?_eq (h : IsItem item) :
    LineInterval.ofItem? item
      = if (Ends.ofItem item).Readable then LineInterval.between? (Ends.ofItem item).values
        else none := by
  cases h with
  | line run =>
    have absent := run.notMem hyphen_no_digit
    have uncut : cut? "-" item = none := cut?_none item absent
    have read := run.read? Number.limit64
    rw [trim_of_no_blank fun c mem => isBlank_of_isDecimalDigit (run.2 c mem)] at read
    have ends : Ends.ofItem item = (item, item) := by
      rw [Ends.ofItem, Ends.ofItem?, List.splitOn_eq_singleton absent]
      rfl
    have readable_iff : Ends.Readable (item, item) ↔
        Number.isDigits item = true ∧ spelledValue item < Number.limit64 := by
      simp [Ends.Readable]
    simp only [LineInterval.ofItem?, uncut, read, ends, readable_iff]
    split_ifs <;> rfl
  | @interval first last opens closes =>
    have cut : cut? "-" (first ++ '-' :: last) = some (first, last) :=
      cut?_at first last (opens.notMem hyphen_no_digit)
    have ends : Ends.ofItem? (first ++ '-' :: last) = some (first, last) := by
      rw [Ends.ofItem?, opens.splitOn_hyphen closes]
    simp only [LineInterval.ofItem?, cut, (IsItem.interval opens closes).bounds?, Ends.ofItem, ends,
      Option.bind_some, Option.getD_some]
    split_ifs <;> rfl

/-- In ASCII an item gives an interval where it is usable and in order. -/
theorem ofItem?_eq_some (h : IsItem item) (ascii : ∀ c ∈ item, c.toNat < 128) {i : LineInterval} :
    LineInterval.ofItem? item = some i ↔
      (Ends.ofItem item).Usable ∧ (i.first, i.last) = (Ends.ofItem item).values := by
  rw [h.ofItem?_eq, Option.ite_none_right_eq_some, h.readable_iff ascii,
    LineInterval.between?_eq_some]
  constructor
  · rintro ⟨below, ends⟩
    have begins : i.first = spelledValue (Ends.ofItem item).1 := congrArg Prod.fst ends
    exact ⟨⟨begins ▸ i.first_pos, below⟩, ends⟩
  · rintro ⟨⟨_, below⟩, ends⟩
    exact ⟨below, ends⟩

end IsItem

/-! ## Lists that are read -/

/-- The items of a list in form are those that it spells. -/
theorem items_of_isList {list : Text} (form : LineInterval.isList list = true) :
    LineInterval.items list = spelledItems list
      ∧ ∀ item ∈ spelledItems list, IsItem item ∧ item ⊆ list := by
  obtain ⟨inside, rfl, items⟩ := exists_inside form
  have spelled : spelledItems ('[' :: (inside ++ [']'])) = inside.splitOn ',' := by
    rw [spelledItems, List.dropLast_concat]
  have trimmed : ∀ item ∈ inside.splitOn ',', trim item = item := by
    intro item mem
    apply trim_of_no_blank
    intro c here
    rcases (items item mem).letters c here with digit | rfl
    · exact isBlank_of_isDecimalDigit digit
    · exact isBlank_of_graphic (by decide) (by decide)
  rw [LineInterval.items, listBody_of_items items, spelled, List.map_congr_left trimmed,
    List.map_id']
  constructor
  · rw [List.filter_eq_self]
    exact fun item mem => by simpa using (items item mem).ne_nil
  · intro item mem
    have inner : inside ⊆ '[' :: (inside ++ [']']) :=
      List.subset_cons_of_subset _ (List.subset_append_left _ _)
    exact ⟨items item mem, List.Subset.trans (subset_of_mem_splitOn mem) inner⟩

theorem spelledIntervals_eq (list : Text) :
    spelledIntervals list = (spelledItems list).filterMap Ends.ofItem? := by
  unfold spelledIntervals
  split
  · rfl
  · next other =>
    unfold spelledItems
    split
    · next rest => exact absurd rfl (other rest)
    · rfl

/-- In a list without inverted intervals an item that can be read is in order. -/
theorem in_order_of_readable {list : Text} (form : LineInterval.isList list = true)
    (ordered : LineInterval.inverted list = []) {item : Text} (mem : item ∈ spelledItems list)
    (readable : (Ends.ofItem item).Readable) : ¬(Ends.ofItem item).Inverted := by
  cases ends : Ends.ofItem? item with
  | none =>
    rw [Ends.ofItem, ends]
    exact lt_irrefl _
  | some e =>
    rw [Ends.ofItem, ends, Option.getD_some] at readable ⊢
    intro inverted
    have spelled : e ∈ spelledIntervals list := by
      rw [spelledIntervals_eq]
      exact List.mem_filterMap.mpr ⟨item, mem, ends⟩
    have here : e.values ∈ readInversions list :=
      List.mem_map_of_mem (List.mem_filter.mpr ⟨spelled, by simp [readable, inverted]⟩)
    rw [← inverted_eq form, ordered] at here
    cases here

/-- A format leaves out the lines of the lists that are added to it. -/
theorem DataFormat.ignoresLine_set (f : DataFormat) (list : Text) (k : Nat) :
    (f.set Keyword.ignoreLines.name list).ignoresLine k = true ↔
      f.ignoresLine k = true ∨ k ∈ LineInterval.lineNumbers (LineInterval.ofList list) := by
  simp [DataFormat.set, Keyword.lookup?_name, DataFormat.ignoresLine, LineInterval.mem_lineNumbers]

/-- What becomes of a list of lines: the lines that its usable items ask for are left out, each
once, and the other items are named. -/
structure LeavesOut (list : Text) : Prop where
  lines : ∀ k, k ∈ LineInterval.lineNumbers (LineInterval.ofList list) ↔
    ∃ item ∈ spelledItems list, (Ends.ofItem item).Usable ∧ (Ends.ofItem item).AskFor (k + 1)
  once : (LineInterval.lineNumbers (LineInterval.ofList list)).Pairwise (· < ·)
  added : ∀ (f : DataFormat) k, (f.set Keyword.ignoreLines.name list).ignoresLine k = true ↔
    f.ignoresLine k = true ∨ k ∈ LineInterval.lineNumbers (LineInterval.ofList list)
  named : ∀ f : DataFormat, f.warnings Keyword.ignoreLines.name list
    = ((spelledItems list).filter fun item => ¬(Ends.ofItem item).Usable).map .lineInterval

/-- The lines that are left out for a list in ASCII without inverted intervals are those that its
usable items ask for, and an item is passed over just where it begins at no line or has a number of
more than 64 bits. -/
theorem ignored_lines_of_list {list : Text} (ascii : ∀ c ∈ list, c.toNat < 128)
    (form : LineInterval.isList list = true) (ordered : LineInterval.inverted list = []) :
    LeavesOut list := by
  obtain ⟨items, spelled⟩ := items_of_isList form
  have read : ∀ item ∈ spelledItems list, ∀ i, LineInterval.ofItem? item = some i ↔
      (Ends.ofItem item).Usable ∧ (i.first, i.last) = (Ends.ofItem item).values := by
    intro item mem i
    obtain ⟨isItem, within⟩ := spelled item mem
    exact isItem.ofItem?_eq_some fun c here => ascii c (within here)
  have isNone_iff : ∀ item ∈ spelledItems list,
      (LineInterval.ofItem? item).isNone = true ↔ ¬(Ends.ofItem item).Usable := by
    intro item mem
    obtain ⟨isItem, within⟩ := spelled item mem
    rw [Option.isNone_iff_eq_none, Option.eq_none_iff_forall_ne_some]
    constructor
    · intro nothing usable
      have readable := (isItem.readable_iff fun c here => ascii c (within here)).mpr usable.2
      have valid := not_lt.mp (in_order_of_readable form ordered mem readable)
      exact nothing ⟨_, _, usable.1, valid⟩ ((read item mem _).mpr ⟨usable, rfl⟩)
    · intro unusable i given
      exact unusable ((read item mem i).mp given).1
  refine ⟨fun k => ?_, LineInterval.ascending_pairwise _ _, fun f k => f.ignoresLine_set list k,
    fun f => ?_⟩
  · rw [LineInterval.mem_lineNumbers, LineInterval.ofList, items]
    simp only [List.mem_filterMap]
    constructor
    · rintro ⟨i, ⟨item, mem, given⟩, inside⟩
      obtain ⟨usable, ends⟩ := (read item mem i).mp given
      obtain ⟨first, last⟩ := Prod.mk.inj ends
      rw [LineInterval.contains_iff, first, last] at inside
      exact ⟨item, mem, usable, inside⟩
    · rintro ⟨item, mem, usable, asked⟩
      have valid : (Ends.ofItem item).values.1 ≤ (Ends.ofItem item).values.2 :=
        asked.1.trans asked.2
      exact ⟨⟨_, _, usable.1, valid⟩, ⟨item, mem, (read item mem _).mpr ⟨usable, rfl⟩⟩,
        (LineInterval.contains_iff _ k).mpr asked⟩
  · simp only [DataFormat.warnings, Keyword.lookup?_name, LineInterval.refused, items]
    refine congrArg (List.map FormatWarning.lineInterval) (List.filter_congr fun item mem => ?_)
    rw [Bool.eq_iff_iff, isNone_iff item mem, decide_eq_true_iff]

/-- A list with items of both kinds, of which three begin at no line or have a number of more than
64 bits. -/
def mixedList : Text := "[2,0-3,4-5,007,18446744073709551616,5-6,0]"

theorem ignored_lines_of_list_mixed :
    LineInterval.lineNumbers (LineInterval.ofList mixedList) = [1, 3, 4, 5, 6]
      ∧ (∀ f : DataFormat, (f.warnings Keyword.ignoreLines.name mixedList).map FormatWarning.message
        = ["ignoring invalid line interval '0-3'",
          "ignoring invalid line interval '18446744073709551616'",
          "ignoring invalid line interval '0'"])
      ∧ LeavesOut mixedList := by
  have becomes : LeavesOut mixedList :=
    ignored_lines_of_list (List.all_iff_forall_prop.mp (by decide +kernel)) (by decide +kernel)
      (by decide +kernel)
  have intervals : LineInterval.ofList mixedList
      = [⟨2, 2, by decide, by decide⟩, ⟨4, 5, by decide, by decide⟩, ⟨7, 7, by decide, by decide⟩,
        ⟨5, 6, by decide, by decide⟩] := by
    decide +kernel
  refine ⟨?_, fun f => ?_, becomes⟩
  · simp [intervals, LineInterval.lineNumbers, List.mergeSort, LineInterval.ascending, List.range']
  · rw [becomes.named]
    decide +kernel

/-- The lines that are left out for a list are the ones that it asks for. -/
def LeavesOutAsked (list : Text) : Prop :=
  ∀ k, k ∈ LineInterval.lineNumbers (LineInterval.ofList list) ↔
    ∃ item ∈ spelledItems list, (Ends.ofItem item).AskFor (k + 1)

theorem not_leavesOutAsked {list : Text} (k : Nat)
    (absent : k ∉ LineInterval.lineNumbers (LineInterval.ofList list))
    (asked : ∃ item ∈ spelledItems list, (Ends.ofItem item).AskFor (k + 1)) :
    ¬LeavesOutAsked list :=
  fun heeded => absent ((heeded k).mpr asked)

/-- Not every list leaves out what it asks for. An item that begins at line zero, where no line is,
and one with a number of more than 64 bits leave out nothing. -/
theorem interval_from_zero_passed_over :
    (¬∀ list : Text, (∀ c ∈ list, c.toNat < 128) → LineInterval.isList list = true →
      LineInterval.inverted list = [] → LeavesOutAsked list)
      ∧ ¬LeavesOutAsked "[0-3]" ∧ ¬LeavesOutAsked "[5-18446744073709551616]" := by
  have from_zero : ¬LeavesOutAsked "[0-3]" :=
    not_leavesOutAsked 0 (by decide +kernel) (by decide +kernel)
  have too_far : ¬LeavesOutAsked "[5-18446744073709551616]" :=
    not_leavesOutAsked 4 (by decide +kernel) (by decide +kernel)
  refine ⟨fun heeded => from_zero ?_, from_zero, too_far⟩
  exact heeded "[0-3]" (List.all_iff_forall_prop.mp (by decide +kernel)) (by decide +kernel)
    (by decide +kernel)

end TrajectoryFormat
