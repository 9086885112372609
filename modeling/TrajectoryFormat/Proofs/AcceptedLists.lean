import TrajectoryFormat.Description.LineInterval
import TrajectoryFormat.Proofs.Numerals
import TrajectoryFormat.Proofs.Splitting

/-!
# Lists of lines in form

A list of lines has items between brackets, and an item is a run of decimal digits of any script, or
two runs with a hyphen between them. So an item holds neither blanks nor brackets, and the inside of
a list comes back whole when its brackets are removed.
-/

namespace TrajectoryFormat

open Text

theorem isDecimalDigit_of_ascii {c : Char} (ascii : c.toNat < 128) :
    isDecimalDigit c = c.isDigit := by
  unfold isDecimalDigit
  rw [if_pos ascii]

theorem hyphen_no_digit : isDecimalDigit '-' = false := isDecimalDigit_of_ascii (by decide)

/-- Digits are no blanks, in whatever script. -/
theorem isBlank_of_isDecimalDigit {c : Char} (digit : isDecimalDigit c = true) :
    isBlank c = false := by
  have apart : ∀ run ∈ decimalDigitRanges, (0xa0 < run.1 ∧ run.2 < 0x1680)
      ∨ (0x1680 < run.1 ∧ run.2 < 0x2000) ∨ 0x3000 < run.1 := by
    decide
  unfold isDecimalDigit at digit
  split at digit
  · exact isBlank_of_isDigit digit
  · obtain ⟨run, mem, bounds⟩ := inRanges_iff.mp digit
    have between := apart run mem
    unfold isBlank
    simp only [Bool.or_eq_false_iff, Bool.and_eq_false_iff, decide_eq_false_iff_not,
      beq_eq_false_iff_ne]
    omega

/-! ## Items -/

/-- A run of decimal digits, as an item of a list has it. -/
def IsRun (digits : Text) : Prop := digits ≠ [] ∧ ∀ c ∈ digits, isDecimalDigit c = true

namespace IsRun

variable {digits : Text}

theorem of_isDigits (spelled : Number.isDigits digits = true) : IsRun digits :=
  ⟨Number.ne_nil_of_isDigits spelled,
    fun c mem => isDecimalDigit_of_isDigit (Number.isDigit_of_isDigits spelled c mem)⟩

theorem iff_checked : (!digits.isEmpty && digits.all isDecimalDigit) = true ↔ IsRun digits := by
  rw [Bool.and_eq_true, List.all_eq_true, IsRun]
  exact and_congr_left' (by simp)

theorem notMem (run : IsRun digits) {c : Char} (other : isDecimalDigit c = false) : c ∉ digits := by
  intro mem
  rw [run.2 c mem] at other
  cases other

theorem splitOn_hyphen {first last : Text} (opens : IsRun first) (closes : IsRun last) :
    (first ++ '-' :: last).splitOn '-' = [first, last] := by
  have unbroken : ∀ digits ∈ [first, last], '-' ∉ digits := by
    simp [opens.notMem hyphen_no_digit, closes.notMem hyphen_no_digit]
  simpa [List.intercalate] using List.splitOn_intercalate '-' unbroken (by simp)

end IsRun

/-- What an item of a list is: one run of digits, or two with a hyphen between them. -/
inductive IsItem : Text → Prop
  | line {digits : Text} (run : IsRun digits) : IsItem digits
  | interval {first last : Text} (opens : IsRun first) (closes : IsRun last) :
      IsItem (first ++ '-' :: last)

theorem isItem_iff {item : Text} : LineInterval.isItem item = true ↔ IsItem item := by
  constructor
  · intro accepted
    have whole : ['-'].intercalate (item.splitOn '-') = item := List.intercalate_splitOn '-'
    unfold LineInterval.isItem at accepted
    split at accepted
    · next digits parts =>
      rw [parts, List.intercalate_singleton] at whole
      exact whole ▸ .line (IsRun.iff_checked.mp accepted)
    · next first last parts =>
      rw [parts, List.intercalate_cons_cons, List.intercalate_singleton, List.append_assoc,
        List.singleton_append] at whole
      rw [Bool.and_eq_true] at accepted
      exact whole ▸ .interval (IsRun.iff_checked.mp accepted.1) (IsRun.iff_checked.mp accepted.2)
    · cases accepted
  · intro item
    cases item with
    | line run =>
      rw [LineInterval.isItem, List.splitOn_eq_singleton (run.notMem hyphen_no_digit)]
      exact IsRun.iff_checked.mpr run
    | interval opens closes =>
      rw [LineInterval.isItem, opens.splitOn_hyphen closes]
      exact Bool.and_eq_true_iff.mpr ⟨IsRun.iff_checked.mpr opens, IsRun.iff_checked.mpr closes⟩

/-- Items are made of digits and hyphens. -/
theorem IsItem.letters {item : Text} (h : IsItem item) :
    ∀ c ∈ item, isDecimalDigit c = true ∨ c = '-' := by
  cases h with
  | line run => exact fun c mem => .inl (run.2 c mem)
  | interval opens closes =>
    rw [List.forall_mem_append, List.forall_mem_cons]
    exact ⟨fun c mem => .inl (opens.2 c mem), .inr rfl, fun c mem => .inl (closes.2 c mem)⟩

/-! ## Lists -/

/-- The inside of a list of lines, without its brackets. -/
theorem exists_inside {list : Text} (form : LineInterval.isList list = true) :
    ∃ inside, list = '[' :: (inside ++ [']']) ∧ ∀ item ∈ inside.splitOn ',', IsItem item := by
  unfold LineInterval.isList at form
  split at form
  · next rest =>
    rw [Bool.and_eq_true, beq_iff_eq, List.all_eq_true] at form
    refine ⟨rest.dropLast, ?_, fun item mem => isItem_iff.mp (form.2 item mem)⟩
    rw [List.dropLast_append_getLast? _ form.1]
  · cases form

theorem dropWhile_of_notMem {c : Char} {s : Text} (absent : c ∉ s) : s.dropWhile (· == c) = s := by
  cases s with
  | nil => rfl
  | cons a s =>
    rw [List.mem_cons, not_or] at absent
    rw [List.dropWhile_cons_of_neg (by simpa using Ne.symm absent.1)]

/-- Without its brackets a list is its inside. -/
theorem listBody_of_items {inside : Text} (items : ∀ item ∈ inside.splitOn ',', IsItem item) :
    LineInterval.listBody ('[' :: (inside ++ [']'])) = inside := by
  have letters : ∀ c ∈ inside, isDecimalDigit c = true ∨ c = '-' ∨ c = ',' := by
    have joined : ∀ c ∈ join "," (inside.splitOn ','), isDecimalDigit c = true ∨ c = '-'
        ∨ c = ',' := by
      apply forall_mem_join
      · simp
      · exact fun item mem c here => ((items item mem).letters c here).imp_right .inl
    have whole : join "," (inside.splitOn ',') = inside := List.intercalate_splitOn ','
    rwa [whole] at joined
  have absent : ∀ {c : Char}, isDecimalDigit c = false → c ≠ '-' → c ≠ ',' → c ∉ inside := by
    intro c digit hyphen comma mem
    rcases letters c mem with isDigit | rfl | rfl
    · rw [digit] at isDigit
      cases isDigit
    · exact hyphen rfl
    · exact comma rfl
  have opening : '[' ∉ inside ++ [']'] := by
    rw [List.mem_append, not_or]
    exact ⟨absent (isDecimalDigit_of_ascii (by decide)) (by decide) (by decide), by decide⟩
  have closing : ']' ∉ inside.reverse := by
    rw [List.mem_reverse]
    exact absent (isDecimalDigit_of_ascii (by decide)) (by decide) (by decide)
  have trimmed : trim ('[' :: (inside ++ [']'])) = '[' :: (inside ++ [']']) := by
    apply trim_eq_self
    · rintro c ⟨⟩
      exact isBlank_of_graphic (by decide) (by decide)
    · intro c last
      rw [← List.cons_append, List.getLast?_concat] at last
      cases last
      exact isBlank_of_graphic (by decide) (by decide)
  rw [LineInterval.listBody, trimmed, List.dropWhile_cons_of_pos rfl, dropWhile_of_notMem opening,
    List.reverse_append, List.reverse_singleton, List.singleton_append,
    List.dropWhile_cons_of_pos rfl, dropWhile_of_notMem closing, List.reverse_reverse]

end TrajectoryFormat
