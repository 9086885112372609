import TrajectoryFormat.Proofs.AcceptedLists
import TrajectoryFormat.Proofs.WrittenDescription

/-!
# Lists of lines

A written list of lines has the form of one, none of its intervals ends before it begins, and its
intervals are those that its items spell, in order.
-/

namespace TrajectoryFormat.Written

open Description Text Number

/-! ## Characters of lists -/

/-- The characters that a list of lines is written in. -/
def isListChar (c : Char) : Bool := c.isDigit || c == '-' || c == ',' || c == '[' || c == ']'

theorem isListChar_text (item : LineItem) :
    ∀ c ∈ item.text, (c.isDigit = true ∨ c = '-') ∧ isListChar c = true := by
  have digit : ∀ {digits : Text}, isDigits digits = true → ∀ c ∈ digits,
      (c.isDigit = true ∨ c = '-') ∧ isListChar c = true := by
    intro digits spelled c mem
    have digit := isDigit_of_isDigits spelled c mem
    exact ⟨.inl digit, by simp [isListChar, digit]⟩
  cases item with
  | line digits spelled => exact digit spelled
  | interval first last spelled =>
    rw [LineItem.text, List.forall_mem_append, List.forall_mem_cons]
    exact ⟨digit spelled.1, ⟨.inr rfl, by decide⟩, digit spelled.2⟩

theorem notMem_text {c : Char} (item : LineItem) (digit : c.isDigit = false) (other : c ≠ '-') :
    c ∉ item.text := by
  intro mem
  rcases (isListChar_text item c mem).1 with isDigit | rfl
  · rw [digit] at isDigit
    cases isDigit
  · exact other rfl

@[simp] theorem text_ne_nil (item : LineItem) : item.text ≠ [] := by
  cases item with
  | line digits spelled => exact ne_nil_of_isDigits spelled
  | interval first last => simp [LineItem.text]

/-! ## Items -/

theorem trim_digits {digits : Text} (spelled : isDigits digits = true) : trim digits = digits :=
  trim_of_no_blank fun c mem => isBlank_of_isDigit (isDigit_of_isDigits spelled c mem)

theorem bounds?_interval {first last : Text}
    (spelled : isDigits first = true ∧ isDigits last = true) :
    LineInterval.bounds? (first ++ '-' :: last)
      = (read? limit64 first).bind fun a => (read? limit64 last).map fun b => (a, b) := by
  have cut : cut? "-" (first ++ '-' :: last) = some (first, last) :=
    cut?_at first last (notMem_digits spelled.1 rfl)
  rw [LineInterval.bounds?, cut]
  simp only [trim_digits spelled.1, trim_digits spelled.2, Option.bind_eq_bind, Option.bind_some]
  cases read? limit64 first <;> cases read? limit64 last <;> rfl

/-- The interval of an item is the one that it is read as. -/
theorem ofItem?_text (item : LineItem) : LineInterval.ofItem? item.text = item.interval? := by
  cases item with
  | line digits spelled counted =>
    have uncut : cut? "-" digits = none := cut?_none digits (notMem_digits spelled rfl)
    rw [LineInterval.ofItem?, LineItem.text, uncut, LineItem.interval?, read?_digits _ spelled]
    by_cases bound : value digits < limit64
    · simp [bound, counted]
    · simp [bound]
  | interval first last spelled counted ordered =>
    have cut : cut? "-" (first ++ '-' :: last) = some (first, last) :=
      cut?_at first last (notMem_digits spelled.1 rfl)
    rw [LineInterval.ofItem?, LineItem.text, cut, LineItem.interval?]
    simp only [bounds?_interval spelled, read?_digits _ spelled.1, read?_digits _ spelled.2]
    by_cases bound : value last < limit64
    · simp [bound, Nat.lt_of_le_of_lt ordered bound, counted, ordered]
    · by_cases small : value first < limit64 <;> simp [bound, small]

/-- No item ends before it begins. -/
theorem ordered_of_bounds? (item : LineItem) {a b : Nat}
    (bounds : LineInterval.bounds? item.text = some (a, b)) :
    a ≤ b := by
  cases item with
  | line digits spelled =>
    have uncut : cut? "-" digits = none := cut?_none digits (notMem_digits spelled rfl)
    rw [LineItem.text, LineInterval.bounds?, uncut] at bounds
    cases bounds
  | interval first last spelled counted ordered =>
    rw [LineItem.text, bounds?_interval spelled, read?_digits _ spelled.1,
      read?_digits _ spelled.2] at bounds
    split_ifs at bounds
    · simp only [Option.bind_some, Option.map_some, Option.some.injEq, Prod.mk.injEq] at bounds
      omega
    all_goals cases bounds

theorem isItem_text (item : LineItem) : IsItem item.text := by
  cases item with
  | line digits spelled => exact .line (.of_isDigits spelled)
  | interval first last spelled => exact .interval (.of_isDigits spelled.1) (.of_isDigits spelled.2)

/-! ## Lists -/

section Lists
variable {items : List LineItem}

theorem isListChar_listText : ∀ c ∈ listText items, isListChar c = true := by
  have inside : ∀ c ∈ join "," (items.map LineItem.text), isListChar c = true := by
    apply forall_mem_join
    · exact List.forall_mem_singleton.mpr (by decide)
    · intro s mem
      obtain ⟨item, _, rfl⟩ := List.mem_map.mp mem
      exact fun c here => (isListChar_text item c here).2
  rw [listText, List.forall_mem_cons, List.forall_mem_append]
  exact ⟨by decide, inside, List.forall_mem_singleton.mpr (by decide)⟩

/-- A list of lines is a word. -/
theorem isWord_listText : IsWord (listText items) := by
  have plain : ∀ c ∈ listText items, isBlank c = false ∧ c.isAlpha = false ∧ c ≠ '(' := by
    intro c mem
    have ofList := isListChar_listText c mem
    simp only [isListChar, Bool.or_eq_true, beq_iff_eq] at ofList
    rcases ofList with (((digit | rfl) | rfl) | rfl) | rfl
    · refine ⟨isBlank_of_isDigit digit, isAlpha_of_isDigit digit, ?_⟩
      rintro rfl
      cases digit
    all_goals exact ⟨isBlank_of_graphic (by decide) (by decide), rfl, by decide⟩
  have noLetter : ∀ c ∈ listText items, 'D' ≠ c := by
    rintro _ mem rfl
    exact absurd (plain 'D' mem).2.1 (by decide)
  exact ⟨List.cons_ne_nil _ _, fun c mem => (plain c mem).1,
    lacks_of_notMem (a := '(') (by decide) fun c mem => toLower_ne rfl (plain c mem).2.2,
    lacks_of_notMem (a := 'D') (by decide) fun c mem =>
      (toLower_ne (plain c mem).2.1 (noLetter c mem)).symm⟩

theorem splitOn_items (nonempty : items ≠ []) :
    (join "," (items.map LineItem.text)).splitOn ',' = items.map LineItem.text := by
  apply List.splitOn_intercalate ','
  · intro s mem
    obtain ⟨item, _, rfl⟩ := List.mem_map.mp mem
    exact notMem_text item rfl (by decide)
  · simpa using nonempty

theorem isList_listText (nonempty : items ≠ []) : LineInterval.isList (listText items) = true := by
  rw [listText, LineInterval.isList, List.getLast?_concat, List.dropLast_concat,
    splitOn_items nonempty]
  simp [isItem_iff, isItem_text]

theorem listBody_listText (nonempty : items ≠ []) :
    LineInterval.listBody (listText items) = join "," (items.map LineItem.text) := by
  rw [listText]
  apply listBody_of_items
  rw [splitOn_items nonempty, List.forall_mem_map]
  exact fun item _ => isItem_text item

/-- A list is read as the intervals of its items. -/
theorem ofList_listText (nonempty : items ≠ []) :
    LineInterval.ofList (listText items) = items.filterMap LineItem.interval? := by
  have trimmed : ∀ item : LineItem, trim item.text = item.text := by
    intro item
    apply trim_of_no_blank
    intro c mem
    rcases (isListChar_text item c mem).1 with digit | rfl
    · exact isBlank_of_isDigit digit
    · exact isBlank_of_graphic (by decide) (by decide)
  have kept : ((items.map LineItem.text).map trim).filter (!·.isEmpty)
      = items.map LineItem.text := by
    have same : trim ∘ LineItem.text = LineItem.text := funext trimmed
    rw [List.map_map, same, List.filter_eq_self]
    intro s mem
    obtain ⟨item, _, rfl⟩ := List.mem_map.mp mem
    simp
  rw [LineInterval.ofList, LineInterval.items, listBody_listText nonempty,
    splitOn_items nonempty, kept, List.filterMap_map]
  exact congrArg (items.filterMap ·) (funext ofItem?_text)

/-- No interval of a list ends before it begins. -/
theorem inverted_listText (nonempty : items ≠ []) :
    LineInterval.inverted (listText items) = [] := by
  rw [LineInterval.inverted, listBody_listText nonempty, splitOn_items nonempty,
    List.filter_eq_nil_iff]
  rintro ⟨a, b⟩ mem
  obtain ⟨s, part, bounds⟩ := List.mem_filterMap.mp mem
  obtain ⟨item, _, rfl⟩ := List.mem_map.mp part
  have := ordered_of_bounds? item bounds
  simp only [decide_eq_true_eq]
  omega

end Lists

end TrajectoryFormat.Written
