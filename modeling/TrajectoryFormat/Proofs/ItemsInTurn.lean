import TrajectoryFormat.Proofs.Splitting

/-!
# Items with delimiters in turn

Every item of an array ends at a delimiter, and the delimiters are taken in turn, over and over.
Cutting a text and writing its items undo each other: what is cut is written back, but for one empty
item at the end, and items without their delimiters come back from what is written.
-/

namespace TrajectoryFormat

namespace Record

open Text

variable {delimiters items rest : List Text} {delimiter text item after : Text} {k : Nat}

/-! ## Writing items -/

/-- The delimiter that item number `k` ends at. -/
def delimiterAt (delimiters : List Text) (k : Nat) : Text :=
  (delimiters[k % delimiters.length]?).getD []

/-- Items from number `k` on, every one with its delimiter. -/
def closedFrom (delimiters : List Text) (k : Nat) (items : List Text) : Text :=
  (items.zipIdx k).flatMap fun (item, i) => item ++ delimiterAt delimiters i

/-- Items from number `k` on, every one but the last with its delimiter. -/
def writtenFrom (delimiters : List Text) (k : Nat) (items : List Text) : Text :=
  closedFrom delimiters k items.dropLast ++ items.getLast?.getD []

@[simp] theorem closedFrom_cons (delimiters : List Text) (k : Nat) (item : Text)
    (rest : List Text) :
    closedFrom delimiters k (item :: rest)
      = item ++ delimiterAt delimiters k ++ closedFrom delimiters (k + 1) rest := rfl

@[simp] theorem writtenFrom_singleton (delimiters : List Text) (k : Nat) (item : Text) :
    writtenFrom delimiters k [item] = item := rfl

theorem writtenFrom_cons (more : rest ≠ []) :
    writtenFrom delimiters k (item :: rest)
      = item ++ delimiterAt delimiters k ++ writtenFrom delimiters (k + 1) rest := by
  obtain ⟨next, rest, rfl⟩ := List.exists_cons_of_ne_nil more
  rw [writtenFrom, List.dropLast_cons_of_ne_nil more, closedFrom_cons, List.getLast?_cons_cons,
    writtenFrom, List.append_assoc (item ++ _)]

@[simp] theorem writtenFrom_concat (delimiters : List Text) (k : Nat) (items : List Text)
    (item : Text) :
    writtenFrom delimiters k (items ++ [item]) = closedFrom delimiters k items ++ item := by
  rw [writtenFrom, List.dropLast_concat, List.getLast?_concat, Option.getD_some]

/-! ## What is cut is written back -/

@[simp] theorem itemsFrom_ne_nil (delimiters : List Text) (k : Nat) (text : Text) :
    itemsFrom delimiters k text ≠ [] := by
  rw [itemsFrom]
  split <;> exact List.cons_ne_nil _ _

theorem writtenFrom_itemsFrom (delimiters : List Text) (k : Nat) (text : Text) :
    writtenFrom delimiters k (itemsFrom delimiters k text) = text := by
  induction k, text using itemsFrom.induct delimiters with
  | case1 k text item after found ih =>
    rw [itemsFrom_cut found, writtenFrom_cons (itemsFrom_ne_nil _ _ _), ih]
    exact (cutAt?_eq_some found).1.symm
  | case2 k text missing => rw [itemsFrom_last missing, writtenFrom_singleton]

/-- Each item but the last is cut where its delimiter occurs first. -/
theorem not_infix_itemsFrom (delimiters : List Text) (k : Nat) (text : Text) :
    ∀ j item, (itemsFrom delimiters k text).dropLast[j]? = some item →
      ¬ delimiterAt delimiters (k + j) <:+: item := by
  induction k, text using itemsFrom.induct delimiters with
  | case1 k text first after found ih =>
    rw [itemsFrom_cut found, List.dropLast_cons_of_ne_nil (itemsFrom_ne_nil _ _ _)]
    intro j item here
    cases j with
    | zero =>
      cases here
      exact (cutAt?_eq_some found).2
    | succ j =>
      rw [← Nat.succ_add_eq_add_succ]
      exact ih j item here
  | case2 k text missing =>
    rw [itemsFrom_last missing]
    intro j item here
    cases here

/-- A text is cut once for each of its characters at most. -/
theorem length_itemsFrom_le (delimiters : List Text) (k : Nat) (text : Text) :
    (itemsFrom delimiters k text).length ≤ text.length + 1 := by
  induction k, text using itemsFrom.induct delimiters with
  | case1 k text item after found ih =>
    have shorter := cutAt?_length found
    rw [itemsFrom_cut found, List.length_cons]
    omega
  | case2 k text missing =>
    rw [itemsFrom_last missing, List.length_singleton]
    exact Nat.le_add_left _ _

/-! ## What is written is cut back -/

theorem cutAt?_at {c : Char} (absent : ¬ [c] <:+: item) (after : Text) :
    cutAt? [c] (item ++ [c] ++ after) = some (item, after) := by
  rw [List.singleton_infix_iff] at absent
  rw [cutAt?, if_neg (by simp), List.append_assoc]
  exact cut?_at item after absent

theorem cutAt?_none {c : Char} (absent : ¬ [c] <:+: item) : cutAt? [c] item = none := by
  rw [List.singleton_infix_iff] at absent
  rw [cutAt?, if_neg (by simp)]
  exact cut?_none item absent

/-- Items without their delimiters come back from what is written. -/
theorem itemsFrom_writtenFrom (single : ∀ k, ∃ c, delimiterAt delimiters k = [c])
    (nonempty : items ≠ []) (k : Nat)
    (absent : ∀ j item, items[j]? = some item → ¬ delimiterAt delimiters (k + j) <:+: item) :
    itemsFrom delimiters k (writtenFrom delimiters k items) = items := by
  induction items generalizing k with
  | nil => exact absurd rfl nonempty
  | cons item rest ih =>
    obtain ⟨c, mark⟩ := single k
    have first : ¬ [c] <:+: item := mark ▸ absent 0 item rfl
    by_cases more : rest = []
    · subst more
      rw [writtenFrom_singleton]
      apply itemsFrom_last
      rw [← delimiterAt, mark, cutAt?_none first]
    · have later : ∀ j item, rest[j]? = some item →
          ¬ delimiterAt delimiters (k + 1 + j) <:+: item := by
        intro j item here
        rw [Nat.succ_add_eq_add_succ]
        exact absent (j + 1) item here
      have found : cutAt? (delimiterAt delimiters k) (writtenFrom delimiters k (item :: rest))
          = some (item, writtenFrom delimiters (k + 1) rest) := by
        rw [writtenFrom_cons more, mark, cutAt?_at first]
      rw [itemsFrom_cut found, ih more (k + 1) later]

theorem writtenFrom_eq_join {c : Char} (mark : ∀ k, delimiterAt delimiters k = [c]) (k : Nat)
    (items : List Text) :
    writtenFrom delimiters k items = join [c] items := by
  induction items generalizing k with
  | nil => rfl
  | cons item rest ih =>
    cases rest with
    | nil => rw [writtenFrom_singleton, join_singleton]
    | cons next rest => rw [writtenFrom_cons (List.cons_ne_nil _ _), mark, ih, join_cons_cons]

/-- Items that do not hold the mark come back from their join. -/
theorem itemsFrom_join {c : Char} (mark : ∀ k, delimiterAt delimiters k = [c])
    (nonempty : items ≠ []) (absent : ∀ item ∈ items, c ∉ item) (k : Nat) :
    itemsFrom delimiters k (join [c] items) = items := by
  rw [← writtenFrom_eq_join mark k]
  refine itemsFrom_writtenFrom (fun k => ⟨c, mark k⟩) nonempty k fun j item here => ?_
  rw [mark, List.singleton_infix_iff]
  exact absent item (List.mem_of_getElem? here)

/-! ## Arrays -/

end Record

namespace ArrayFormat

open Record

/-- The delimiter that item number `k` of an array ends at. -/
def delimiterAt (array : ArrayFormat) (k : Nat) : Text :=
  Record.delimiterAt (array.attributes.map Attribute.delimiter) k

/-- The text of an array with a delimiter after every item. -/
def closed (array : ArrayFormat) (items : List Text) : Text :=
  closedFrom (array.attributes.map Attribute.delimiter) 0 items

/-- The text of an array with no delimiter after the last item. -/
def written (array : ArrayFormat) (items : List Text) : Text :=
  writtenFrom (array.attributes.map Attribute.delimiter) 0 items

variable {array : ArrayFormat} {items : List Text} {text : Text}

theorem exists_delimiterAt (nonempty : array.attributes ≠ []) (k : Nat) :
    ∃ a ∈ array.attributes, array.delimiterAt k = a.delimiter := by
  have bound : k % (array.attributes.map Attribute.delimiter).length < array.attributes.length := by
    rw [List.length_map]
    exact Nat.mod_lt _ (List.length_pos_iff.mpr nonempty)
  refine ⟨_, List.getElem_mem bound, ?_⟩
  rw [delimiterAt, Record.delimiterAt, List.getElem?_map, List.getElem?_eq_getElem bound,
    Option.map_some, Option.getD_some]

/-- The items of a text: they are no more than its characters and one, they make the text, once one
empty item at the end is put back, and no item but the last holds the delimiter that follows it. -/
structure ItemsOf (array : ArrayFormat) (text : Text) (items : List Text) : Prop where
  count : items.length ≤ text.length + 1
  back : items.getLast? ≠ some [] ∧ array.written items = text ∨ array.closed items = text
  apart : ∀ k item, items.dropLast[k]? = some item → ¬ array.delimiterAt k <:+: item

theorem splitItems_eq (nonempty : array.attributes ≠ []) (text : Text) :
    splitItems array text
      = dropEmptyLast (itemsFrom (array.attributes.map Attribute.delimiter) 0 text) := by
  rw [splitItems, if_neg (by simpa using nonempty)]

theorem itemsOf_splitItems (nonempty : array.attributes ≠ []) (text : Text) :
    array.ItemsOf text (splitItems array text) := by
  have count := length_itemsFrom_le (array.attributes.map Attribute.delimiter) 0 text
  have back := writtenFrom_itemsFrom (array.attributes.map Attribute.delimiter) 0 text
  have apart := not_infix_itemsFrom (array.attributes.map Attribute.delimiter) 0 text
  simp only [Nat.zero_add] at apart
  rw [splitItems_eq nonempty, dropEmptyLast]
  generalize itemsFrom (array.attributes.map Attribute.delimiter) 0 text = all at count back apart
  split
  · next last =>
    obtain ⟨items, rfl⟩ := List.getLast?_eq_some_iff.mp last
    rw [List.dropLast_concat] at apart ⊢
    refine ⟨?_, .inr ?_, fun k item here => apart k item ?_⟩
    · rw [List.length_append, List.length_singleton] at count
      exact (Nat.le_succ _).trans count
    · rwa [writtenFrom_concat, List.append_nil] at back
    · rw [List.getElem?_dropLast] at here
      split at here
      · exact here
      · cases here
  · next last => exact ⟨count, .inl ⟨last, back⟩, apart⟩

/-- Items without their delimiters come back, whether or not a delimiter follows the last. -/
theorem splitItems_of_apart (nonempty : array.attributes ≠ [])
    (single : ∀ a ∈ array.attributes, ∃ c, a.delimiter = [c]) (some_item : items ≠ [])
    (apart : ∀ k item, items[k]? = some item → ¬ array.delimiterAt k <:+: item) :
    splitItems array (array.closed items) = items
      ∧ (items.getLast? ≠ some [] → splitItems array (array.written items) = items) := by
  have marks : ∀ k, ∃ c, array.delimiterAt k = [c] := by
    intro k
    obtain ⟨a, mem, here⟩ := exists_delimiterAt nonempty k
    rw [here]
    exact single a mem
  have back : ∀ items : List Text, items ≠ [] →
      (∀ k item, items[k]? = some item → ¬ array.delimiterAt k <:+: item) →
      itemsFrom (array.attributes.map Attribute.delimiter) 0 (array.written items) = items := by
    intro items some_item apart
    apply itemsFrom_writtenFrom marks some_item
    intro j item here
    rw [Nat.zero_add]
    exact apart j item here
  constructor
  · have closing : ∀ k item, (items ++ [[]])[k]? = some item → ¬ array.delimiterAt k <:+: item := by
      intro k item here
      by_cases inside : k < items.length
      · exact apart k item (by rwa [List.getElem?_append_left inside] at here)
      · obtain ⟨c, mark⟩ := marks k
        rw [List.getElem?_append_right (Nat.not_lt.mp inside)] at here
        rw [List.mem_singleton.mp (List.mem_of_getElem? here), mark, List.infix_nil]
        exact List.cons_ne_nil c []
    have ends : array.closed items = array.written (items ++ [[]]) := by
      rw [written, writtenFrom_concat, List.append_nil, closed]
    rw [splitItems_eq nonempty, ends, back _ (by simp) closing, dropEmptyLast,
      if_pos List.getLast?_concat, List.dropLast_concat]
  · intro last
    rw [splitItems_eq nonempty, back items some_item apart, dropEmptyLast, if_neg last]

/-- Splitting the text of an array and writing its items undo each other. -/
theorem splitting_undoes_writing (nonempty : array.attributes ≠ []) :
    (∀ text, array.ItemsOf text (splitItems array text)) ∧
      ((∀ a ∈ array.attributes, ∃ c, a.delimiter = [c]) → ∀ items : List Text, items ≠ [] →
        (∀ k item, items[k]? = some item → ¬ array.delimiterAt k <:+: item) →
        splitItems array (array.closed items) = items
          ∧ (items.getLast? ≠ some [] → splitItems array (array.written items) = items)) :=
  ⟨itemsOf_splitItems nonempty, fun single _ some_item apart =>
    splitItems_of_apart nonempty single some_item apart⟩

/-- Points with two numbers, cut at a comma and a semicolon. -/
def pairs : ArrayFormat := ofDeclaration "ARRAY(_X DECIMAL , _Y DECIMAL ;)"

/-- Two points, the delimiter of the other number in two of their items. -/
def pairItems : List Text := ["0;", "1", "", "3,"]

theorem splitting_undoes_writing_pairs :
    pairs.attributes ≠ [] ∧ (∀ a ∈ pairs.attributes, ∃ c, a.delimiter = [c]) ∧ pairItems ≠ []
      ∧ (∀ k item, pairItems[k]? = some item → ¬ pairs.delimiterAt k <:+: item)
      ∧ pairItems.getLast? ≠ some [] ∧ pairs.closed pairItems = "0;,1;,3,;"
      ∧ pairs.written pairItems = "0;,1;,3,"
      ∧ splitItems pairs "0;,1;,3,;" = pairItems ∧ splitItems pairs "0;,1;,3," = pairItems
      ∧ pairs.ItemsOf "0;,1;,3,;" pairItems := by
  have nonempty : pairs.attributes ≠ [] := by decide +kernel
  have single : ∀ a ∈ pairs.attributes, ∃ c, a.delimiter = [c] := by
    have read : pairs.attributes.map Attribute.delimiter = [[','], [';']] := by decide +kernel
    intro a mem
    have here := List.mem_map_of_mem (f := Attribute.delimiter) mem
    rw [read] at here
    rcases List.mem_cons.mp here with comma | semicolon
    · exact ⟨',', comma⟩
    · exact ⟨';', List.mem_singleton.mp semicolon⟩
  have apart : ∀ k item, pairItems[k]? = some item → ¬ pairs.delimiterAt k <:+: item := by
    have absent : ∀ k < 4, ¬ pairs.delimiterAt k <:+: (pairItems[k]?).getD [] := by decide +kernel
    intro k item here
    have free := absent k (List.getElem?_eq_some_iff.mp here).1
    rwa [here] at free
  obtain ⟨cut, back⟩ := splitting_undoes_writing nonempty
  obtain ⟨closed, written⟩ := back single pairItems (by decide) apart
  have last : pairItems.getLast? ≠ some [] := by decide
  have closing : pairs.closed pairItems = "0;,1;,3,;" := by decide +kernel
  have writing : pairs.written pairItems = "0;,1;,3," := by decide +kernel
  rw [closing] at closed
  rw [writing] at written
  have cut := cut "0;,1;,3,;"
  rw [closed] at cut
  exact ⟨nonempty, single, by decide, apart, last, closing, writing, closed, written last, cut⟩

end ArrayFormat

end TrajectoryFormat
