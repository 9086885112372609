import TrajectoryFormat.Proofs.SeparatedValues

/-!
# Copied values

The values of a record are cut from it. They are copied into the line, all but the items of an axis
that is read as numbers or dates, for which whole numbers are written, and the delimiters of arrays,
for which there are commas. So the characters of a line that are in no number and no separator are
those of copied values.
-/

namespace TrajectoryFormat

open Checked Description Text

variable {c : Char}

/-! ## Arrays written flat -/

namespace Text

variable {mark new s : Text}

/-- A character that the mark lacks stays where something else is written for the mark. -/
theorem mem_replaceFrom (nonempty : mark ≠ []) (other : c ∉ mark) (skip : Nat)
    (kept : c ∈ s.drop skip) :
    c ∈ replaceFrom mark new skip s := by
  induction s generalizing skip with
  | nil => simp at kept
  | cons d s ih =>
    cases skip with
    | succ skip =>
      rw [replaceFrom]
      exact ih skip kept
    | zero =>
      rw [List.drop_zero] at kept
      rw [replaceFrom]
      split
      · next opens =>
        obtain ⟨m, mark, rfl⟩ := List.exists_cons_of_ne_nil nonempty
        obtain ⟨rest, split⟩ := List.isPrefixOf_iff_prefix.mp opens
        rw [← split, List.mem_append, or_iff_right other] at kept
        rw [List.cons_append, List.cons.injEq] at split
        refine List.mem_append_right _ (ih _ ?_)
        rw [← split.2, List.length_cons, Nat.add_sub_cancel, List.drop_left]
        exact kept
      · rcases List.mem_cons.mp kept with rfl | kept
        · exact List.mem_cons_self
        · exact List.mem_cons_of_mem _ (ih 0 kept)

theorem notMem_replace_self (absent : c ∉ new) (s : Text) : c ∉ replace [c] new s := by
  rw [replace]
  induction s with
  | nil =>
    rw [replaceFrom]
    exact List.not_mem_nil
  | cons d s ih =>
    rw [replaceFrom]
    split
    · rw [List.mem_append, not_or]
      exact ⟨absent, ih⟩
    · next other =>
      rw [List.mem_cons, not_or]
      exact ⟨fun same => other (by simp [same]), ih⟩

end Text

namespace Record

open Transformer

variable {f : DataFormat} {shape : OutputShape} {array : ArrayFormat} {t : Transformer}
  {counter : Nat} {record value : Text} {done : Transformed} {point : List Text}

/-- A flat array has the characters of its text, but for those that are delimiters of it. -/
theorem mem_flatten_iff (comma : c ≠ ',')
    (lacks : ∀ a ∈ array.attributes, a.delimiter ≠ [c] → c ∉ a.delimiter) (text : Text) :
    c ∈ flatten array text ↔ c ∈ text ∧ ∀ a ∈ array.attributes, a.delimiter ≠ [c] := by
  rw [flatten]
  generalize array.attributes = attributes at lacks ⊢
  induction attributes generalizing text with
  | nil => simp
  | cons a attributes ih =>
    rw [List.forall_mem_cons] at lacks
    rw [List.map_cons, List.foldl_cons, ih _ lacks.2, List.forall_mem_cons, ← and_assoc]
    refine and_congr_left' ?_
    by_cases own : a.delimiter = [c]
    · rw [own]
      exact iff_of_false (notMem_replace_self (by simpa using comma) text) fun both => both.2 rfl
    · rw [and_iff_left own]
      split
      · rfl
      · next nonempty =>
        have some_mark : a.delimiter ≠ [] := fun none => nonempty (List.isEmpty_iff.mpr none)
        refine ⟨fun mem => ?_, fun mem => mem_replaceFrom some_mark (lacks.1 own) 0 mem⟩
        by_contra absent
        exact notMem_replaceFrom (by simpa using comma) 0 absent mem

/-! ## Values of a record -/

theorem subset_rawValues (text? : Option Text) (attributes : List Attribute) :
    ∀ v ∈ rawValues text? attributes, v ⊆ text?.getD [] := by
  induction attributes generalizing text? with
  | nil => cases text? <;> exact fun v mem => absurd mem List.not_mem_nil
  | cons a attributes ih =>
    cases text? with
    | none =>
      rw [rawValues, List.forall_mem_cons]
      exact ⟨List.nil_subset _, ih none⟩
    | some text =>
      rw [rawValues]
      split
      · next v rest cut =>
        have parts : text = v ++ (a.delimiter ++ rest) := by
          rw [(cutAt?_eq_some cut).1, List.append_assoc]
        have first : v ⊆ text := parts ▸ List.subset_append_left _ _
        have tail : rest ⊆ text :=
          parts ▸ List.subset_append_of_subset_right _ (List.subset_append_right _ _)
        rw [List.forall_mem_cons]
        exact ⟨first, fun w mem => List.Subset.trans (ih (some rest) w mem) tail⟩
      · rw [List.forall_mem_cons]
        exact ⟨List.Subset.refl _, fun w mem => List.Subset.trans (ih none w mem)
          (List.nil_subset _)⟩

/-- Values are cut from their record. -/
theorem subset_splitValues (among : value ∈ splitValues f record) : value ⊆ record := by
  obtain ⟨i, here⟩ := List.mem_iff_getElem?.mp among
  rw [splitValues, List.getElem?_zipWith_eq_some] at here
  obtain ⟨a, v, _, found, rfl⟩ := here
  split
  · exact List.nil_subset _
  · exact subset_rawValues _ _ v (List.mem_of_getElem? found)

/-! ## Items of points -/

/-- Whether the values of an axis are read, as numbers or as dates, and written as whole numbers. -/
def Transformer.isRead (t : Transformer) (d : Dimension) : Bool :=
  DeclaredType.isNumber (t.axis d).declaredType || d == .time && t.timePattern.isSome

/-- The items at a place of points are written as they are: no axis has this place, or one that is
not read. -/
def Transformer.Copies (t : Transformer) (place : Nat) : Prop :=
  ∀ d, (t.axis d).index = place → t.isRead d = false

namespace Transformer

section Accounts
variable (acc : t.Account counter record done)

/-- The values of an axis are kept as texts just where it is not read. -/
theorem Account.series_eq (d : Dimension) :
    (t.isRead d = true
        ∧ ∀ values, (⟨acc.raw.x, acc.raw.y, acc.time⟩ : Axes).series d ≠ .text values)
      ∨ (t.isRead d = false
        ∧ (⟨acc.raw.x, acc.raw.y, acc.time⟩ : Axes).series d
          = .text (column (t.axis d) acc.points)) := by
  have items : ∀ {type : Text} {items : List Text} {s : Series}, Series.ofItems type items = .ok s →
      (DeclaredType.isNumber type = true ∧ ∀ values, s ≠ .text values)
        ∨ (DeclaredType.isNumber type = false ∧ s = .text items) := by
    intro type items s read
    cases isNumber : DeclaredType.isNumber type with
    | true =>
      obtain ⟨parsed, _, rfl⟩ := (Series.ofItems_eq_ok isNumber).mp read
      exact .inl ⟨rfl, fun values => by simp⟩
    | false =>
      rw [Series.ofItems, isNumber, if_neg Bool.false_ne_true] at read
      exact .inr ⟨rfl, (Except.ok.inj read).symm⟩
  obtain ⟨hx, hy, htime⟩ := rawAxes_eq_ok.mp acc.raw_eq
  cases d with
  | x => simpa [isRead, axis, Axes.series] using items hx
  | y => simpa [isRead, axis, Axes.series] using items hy
  | time =>
    have repaired := acc.time_eq
    have settled : (∀ values, acc.raw.time ≠ .text values) → ∀ values, acc.time ≠ .text values := by
      intro numeric values texts
      rw [texts] at repaired
      exact numeric values (Series.eq_of_repaired repaired)
    unfold rawTime at htime
    cases pattern : t.timePattern with
    | some dates =>
      rw [pattern] at htime
      obtain ⟨instants, _, numeric⟩ := Series.ofDates_eq_ok.mp htime
      exact .inl ⟨by simp [isRead, pattern], settled fun values => by simp [← numeric]⟩
    | none =>
      rw [pattern] at htime
      rcases items htime with ⟨isNumber, numeric⟩ | ⟨other, texts⟩
      · exact .inl ⟨by simp [isRead, axis, isNumber], settled numeric⟩
      · rw [texts] at repaired
        exact .inr ⟨by simp [isRead, axis, pattern, other], (Except.ok.inj repaired).symm⟩

/-- What is written of a point at a place has a character that is in no number just where the item
is copied and has it. -/
theorem Account.mem_value_iff (made : ofFormat f shape = .ok t) (digit : c.isDigit = false)
    (hyphen : c ≠ '-') {k : Nat} (inside : acc.points[k]? = some point) (place : Nat) :
    c ∈ acc.value k place ↔ t.Copies place ∧ ∃ item, point[place]? = some item ∧ c ∈ item := by
  have copied : c ∈ point[place]?.getD [] ↔ ∃ item, point[place]? = some item ∧ c ∈ item := by
    cases point[place]? <;> simp
  rw [← copied, value, pointValue, inside, Option.getD_some]
  cases axis : t.dimensionAt? place with
  | none =>
    have free : t.Copies place := fun d here => by
      rw [(dimensionAt?_eq_some made).mpr here] at axis
      cases axis
    exact (and_iff_right free).symm
  | some d =>
    have here := (dimensionAt?_eq_some made).mp axis
    have own : t.Copies place ↔ t.isRead d = false := by
      refine ⟨fun free => free d here, fun unread e there => ?_⟩
      rw [axis_injective made (there.trans here.symm)]
      exact unread
    have columns := acc.columns_eq d
    rw [own]
    dsimp only
    rcases acc.series_eq d with ⟨read, numeric⟩ | ⟨unread, texts⟩
    · rw [read]
      refine iff_of_false (fun mem => ?_) fun both => Bool.noConfusion both.1
      cases written : (acc.columns d)[k]? with
      | none => simp [written] at mem
      | some text =>
        rw [written] at mem
        rcases Series.mem_compressed columns text (List.mem_of_getElem? written) with ⟨n, rfl⟩
          | ⟨values, texts, _⟩
        · exact Number.notMem_ofInt digit hyphen mem
        · exact numeric values texts
    · rw [texts] at columns
      have same : acc.columns d = column (t.axis d) acc.points := (Except.ok.inj columns).symm
      rw [unread, and_iff_right rfl, same, column, List.getElem?_map, inside, Option.map_some, here]
      rfl

theorem Account.mem_rows_iff (made : ofFormat f shape = .ok t) (digit : c.isDigit = false)
    (hyphen : c ≠ '-') :
    (∃ s ∈ acc.rows.flatten, c ∈ s) ↔ ∃ point ∈ acc.points, ∃ column ∈ t.pointColumns,
      t.Copies column.place ∧ ∃ item, point[column.place]? = some item ∧ c ∈ item := by
  rw [acc.rows_eq made]
  simp only [List.mem_flatten, List.mem_map, List.mem_range]
  constructor
  · rintro ⟨_, ⟨_, ⟨k, bound, rfl⟩, among⟩, mem⟩
    obtain ⟨column, written, rfl⟩ := List.mem_map.mp among
    have inside : acc.points[k]? = some acc.points[k] := List.getElem?_eq_getElem bound
    exact ⟨_, List.getElem_mem bound, column, written,
      (acc.mem_value_iff made digit hyphen inside _).mp mem⟩
  · rintro ⟨point, among, column, written, copied⟩
    obtain ⟨k, inside⟩ := List.mem_iff_getElem?.mp among
    have bound : k < acc.points.length := (List.getElem?_eq_some_iff.mp inside).1
    exact ⟨_, ⟨_, ⟨k, bound, rfl⟩, List.mem_map.mpr ⟨column, written, rfl⟩⟩,
      (acc.mem_value_iff made digit hyphen inside _).mpr copied⟩

/-! ## Lines -/

theorem Account.mem_line_iff (semicolon : c ≠ ';') (comma : c ≠ ',') :
    c ∈ done.line ↔ c ∈ acc.id ∨ (∃ s ∈ acc.rows.flatten, c ∈ s)
      ∨ ∃ s ∈ t.furtherFields (splitValues t.format record), c ∈ s := by
  rw [acc.line_eq_fields, mem_join_iff (by simpa using semicolon), Emission.fields,
    List.exists_mem_cons_iff, List.exists_mem_cons_iff, mem_join_iff (by simpa using comma)]
  rfl

end Accounts

end Transformer

end Record

end TrajectoryFormat
