import TrajectoryFormat.Proofs.ItemsInTurn
import TrajectoryFormat.Proofs.LineFields

/-!
# Values in turn

Every attribute takes the text up to its own delimiter, and a field that is left out is taken like
any other. So the values of a record come back in their places, and where the record stops early the
attributes after it have empty values.
-/

namespace TrajectoryFormat

namespace Record

open Text

variable {attributes : List Attribute} {values : List Text} {a : Attribute} {value text rest : Text}

/-! ## Writing values -/

/-- Values, each with the delimiter of its attribute. -/
def closedValues (attributes : List Attribute) (values : List Text) : Text :=
  (attributes.zip values).flatMap fun (a, value) => value ++ a.delimiter

/-- Values, each but the last with the delimiter of its attribute. -/
def writtenValues (attributes : List Attribute) (values : List Text) : Text :=
  closedValues attributes values.dropLast ++ values.getLast?.getD []

/-- No value holds the delimiter of its attribute. -/
def Apart (attributes : List Attribute) (values : List Text) : Prop :=
  ∀ field ∈ attributes.zip values, field.1.delimiter ≠ [] → ¬ field.1.delimiter <:+: field.2

instance (attributes : List Attribute) (values : List Text) : Decidable (Apart attributes values) :=
  inferInstanceAs (Decidable (∀ field ∈ attributes.zip values, _))

@[simp] theorem closedValues_cons (a : Attribute) (attributes : List Attribute) (value : Text)
    (values : List Text) :
    closedValues (a :: attributes) (value :: values)
      = value ++ a.delimiter ++ closedValues attributes values := rfl

@[simp] theorem writtenValues_singleton (attributes : List Attribute) (value : Text) :
    writtenValues attributes [value] = value := by
  rw [writtenValues, List.dropLast_singleton, closedValues, List.zip_nil_right]
  rfl

theorem writtenValues_cons (more : values ≠ []) :
    writtenValues (a :: attributes) (value :: values)
      = value ++ a.delimiter ++ writtenValues attributes values := by
  obtain ⟨next, values, rfl⟩ := List.exists_cons_of_ne_nil more
  rw [writtenValues, List.dropLast_cons_of_ne_nil more, closedValues_cons, List.getLast?_cons_cons,
    writtenValues, List.append_assoc (value ++ _)]

theorem Apart.take (apart : Apart attributes values) (n : Nat) :
    Apart attributes (values.take n) := by
  intro field mem
  obtain ⟨i, here⟩ := List.mem_iff_getElem?.mp mem
  rw [List.getElem?_zip_eq_some] at here
  have given : values[i]? = some field.2 := by
    rw [List.getElem?_take] at here
    exact (Option.ite_none_right_eq_some.mp here.2).2
  exact apart field (List.mem_of_getElem? (List.getElem?_zip_eq_some.mpr ⟨here.1, given⟩))

/-! ## What one attribute takes -/

theorem rawValues_cut (found : cutAt? a.delimiter text = some (value, rest)) :
    rawValues (some text) (a :: attributes) = value :: rawValues (some rest) attributes := by
  rw [rawValues, found]

theorem rawValues_rest (missing : cutAt? a.delimiter text = none) :
    rawValues (some text) (a :: attributes) = text :: rawValues none attributes := by
  rw [rawValues, missing]

/-- Attributes after the end of a record have empty values. -/
@[simp] theorem rawValues_none (attributes : List Attribute) :
    rawValues none attributes = List.replicate attributes.length [] := by
  induction attributes with
  | nil => rfl
  | cons a attributes ih => rw [rawValues, ih, List.length_cons, List.replicate_succ]

/-- A delimiter of one character at most is empty, or the character. -/
theorem empty_or_single (short : a.delimiter.length ≤ 1) :
    a.delimiter = [] ∨ ∃ c, a.delimiter = [c] := by
  rcases Nat.le_one_iff_eq_zero_or_eq_one.mp short with none | one
  · exact .inl (List.length_eq_zero_iff.mp none)
  · exact .inr (List.length_eq_one_iff.mp one)

/-- A value that does not hold its delimiter goes on to the end of the record. -/
theorem cutAt?_apart (short : a.delimiter.length ≤ 1)
    (absent : a.delimiter ≠ [] → ¬ a.delimiter <:+: value) :
    cutAt? a.delimiter value = none := by
  rcases empty_or_single short with none | ⟨c, single⟩
  · rw [cutAt?, none]
    rfl
  · rw [single] at absent ⊢
    exact cutAt?_none (absent (List.cons_ne_nil c []))

/-- A value that does not hold its delimiter ends where the delimiter is written. -/
theorem cutAt?_closed (short : a.delimiter.length ≤ 1) (closes : a.delimiter ≠ [])
    (absent : a.delimiter ≠ [] → ¬ a.delimiter <:+: value) (rest : Text) :
    cutAt? a.delimiter (value ++ a.delimiter ++ rest) = some (value, rest) := by
  obtain ⟨c, single⟩ := (empty_or_single short).resolve_left closes
  rw [single] at absent ⊢
  exact cutAt?_at (absent (List.cons_ne_nil c [])) rest

/-! ## Values come back -/

/-- Only the last delimiter of a list of attributes may be empty. -/
theorem closes_first (closes : ∀ b ∈ (a :: attributes).dropLast, b.delimiter ≠ [])
    (more : attributes ≠ []) :
    a.delimiter ≠ [] ∧ ∀ b ∈ attributes.dropLast, b.delimiter ≠ [] := by
  rw [List.dropLast_cons_of_ne_nil more, List.forall_mem_cons] at closes
  exact closes

theorem closes_tail (closes : ∀ b ∈ (a :: attributes).dropLast, b.delimiter ≠ []) :
    ∀ b ∈ attributes.dropLast, b.delimiter ≠ [] := by
  by_cases more : attributes = []
  · subst more
    exact fun b mem => absurd mem List.not_mem_nil
  · exact (closes_first closes more).2

/-- The values of a record that stops after one of them, and an empty value for each attribute after
it. -/
theorem rawValues_writtenValues (short : ∀ a ∈ attributes, a.delimiter.length ≤ 1)
    (closes : ∀ a ∈ attributes.dropLast, a.delimiter ≠ []) (nonempty : values ≠ [])
    (fit : values.length ≤ attributes.length) (apart : Apart attributes values) :
    rawValues (some (writtenValues attributes values)) attributes
      = values ++ List.replicate (attributes.length - values.length) [] := by
  induction attributes generalizing values with
  | nil => exact absurd (List.length_eq_zero_iff.mp (Nat.le_zero.mp fit)) nonempty
  | cons a attributes ih =>
    obtain ⟨value, values, rfl⟩ := List.exists_cons_of_ne_nil nonempty
    rw [List.forall_mem_cons] at short
    rw [Apart, List.zip_cons_cons, List.forall_mem_cons] at apart
    rw [List.length_cons, List.length_cons, Nat.add_le_add_iff_right] at fit
    by_cases last : values = []
    · subst last
      rw [writtenValues_singleton, rawValues_rest (cutAt?_apart short.1 apart.1), rawValues_none]
      rfl
    · have more : attributes ≠ [] := by
        rintro rfl
        exact last (List.length_eq_zero_iff.mp (Nat.le_zero.mp fit))
      obtain ⟨first, later⟩ := closes_first closes more
      rw [writtenValues_cons last, rawValues_cut (cutAt?_closed short.1 first apart.1 _),
        ih short.2 later last fit apart.2, List.length_cons, List.length_cons,
        Nat.add_sub_add_right, List.cons_append]

/-- The values of a record that ends with the last delimiter. -/
theorem rawValues_closedValues (short : ∀ a ∈ attributes, a.delimiter.length ≤ 1)
    (closes : ∀ a ∈ attributes.dropLast, a.delimiter ≠ [])
    (complete : values.length = attributes.length) (apart : Apart attributes values) :
    rawValues (some (closedValues attributes values)) attributes = values := by
  induction attributes generalizing values with
  | nil =>
    rw [List.length_eq_zero_iff.mp complete]
    rfl
  | cons a attributes ih =>
    obtain ⟨value, values, rfl⟩ := List.exists_cons_of_length_eq_add_one complete
    rw [List.forall_mem_cons] at short
    rw [Apart, List.zip_cons_cons, List.forall_mem_cons] at apart
    rw [List.length_cons, List.length_cons, Nat.add_right_cancel_iff] at complete
    rw [closedValues_cons]
    by_cases open_ended : a.delimiter = []
    · -- only the last attribute takes the rest of the record
      have last : attributes = [] := by
        by_contra more
        exact (closes_first closes more).1 open_ended
      subst last
      rw [List.length_eq_zero_iff.mp complete, open_ended, closedValues, List.zip_nil_left]
      have whole := cutAt?_apart short.1 apart.1
      rw [List.flatMap_nil, List.append_nil, List.append_nil, rawValues_rest whole]
      rfl
    · rw [rawValues_cut (cutAt?_closed short.1 open_ended apart.1 _),
        ih short.2 (closes_tail closes) complete apart.2]

end Record

/-! ## Records of a format -/

namespace DataFormat

open Record

/-- A record with a delimiter after every value. -/
def closedRecord (f : DataFormat) (values : List Text) : Text := closedValues f.attributes values

/-- A record with no delimiter after its last value. -/
def writtenRecord (f : DataFormat) (values : List Text) : Text := writtenValues f.attributes values

/-- Values with an empty one in the place of each field that is left out. -/
def emptied (f : DataFormat) (values : List Text) : List Text :=
  f.attributes.zipWith (fun a value => if a.isIgnored then [] else value) values

variable {f : DataFormat}

/-- Splitting a record and writing its values undo each other, but that fields left out have no
value. A record that stops after one of its values has the values up to there. -/
theorem splitting_undoes_recording (nonempty : f.attributes ≠ [])
    (short : ∀ a ∈ f.attributes, a.delimiter.length ≤ 1) :
    (∀ record, (splitValues f record).length = f.attributes.length) ∧
      ((∀ a ∈ f.attributes.dropLast, a.delimiter ≠ []) → ∀ values : List Text,
        values.length = f.attributes.length → Apart f.attributes values →
        splitValues f (f.closedRecord values) = f.emptied values
          ∧ splitValues f (f.writtenRecord values) = f.emptied values
          ∧ ∀ i, i + 1 < f.attributes.length →
            splitValues f (f.writtenRecord (values.take (i + 1)))
              = f.emptied (values.take (i + 1)
                ++ List.replicate (f.attributes.length - (i + 1)) [])) := by
  refine ⟨length_splitValues f, fun closes values complete apart => ⟨?closed, ?written,
    fun i inside => ?cut⟩⟩
  case closed => rw [splitValues, closedRecord, rawValues_closedValues short closes complete apart,
    emptied]
  case written =>
    have some_value : values ≠ [] := by
      rintro rfl
      exact nonempty (List.length_eq_zero_iff.mp complete.symm)
    rw [splitValues, writtenRecord, rawValues_writtenValues short closes some_value complete.le
      apart, complete,
      Nat.sub_self, List.replicate_zero, List.append_nil, emptied]
  case cut =>
    have count : (values.take (i + 1)).length = i + 1 := by
      rw [List.length_take, complete]
      exact Nat.min_eq_left inside.le
    have some_value : values.take (i + 1) ≠ [] := by
      intro none
      rw [none] at count
      cases count
    rw [splitValues, writtenRecord,
      rawValues_writtenValues short closes some_value (count.trans_le inside.le)
        (apart.take (i + 1)), count,
      emptied]

/-- A number, a field that is left out, a name, and a remark up to the end of the record. -/
def remarks : DataFormat where
  attributes := [.declared "_ID" "STRING" ";", .ignored ",", .declared "name" "STRING" "LS",
    .declared "remark" "STRING" "EOF"]

/-- The delimiters of other values in some of them, and one value empty. -/
def remarkValues : List Text := ["7,", "a b;", "", "c; d,"]

theorem splitting_undoes_recording_remarks :
    remarks.attributes ≠ [] ∧ (∀ a ∈ remarks.attributes, a.delimiter.length ≤ 1)
      ∧ (∀ a ∈ remarks.attributes.dropLast, a.delimiter ≠ [])
      ∧ remarkValues.length = remarks.attributes.length
      ∧ Apart remarks.attributes remarkValues
      ∧ remarks.closedRecord remarkValues = "7,;a b;, c; d,"
      ∧ remarks.writtenRecord (remarkValues.take 2) = "7,;a b;"
      ∧ splitValues remarks "7,;a b;, c; d," = (["7,", "", "", "c; d,"] : List Text)
      ∧ splitValues remarks "7,;a b;" = (["7,", "", "", ""] : List Text)
      ∧ (splitValues remarks ";,").length = 4 := by
  have nonempty : remarks.attributes ≠ [] := List.cons_ne_nil _ _
  have short : ∀ a ∈ remarks.attributes, a.delimiter.length ≤ 1 := by decide +kernel
  have closes : ∀ a ∈ remarks.attributes.dropLast, a.delimiter ≠ [] := by decide +kernel
  have apart : Apart remarks.attributes remarkValues := by decide +kernel
  have closed : remarks.closedRecord remarkValues = "7,;a b;, c; d," := by decide +kernel
  have cut : remarks.writtenRecord (remarkValues.take 2) = "7,;a b;" := by decide +kernel
  obtain ⟨count, back⟩ := splitting_undoes_recording nonempty short
  obtain ⟨whole, _, before⟩ := back closes remarkValues rfl apart
  have whole := whole.trans
    (show remarks.emptied remarkValues = (["7,", "", "", "c; d,"] : List Text) by decide +kernel)
  have before := (before 1 (by decide)).trans
    (show remarks.emptied (remarkValues.take 2 ++ List.replicate 2 [])
      = (["7,", "", "", ""] : List Text) by
      decide +kernel)
  rw [closed] at whole
  rw [cut] at before
  exact ⟨nonempty, short, closes, rfl, apart, closed, cut, whole, before, count ";,"⟩

end DataFormat

end TrajectoryFormat
