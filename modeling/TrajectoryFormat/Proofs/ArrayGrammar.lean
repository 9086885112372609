import TrajectoryFormat.Proofs.PlainArrays

/-!
# Arrays that pass their check

An array of plain fields passes its check where no name is a reserved word of another class than
that of attributes, and where each type is a basic type, a delta type under the name of an axis or
of time, or a date whose pattern compiles under any name but that of an axis. The form of arrays,
which is checked before, refuses none of these.
-/

namespace TrajectoryFormat.Written

open Checked Description Text

/-! ## What a name allows -/

/-- The axes in space. -/
def axes : List Keyword := [.x, .y, .lon, .lat]

/-- The types of plain values. -/
def basicTypes : List Keyword := [.decimal, .integer, .string, .boolean, .char]

/-- The types of values that are differences. -/
def deltaTypes : List Keyword := [.deltaInteger, .deltaDecimal]

/-- A text is one of these words in whatever case. -/
def IsOneOf (ks : List Keyword) (s : Text) : Prop := ∃ k ∈ ks, sameIgnoringCase k.name s = true

theorem isOneOf_iff {ks : List Keyword} {s : Text} :
    IsOneOf ks s ↔ ∃ k ∈ ks, Keyword.lookupIgnoringCase? s = some k := by
  simp only [IsOneOf, lookupIgnoringCase?_eq_some_iff]

theorem mem_names_iff {ks : List Keyword} {name : Text} :
    name ∈ ks.map Keyword.name ↔ ∃ k ∈ ks, Keyword.lookup? name = some k := by
  rw [List.mem_map]
  constructor
  · rintro ⟨k, mem, rfl⟩
    exact ⟨k, mem, Keyword.lookup?_name k⟩
  · rintro ⟨k, mem, found⟩
    exact ⟨k, mem, Keyword.name_of_lookup? found⟩

/-- The classes of type that a name allows inside an array, by the name as it is spelled. -/
theorem mem_arrayTypes_iff {name : Text} {kind : LexicalClass} :
    kind ∈ arrayTypes name ↔ kind = .type
      ∨ kind = .deltaType ∧ name ∈ (.time :: axes).map Keyword.name
      ∨ kind = .dateType ∧ name ∉ axes.map Keyword.name := by
  simp only [mem_names_iff, arrayTypes, axes]
  cases Keyword.lookup? name with
  | none => simp
  | some k => cases k <;> simp

/-! ## Legal fields -/

/-- A type that a name allows inside an array: a basic type, a delta type under the name of an axis
or of time, or a date whose pattern compiles under any name but that of an axis. -/
def PlainType.Fits (name : Text) : PlainType → Prop
  | .word w =>
    IsOneOf basicTypes w.text
      ∨ IsOneOf deltaTypes w.text ∧ name ∈ (.time :: axes).map Keyword.name
  | .date pattern _ _ _ => (DatePattern.compile pattern).isOk = true ∧ name ∉ axes.map Keyword.name

/-- A field whose name is no reserved word of another class than that of attributes, and whose type
fits. -/
structure PlainField.IsLegal (f : PlainField) : Prop where
  free : ∀ k : Keyword, sameIgnoringCase k.name f.name.text = true → k.lexicalClass = .attribute
  fits : f.type.Fits f.name.text

theorem isOneOf_basicTypes_iff {s : Text} {k : Keyword}
    (known : Keyword.lookupIgnoringCase? s = some k) :
    IsOneOf basicTypes s ↔ k.lexicalClass = .type := by
  rw [isOneOf_iff, known]
  cases k <;> simp [basicTypes, Keyword.lexicalClass]

theorem isOneOf_deltaTypes_iff {s : Text} {k : Keyword}
    (known : Keyword.lookupIgnoringCase? s = some k) :
    IsOneOf deltaTypes s ↔ k.lexicalClass = .deltaType := by
  rw [isOneOf_iff, known]
  cases k <;> simp [deltaTypes, Keyword.lexicalClass]

/-- A word without brackets is no date declaration. -/
theorem PlainWord.not_datePattern (w : PlainWord) : ¬ ∃ p, datePattern w.text = .ok p := by
  have noBracket : '[' ∉ w.text := fun mem => absurd (w.letters _ mem) (by decide)
  have unquoted : quotedPattern? w.text = none := by
    rw [quotedPattern?, show ("[\"" : Text) = ['[', '"'] from rfl, cut?_none _ noBracket]
    rfl
  rintro ⟨p, read⟩
  rw [datePattern, unquoted] at read
  cases read

/-- A type passes its check in a triple where it fits the name. -/
theorem PlainType.fits_iff (t : PlainType) (name : Text) :
    classOf t.text false ∈ arrayTypes name
        ∧ (classOf t.text false = .dateType → ∃ p, datePattern t.text = .ok p)
      ↔ t.Fits name := by
  rw [mem_arrayTypes_iff]
  cases t with
  | word w =>
    have noDate := w.not_datePattern
    rw [text, w.classOf false, Fits]
    cases known : Keyword.lookupIgnoringCase? w.text with
    | none => simp [isOneOf_iff, known]
    | some k =>
      rw [isOneOf_basicTypes_iff known, isOneOf_deltaTypes_iff known]
      simp only
      constructor
      · rintro ⟨basic | delta | ⟨date, _⟩, read⟩
        · exact .inl basic
        · exact .inr delta
        · exact absurd (read date) noDate
      · rintro (basic | ⟨delta, axis⟩)
        · exact ⟨.inl basic, fun date => absurd (basic.symm.trans date) (by decide)⟩
        · exact ⟨.inr (.inl ⟨delta, axis⟩), fun date => absurd (delta.symm.trans date) (by decide)⟩
  | date pattern unquoted oneLine =>
    rw [text, classOf_dateText, exists_datePattern_dateText oneLine, Fits]
    simp [and_comm]

theorem PlainField.free_iff (f : PlainField) : classOf f.name.text true = .attribute ↔
    ∀ k : Keyword, sameIgnoringCase k.name f.name.text = true → k.lexicalClass = .attribute := by
  simp only [← lookupIgnoringCase?_eq_some_iff, f.name.classOf true]
  cases Keyword.lookupIgnoringCase? f.name.text with
  | none => simp
  | some k => simp

/-- Fields pass their check, one after the other, where each of them is legal. -/
theorem checkTriples_plain (declaration : Text) (fields : List PlainField) :
    checkTriples declaration ((fields.map PlainField.triple).flatMap Triple.tokens) = .ok ()
      ↔ ∀ f ∈ fields, f.IsLegal := by
  induction fields with
  | nil => simp [checkTriples, pure_eq_ok]
  | cons f fields ih =>
    have first : f.IsLegal ↔ classOf f.name.text true = .attribute
        ∧ classOf f.type.text false ∈ arrayTypes f.name.text
        ∧ classOf f.delimiter false = .delimiter
        ∧ (classOf f.type.text false = .dateType → ∃ p, datePattern f.type.text = .ok p) := by
      rw [f.free_iff, and_left_comm (a := classOf f.type.text false ∈ arrayTypes f.name.text),
        f.type.fits_iff]
      simp only [f.delimited.classOf false, true_and]
      exact ⟨fun h => ⟨h.free, h.fits⟩, fun h => ⟨h.1, h.2⟩⟩
    rw [List.forall_mem_cons, first, ← ih, List.map_cons, List.flatMap_cons]
    exact checkTriples_cons_eq_ok

/-- A type that fits has the form of types. -/
theorem PlainType.Fits.describes {t : PlainType} {name : Text} (h : t.Fits name) :
    Pattern.Describes typeForm t.text := by
  cases t with
  | word w => exact .right (.right w.describes)
  | date pattern unquoted oneLine =>
    have written : pattern ≠ [] := by
      rintro rfl
      exact absurd h.1 (by decide)
    exact .left (describes_date written oneLine)

/-- An array of plain fields passes its check just where every field is legal. -/
theorem checkArray_plain_iff {fields : List PlainField} (nonempty : fields ≠ []) :
    checkArray (PlainField.arrayText fields) = .ok () ↔ ∀ f ∈ fields, f.IsLegal := by
  constructor
  · intro checked
    have passed := checkTriples_of_checkArray checked
    rw [PlainField.arrayText, Triple.arrayTokens_arrayText (triples_ne_nil nonempty)
      whole_triples] at passed
    exact (checkTriples_plain _ fields).mp passed
  · intro legal
    have described : ∀ t ∈ fields.map PlainField.triple, Pattern.Describes tripleForm t.text :=
      List.forall_mem_map.mpr fun f mem =>
        describes_triple f.name.describes (legal f mem).fits.describes f.delimited.describes
    exact Triple.checkArray_arrayText (triples_ne_nil nonempty) whole_triples described
      ((checkTriples_plain _ fields).mpr legal)

theorem checkArray_plain_survey :
    (∀ f ∈ surveyFields, f.IsLegal) ∧ checkArray (PlainField.arrayText surveyFields) = .ok () := by
  have legal : ∀ f ∈ surveyFields, f.IsLegal :=
    (checkTriples_plain [] surveyFields).mp (by decide +kernel)
  exact ⟨legal, (checkArray_plain_iff (by decide)).mpr legal⟩

end TrajectoryFormat.Written
