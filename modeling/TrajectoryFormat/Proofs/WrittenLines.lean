import TrajectoryFormat.Proofs.ArrayTriples
import TrajectoryFormat.Proofs.LogicalLines
import TrajectoryFormat.Proofs.WrittenParts

/-!
# Lines of written descriptions

The text of a declaration is a logical line once its date patterns are bonded, and the tokens of the
line are the parts of the declaration with their classes. An array of fields is closed by its last
parenthesis, and the tokens inside are those of the fields.
-/

namespace TrajectoryFormat.Written

open Description Text

/-! ## Arrays -/

/-- The words of a field. -/
def Field.triple (f : Field) : Triple := ⟨f.name.text, f.type.text, f.delimiter.text⟩

/-- The tokens of a field. -/
def Field.tokens (f : Field) : List Token :=
  [⟨f.name.text, .attribute⟩, ⟨f.type.text, f.type.kind⟩, ⟨f.delimiter.text, .delimiter⟩]

namespace Field

theorem bonds (f : Field) : Triple.Bonds f.triple f.bonded.triple :=
  Triple.bonds_of_type f.name.isWord f.delimiter.isWord fun _ ends => f.type.bondPatterns ends

/-- A field as it stands in a logical line is made of pieces. -/
theorem whole (f : Field) : f.bonded.triple.Whole where
  pieces := Triple.forall_mem_words.mpr
    ⟨isPiece_of_isWord f.name.isWord, f.type.isPiece, isPiece_of_isWord f.delimiter.isWord⟩
  ends c last := f.delimiter.isWord.unblank c (List.mem_of_getLast? last)

theorem solid (f : Field) : f.bonded.triple.Solid where
  nonempty := Triple.forall_mem_words.mpr
    ⟨f.name.ne_nil, f.type.ne_nil, f.delimiter.isWord.nonempty⟩
  unblank := Triple.forall_mem_words.mpr
    ⟨f.name.isWord.unblank, fun c mem => (f.type.plain c mem).1, f.delimiter.isWord.unblank⟩
  name c mem := flat_of_continuesIdentifier (f.name.letters c mem)
  type c mem := (f.type.plain c mem).2
  delimiter := f.delimiter.isDelimiter.flat_or_parenthesis

theorem tokens_triple (f : Field) : f.bonded.triple.tokens = f.bonded.tokens := by
  simp [Triple.tokens, triple, tokens, classify, bonded, f.name.classOf, f.type.classOf,
    f.delimiter.classOf]

end Field

section Arrays
variable {fields : List Field}

/-- The text of fields as it stands in a logical line. -/
def bondedText (fields : List Field) : Text := (fields.map Field.bonded).flatMap Field.text

/-- The words of fields as they stand in a logical line. -/
def bondedTriples (fields : List Field) : List Triple := fields.map fun f => f.bonded.triple

theorem bondedTriples_ne_nil (nonempty : fields ≠ []) : bondedTriples fields ≠ [] := by
  simpa [bondedTriples] using nonempty

theorem whole_bondedTriples : ∀ t ∈ bondedTriples fields, t.Whole :=
  List.forall_mem_map.mpr fun f _ => f.whole

theorem solid_bondedTriples : ∀ t ∈ bondedTriples fields, t.Solid :=
  List.forall_mem_map.mpr fun f _ => f.solid

/-- An array of fields as it stands in a logical line. -/
def arrayText (fields : List Field) : Text := arrayOpening ++ (bondedText fields ++ [')'])

theorem arrayText_eq (fields : List Field) :
    arrayText fields = Triple.arrayText (bondedTriples fields) := by
  rw [arrayText, bondedText, Triple.arrayText, bondedTriples, List.flatMap_map, List.flatMap_map]
  rfl

theorem spaced_arrayText (nonempty : fields ≠ []) : Spaced (arrayText fields) := by
  rw [arrayText_eq]
  exact Triple.spaced_arrayText (bondedTriples_ne_nil nonempty) solid_bondedTriples

theorem isPiece_arrayText : IsPiece (arrayText fields) := by
  rw [arrayText_eq]
  exact Triple.isPiece_arrayText solid_bondedTriples

theorem tokens_bondedTriples (fields : List Field) :
    (bondedTriples fields).flatMap Triple.tokens
      = (fields.map Field.bonded).flatMap Field.tokens := by
  rw [bondedTriples, List.flatMap_map, List.flatMap_map]
  congr 1
  funext f
  exact f.tokens_triple

end Arrays

/-! ## Types of attributes -/

namespace AttributeType

variable (t : AttributeType)

theorem bondPatterns {after : Text} (ends : endsWord after = true) :
    bondPatterns (t.text ++ after) = t.bonded.text ++ bondPatterns after := by
  cases t with
  | value type => exact type.bondPatterns ends
  | array fields nonempty =>
    have written : (array fields nonempty).text = Triple.arrayText (fields.map Field.triple) := by
      rw [text, Triple.arrayText, List.flatMap_map]
      rfl
    have bonded : (array fields nonempty).bonded.text = Triple.arrayText (bondedTriples fields) :=
      arrayText_eq fields
    rw [written, bonded]
    exact Triple.bondPatterns_arrayText (fun f _ => f.bonds) after

theorem spaced : Spaced t.bonded.text := by
  cases t with
  | value type => exact .word type.ne_nil fun c mem => (type.plain c mem).1
  | array fields nonempty => exact spaced_arrayText nonempty

theorem isPiece : IsPiece t.bonded.text := by
  cases t with
  | value type => exact type.isPiece
  | array => exact isPiece_arrayText

theorem classOf (first : Bool) : classOf t.bonded.text first = t.kind := by
  cases t with
  | value type => exact type.classOf first
  | array fields =>
    have array : opensWith arrayOpening (arrayText fields) = true := opensWith_append arrayOpening _
    rw [bonded, text, Description.classOf]
    exact if_pos array

/-- The array of a type is closed before the delimiter. -/
theorem isOpenArray {after : Text} (ends : endsWord after = true)
    (closed : isOpenArray after = false) :
    isOpenArray (t.bonded.text ++ after) = false := by
  cases t with
  | value type => exact (isOpenArray_append type.noArray ends).trans closed
  | array fields =>
    have written : (array fields ‹_›).bonded.text = Triple.arrayText (bondedTriples fields) :=
      arrayText_eq fields
    rw [written]
    exact Triple.isOpenArray_arrayText solid_bondedTriples after

end AttributeType

/-! ## Settings -/

namespace Setting

/-- The class of a value. -/
def kind : Setting → LexicalClass
  | coordinateSystem _ _ _ => .coordinateSystem
  | spatialDimensions _ _ => .text
  | ignoreLines _ _ => .text
  | ignoreAttribute _ => .delimiter
  | autoId _ _ _ _ => .text
  | recordsDelimiter _ => .delimiter
  | decimalPrecision _ _ _ => .text
  | outputShape _ _ _ => .shape

theorem exists_of_system {word : Text} {system : CoordinateSystem}
    (spelled : CoordinateSystem.ofName? word = some system) :
    ∃ k, Keyword.lookupIgnoringCase? word = some k ∧ k.lexicalClass = .coordinateSystem := by
  unfold CoordinateSystem.ofName? at spelled
  split at spelled
  · next known => exact ⟨_, known, rfl⟩
  · next known => exact ⟨_, known, rfl⟩
  · cases spelled

theorem exists_of_shape {word : Text} {shape : OutputShape}
    (spelled : OutputShape.ofName? word = some shape) :
    ∃ k, Keyword.lookupIgnoringCase? word = some k ∧ k.lexicalClass = .shape := by
  unfold OutputShape.ofName? at spelled
  split at spelled
  · next known => exact ⟨_, known, rfl⟩
  · next known => exact ⟨_, known, rfl⟩
  · next known => exact ⟨_, known, rfl⟩
  · cases spelled

theorem isDigits_of_dimensions {digit : Text} (legal : digit ∈ (["1", "2", "3"] : List Text)) :
    Number.isDigits digit = true := by
  have spelled : ∀ digit ∈ (["1", "2", "3"] : List Text), Number.isDigits digit = true := by decide
  exact spelled digit legal

theorem isWord_value (s : Setting) : IsWord s.value := by
  cases s with
  | coordinateSystem word system spelled =>
    obtain ⟨k, known, _⟩ := exists_of_system spelled
    exact isWord_of_lookup known
  | spatialDimensions digit legal =>
    exact isWord_of_isDigits (isDigits_of_dimensions legal)
  | ignoreLines items => exact isWord_listText
  | ignoreAttribute delimiter => exact delimiter.isWord
  | autoId stem word => exact word
  | recordsDelimiter delimiter => exact delimiter.isWord
  | decimalPrecision digits spelled => exact isWord_of_isDigits spelled
  | outputShape word shape spelled =>
    obtain ⟨k, known, _⟩ := exists_of_shape spelled
    exact isWord_of_lookup known

theorem classOf_value (s : Setting) : classOf s.value false = s.kind := by
  cases s with
  | coordinateSystem word system spelled =>
    obtain ⟨k, known, kind⟩ := exists_of_system spelled
    exact (classOf_of_lookup known false).trans kind
  | spatialDimensions digit legal =>
    exact classOf_of_isDigits (isDigits_of_dimensions legal)
  | ignoreLines items =>
    have free : Keyword.lookupIgnoringCase? (listText items) = none := by
      cases known : Keyword.lookupIgnoringCase? (listText items) with
      | none => rfl
      | some k => exact absurd (letters_of_lookup known '[' (by simp [listText])) (by decide)
    have noMark : Description.isMark (listText items) = false := by
      obtain ⟨c, rest, split⟩ := List.exists_cons_of_ne_nil
        (show join "," (items.map LineItem.text) ++ [']'] ≠ [] by simp)
      rw [listText, split]
      rfl
    rw [value, classOf_of_isWord isWord_listText noMark, free]
    rfl
  | ignoreAttribute delimiter => exact delimiter.classOf false
  | autoId stem word noMark free =>
    rw [value, classOf_of_isWord word noMark, free]
    rfl
  | recordsDelimiter delimiter => exact delimiter.classOf false
  | decimalPrecision digits spelled => exact classOf_of_isDigits spelled
  | outputShape word shape spelled =>
    obtain ⟨k, known, kind⟩ := exists_of_shape spelled
    exact (classOf_of_lookup known false).trans kind

end Setting

/-! ## Declarations -/

namespace Declaration

variable (d : Declaration)

/-- The word that a declaration begins with. -/
def opening : Declaration → Text
  | .declared a => a.name.text
  | .setting s => s.keyword.name

/-- The word that a declaration ends with. -/
def closing : Declaration → Text
  | .declared a => a.delimiter.text
  | .setting s => s.value

theorem letters_opening : ∀ c ∈ d.opening, continuesIdentifier c = true := by
  cases d with
  | declared a => exact a.name.letters
  | setting s => exact letters_of_lookup (lookupIgnoringCase?_name s.keyword)

theorem isWord_opening : IsWord d.opening := by
  cases d with
  | declared a => exact a.name.isWord
  | setting s => exact isWord_of_lookup (lookupIgnoringCase?_name s.keyword)

theorem isWord_closing : IsWord d.closing := by
  cases d with
  | declared a => exact a.delimiter.isWord
  | setting s => exact s.isWord_value

theorem isSkippable_text : isSkippable d.text = false := by
  have kept := isSkippable_letters d.isWord_opening.nonempty d.letters_opening
  cases d <;> exact kept _

/-- The blanks in the date patterns of a declaration are bonded, and no others. -/
theorem bondPatterns_text : bondPatterns d.text = d.bonded.text := by
  cases d with
  | declared a =>
    rw [text, a.name.isWord.bondPatterns_append, a.type.bondPatterns (endsWord_space _),
      bondPatterns_space, bondPatterns_word a.delimiter.isWord.noDate]
    rfl
  | setting s =>
    have opens : IsWord s.keyword.name := isWord_opening (.setting s)
    rw [text, opens.bondPatterns_append, bondPatterns_word s.isWord_value.noDate]
    rfl

theorem isOpenArray_text : isOpenArray d.bonded.text = false := by
  have opens := d.isWord_opening.isOpenArray_append
  have closes : isOpenArray d.closing = false := isOpenArray_of_lacks d.isWord_closing.noArray
  cases d with
  | declared a =>
    exact (opens _).trans (a.type.isOpenArray (endsWord_space _)
      ((isOpenArray_blank isBlank_space _).trans closes))
  | setting s => exact (opens _).trans closes

theorem spaced_text : Spaced d.bonded.text := by
  have opens : Spaced d.opening := .word d.isWord_opening.nonempty d.isWord_opening.unblank
  have closes : Spaced d.closing := .word d.isWord_closing.nonempty d.isWord_closing.unblank
  cases d with
  | declared a => exact opens.append (a.type.spaced.append closes)
  | setting s => exact opens.append closes

/-- A declaration is a logical line of its own. -/
theorem gather_text (rest : List Text) :
    gather none (d.text :: rest) = d.bonded.text :: gather none rest :=
  gather_spaced d.isSkippable_text d.bondPatterns_text d.isOpenArray_text d.spaced_text

/-- The tokens of a declaration. -/
def tokens : Declaration → List Token
  | .declared a =>
    [⟨a.name.text, .attribute⟩, ⟨a.type.text, a.type.kind⟩, ⟨a.delimiter.text, .delimiter⟩]
  | .setting s => [⟨s.keyword.name, .command⟩, ⟨s.value, s.kind⟩]

/-- The tokens of the line of a declaration are its parts with their classes. -/
theorem pieceTokens_text : pieceTokens d.bonded.text = d.bonded.tokens := by
  cases d with
  | declared a =>
    have parts : (bonded (.declared a)).text = join " " [a.name.text, a.type.bonded.text,
        a.delimiter.text] := by
      simp [text, bonded, AttributeLine.bonded, join, List.intercalate, List.intersperse]
    have whole : ∀ p ∈ [a.name.text, a.type.bonded.text, a.delimiter.text], IsPiece p := by
      simp [isPiece_of_isWord a.name.isWord, a.type.isPiece, isPiece_of_isWord a.delimiter.isWord]
    rw [pieceTokens, parts, pieces_join whole]
    simp [classify, tokens, bonded, AttributeLine.bonded, a.name.classOf, a.type.classOf,
      a.delimiter.classOf]
  | setting s =>
    have parts : (bonded (.setting s)).text = join " " [s.keyword.name, s.value] := by
      simp [text, bonded, join, List.intercalate, List.intersperse]
    have opens : IsPiece s.keyword.name := isPiece_of_isWord (isWord_opening (.setting s))
    have whole : ∀ p ∈ [s.keyword.name, s.value], IsPiece p := by
      simp [opens, isPiece_of_isWord s.isWord_value]
    have command : classOf s.keyword.name true = .command := by
      rw [classOf_of_lookup (lookupIgnoringCase?_name s.keyword)]
      cases s <;> rfl
    rw [pieceTokens, parts, pieces_join whole]
    simp [classify, tokens, bonded, command, s.classOf_value]

end Declaration

/-- The declarations of a description are found again, with their date patterns bonded. -/
theorem declarationLines_eq {declarations : List Declaration} (nonempty : declarations ≠ []) :
    ∃ tokens, tokens? (declarations.map Declaration.text) = some tokens
      ∧ declarationLines tokens = declarations.map fun d => d.bonded.tokens := by
  have logical : ∀ ds : List Declaration,
      logicalLines (ds.map Declaration.text) = ds.map fun d => d.bonded.text := by
    intro ds
    induction ds with
    | nil => rfl
    | cons d ds ih =>
      rw [List.map_cons, logicalLines, d.gather_text, List.map_cons]
      exact congrArg _ ih
  refine ⟨(declarations.map fun d => d.bonded.text).flatMap lineTokens, ?_, ?_⟩
  · rw [tokens?, logical]
    obtain ⟨d, rest, rfl⟩ := List.exists_cons_of_ne_nil nonempty
    rfl
  · have lines : (declarations.map fun d => d.bonded.text).map pieceTokens
        = declarations.map fun d => d.bonded.tokens := by
      rw [List.map_map]
      exact List.map_congr_left fun d _ => d.pieceTokens_text
    rw [declarationLines_flatMap_lineTokens, lines, List.filter_eq_self]
    intro line mem
    obtain ⟨d, _, rfl⟩ := List.mem_map.mp mem
    cases d <;> rfl

end TrajectoryFormat.Written
