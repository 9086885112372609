import TrajectoryFormat.Proofs.AcceptedDescription
import TrajectoryFormat.Proofs.ArrayTriples
import TrajectoryFormat.Proofs.LogicalLines
import TrajectoryFormat.Proofs.WrittenParts

/-!
# Arrays of plain words

An array is written of words of ASCII letters, digits and low lines, of quoted date patterns for
types, and of delimiters, parentheses among them. Whatever the words mean, the line that declares
the array is cut into its name, the array and its delimiter, and the array into the words that it
was written of. The array passes its check just where each name is free, and each type is one that
its name allows.
-/

namespace TrajectoryFormat.Written

open Checked Description Text

/-! ## Plain words -/

/-- A word of ASCII letters, digits and low lines. -/
structure PlainWord where
  text : Text
  nonempty : text ≠ []
  letters : ∀ c ∈ text, continuesIdentifier c = true

namespace PlainWord

variable (w : PlainWord)

theorem isWord : IsWord w.text := isWord_of_continuesIdentifier w.nonempty w.letters

theorem flat : ∀ c ∈ w.text, c ≠ '(' ∧ c ≠ ')' :=
  fun c mem => flat_of_continuesIdentifier (w.letters c mem)

theorem classOf (first : Bool) :
    classOf w.text first = match Keyword.lookupIgnoringCase? w.text with
      | some k => k.lexicalClass
      | none => if first then .attribute else .text :=
  classOf_of_isWord w.isWord (isMark_of_continuesIdentifier w.letters) first

theorem describes : Pattern.Describes wordForm w.text :=
  describes_word w.nonempty fun c mem => (wordChar_of_continuesIdentifier (w.letters c mem)).1

end PlainWord

/-- A type as a plain word, or as a date with a pattern on one line that can be quoted. -/
inductive PlainType where
  | word (w : PlainWord)
  | date (pattern : Text) (unquoted : '"' ∉ pattern) (oneLine : '\n' ∉ pattern)
    (noBracket : pattern.head? ≠ some ']')

namespace PlainType

def text : PlainType → Text
  | word w => w.text
  | date pattern _ _ _ => dateText pattern

/-- A date pattern is solid that holds neither blanks nor parentheses. -/
def IsSolid : PlainType → Prop
  | word _ => True
  | date pattern _ _ _ => ∀ c ∈ pattern, isBlank c = false ∧ c ≠ '(' ∧ c ≠ ')'

variable (t : PlainType)

theorem isPiece : IsPiece t.text := by
  cases t with
  | word w => exact isPiece_of_isWord w.isWord
  | date pattern unquoted _ noBracket => exact isPiece_dateText unquoted noBracket

theorem plain (solid : t.IsSolid) : ∀ c ∈ t.text, isBlank c = false ∧ c ≠ '(' ∧ c ≠ ')' := by
  cases t with
  | word w => exact fun c mem => ⟨w.isWord.unblank c mem, w.flat c mem⟩
  | date pattern => exact plain_dateText solid

theorem bondPatterns (solid : t.IsSolid) {after : Text} (ends : endsWord after = true) :
    bondPatterns (t.text ++ after) = t.text ++ bondPatterns after := by
  cases t with
  | word w => exact bondPatterns_append w.isWord.noDate ends
  | date pattern unquoted oneLine =>
    have kept : pattern.map bonded = pattern := by
      refine (List.map_congr_left fun c mem => ?_).trans (List.map_id pattern)
      exact if_neg (Bool.eq_false_iff.mp (solid c mem).1)
    rw [text, bondPatterns_date after unquoted oneLine, kept]

end PlainType

/-! ## Plain fields -/

/-- A name, a type and a delimiter, whatever they mean. -/
structure PlainField where
  name : PlainWord
  type : PlainType
  delimiter : Text
  delimited : IsDelimiter delimiter

namespace PlainField

variable (f : PlainField)

def triple : Triple := ⟨f.name.text, f.type.text, f.delimiter⟩

theorem whole : f.triple.Whole where
  pieces := Triple.forall_mem_words.mpr
    ⟨isPiece_of_isWord f.name.isWord, f.type.isPiece, isPiece_of_isWord f.delimited.isWord⟩
  ends c last := f.delimited.isWord.unblank c (List.mem_of_getLast? last)

theorem solid (solid : f.type.IsSolid) : f.triple.Solid where
  nonempty := Triple.forall_mem_words.mpr
    ⟨f.name.nonempty, f.type.isPiece.ne_nil, f.delimited.isWord.nonempty⟩
  unblank := Triple.forall_mem_words.mpr
    ⟨f.name.isWord.unblank, fun c mem => (f.type.plain solid c mem).1, f.delimited.isWord.unblank⟩
  name := f.name.flat
  type c mem := (f.type.plain solid c mem).2
  delimiter := f.delimited.flat_or_parenthesis

theorem bonds (solid : f.type.IsSolid) : Triple.Bonds f.triple f.triple :=
  Triple.bonds_of_type f.name.isWord f.delimited.isWord fun _ ends => f.type.bondPatterns solid ends

/-- An array of fields. -/
def arrayText (fields : List PlainField) : Text := Triple.arrayText (fields.map triple)

end PlainField

/-! ## Lines that declare arrays -/

/-- The line that declares an array. -/
def arrayLine (name : PlainWord) (fields : List PlainField) (delimiter : Text) : Text :=
  name.text ++ ' ' :: (PlainField.arrayText fields ++ ' ' :: delimiter)

section ArrayLines
variable {name : PlainWord} {fields : List PlainField} {delimiter : Text}

theorem triples_ne_nil (nonempty : fields ≠ []) : fields.map PlainField.triple ≠ [] := by
  simpa using nonempty

theorem solid_triples (solid : ∀ f ∈ fields, f.type.IsSolid) :
    ∀ t ∈ fields.map PlainField.triple, t.Solid :=
  List.forall_mem_map.mpr fun f mem => f.solid (solid f mem)

theorem whole_triples : ∀ t ∈ fields.map PlainField.triple, t.Whole :=
  List.forall_mem_map.mpr fun f _ => f.whole

theorem bondPatterns_arrayLine (solid : ∀ f ∈ fields, f.type.IsSolid)
    (delimited : IsDelimiter delimiter) :
    bondPatterns (arrayLine name fields delimiter) = arrayLine name fields delimiter := by
  have array := Triple.bondPatterns_arrayText (fun f mem => PlainField.bonds f (solid f mem))
    (' ' :: delimiter)
  rw [arrayLine, name.isWord.bondPatterns_append, PlainField.arrayText, array, bondPatterns_space,
    bondPatterns_word delimited.isWord.noDate]

theorem spaced_arrayLine (nonempty : fields ≠ []) (solid : ∀ f ∈ fields, f.type.IsSolid)
    (delimited : IsDelimiter delimiter) : Spaced (arrayLine name fields delimiter) := by
  have array : Spaced (PlainField.arrayText fields) :=
    Triple.spaced_arrayText (triples_ne_nil nonempty) (solid_triples solid)
  have named : Spaced name.text := .word name.nonempty name.isWord.unblank
  exact named.append (array.append (.word delimited.isWord.nonempty delimited.isWord.unblank))

/-- The array of a line is closed before the delimiter, a parenthesis too. -/
theorem isOpenArray_arrayLine (solid : ∀ f ∈ fields, f.type.IsSolid) :
    isOpenArray (arrayLine name fields delimiter) = false :=
  (name.isWord.isOpenArray_append _).trans (Triple.isOpenArray_arrayText (solid_triples solid) _)

/-- The line is a logical line of its own, whatever follows. -/
theorem gather_arrayLine (nonempty : fields ≠ []) (solid : ∀ f ∈ fields, f.type.IsSolid)
    (delimited : IsDelimiter delimiter) (rest : List Text) :
    gather none (arrayLine name fields delimiter :: rest)
      = arrayLine name fields delimiter :: gather none rest :=
  gather_spaced (isSkippable_letters name.nonempty name.letters _)
    (bondPatterns_arrayLine solid delimited)
    (isOpenArray_arrayLine solid) (spaced_arrayLine nonempty solid delimited)

theorem pieces_arrayLine (solid : ∀ f ∈ fields, f.type.IsSolid)
    (delimited : IsDelimiter delimiter) :
    pieces (arrayLine name fields delimiter) = [name.text, PlainField.arrayText fields,
      delimiter] := by
  have parts : arrayLine name fields delimiter = join " " [name.text, PlainField.arrayText fields,
      delimiter] := by
    simp [arrayLine, join, List.intercalate, List.intersperse]
  have array : IsPiece (PlainField.arrayText fields) :=
    Triple.isPiece_arrayText (solid_triples solid)
  rw [parts, pieces_join]
  simp [isPiece_of_isWord name.isWord, array, isPiece_of_isWord delimited.isWord]

end ArrayLines

/-- A line that declares an array is its own logical line and has three tokens: its name, the array
and its delimiter. The tokens inside the array are the words that it was written of, so it has the
attributes that the words declare. -/
theorem arrayLine_lexed (name : PlainWord) {fields : List PlainField} {delimiter : Text}
    (nonempty : fields ≠ []) (solid : ∀ f ∈ fields, f.type.IsSolid)
    (delimited : IsDelimiter delimiter) :
    logicalLines [arrayLine name fields delimiter] = [arrayLine name fields delimiter]
      ∧ tokens? [arrayLine name fields delimiter] = some [classify name.text true,
          classify (PlainField.arrayText fields) false, classify delimiter false, Token.endOfLine]
      ∧ (arrayTokens (PlainField.arrayText fields)).map Token.value
          = fields.flatMap (fun f => [f.name.text, f.type.text, f.delimiter])
      ∧ ArrayFormat.ofDeclaration (PlainField.arrayText fields) = ⟨PlainField.arrayText fields,
          fields.map fun f => Attribute.declared f.name.text f.type.text f.delimiter⟩ := by
  have logical : logicalLines [arrayLine name fields delimiter]
      = [arrayLine name fields delimiter] :=
    gather_arrayLine nonempty solid delimited []
  refine ⟨logical, ?_, ?_, ?_⟩
  · rw [tokens?, logical]
    simp [lineTokens, pieces_arrayLine solid delimited]
  · rw [PlainField.arrayText, Triple.arrayTokens_arrayText (triples_ne_nil nonempty) whole_triples,
      List.flatMap_map, List.map_flatMap]
    rfl
  · rw [PlainField.arrayText, Triple.ofDeclaration_arrayText (triples_ne_nil nonempty)
      whole_triples, List.map_map]
    rfl

def surveyName : PlainWord := ⟨"_COORDINATES", by decide, List.all_iff_forall_prop.mp (by decide)⟩

/-- Fields with parentheses for delimiters, one of them with a date pattern, and words in other
cases. -/
def surveyFields : List PlainField :=
  [⟨⟨"_X", by decide, List.all_iff_forall_prop.mp (by decide)⟩,
      .word ⟨"deltaDecimal", by decide, List.all_iff_forall_prop.mp (by decide)⟩, "(",
      .mark (by decide)⟩,
    ⟨⟨"_TIME", by decide, List.all_iff_forall_prop.mp (by decide)⟩,
      .date "yyyy-MM-dd'T'HH:mm" (by decide) (by decide) (by decide), ")", .mark (by decide)⟩,
    ⟨⟨"2nd_note", by decide, List.all_iff_forall_prop.mp (by decide)⟩,
      .word ⟨"String", by decide, List.all_iff_forall_prop.mp (by decide)⟩, "ln",
      .word (k := .lineBreak) (by decide) (by decide)⟩]

theorem arrayLine_lexed_survey :
    arrayLine surveyName surveyFields ")"
        = "_COORDINATES ARRAY(_X deltaDecimal ( _TIME DATETIME[\"yyyy-MM-dd'T'HH:mm\"] ) 2nd_note String ln ) )".toList
      ∧ logicalLines [arrayLine surveyName surveyFields ")"]
        = [arrayLine surveyName surveyFields ")"]
      ∧ tokens? [arrayLine surveyName surveyFields ")"] = some [⟨"_COORDINATES", .attribute⟩,
          ⟨PlainField.arrayText surveyFields, .arrayType⟩, ⟨")", .delimiter⟩, Token.endOfLine]
      ∧ (arrayTokens (PlainField.arrayText surveyFields)).map Token.value
        = ["_X", "deltaDecimal", "(", "_TIME", "DATETIME[\"yyyy-MM-dd'T'HH:mm\"]", ")",
          "2nd_note", "String", "ln"] := by
  have graphic : ∀ c ∈ ("yyyy-MM-dd'T'HH:mm" : Text), isBlank c = false :=
    solid_of_graphic (by decide)
  have flat : ∀ c ∈ ("yyyy-MM-dd'T'HH:mm" : Text), c ≠ '(' ∧ c ≠ ')' :=
    List.all_iff_forall_prop.mp (by decide)
  have solid : ∀ f ∈ surveyFields, f.type.IsSolid := by
    simp only [surveyFields, List.forall_mem_cons, List.not_mem_nil, false_implies,
      implies_true, and_true]
    exact ⟨trivial, fun c mem => ⟨graphic c mem, flat c mem⟩, trivial⟩
  have lexed := arrayLine_lexed surveyName (by decide) solid (.mark (c := ')') (by decide))
  exact ⟨by decide, lexed.1, lexed.2.1.trans (by decide +kernel), lexed.2.2.1⟩

end TrajectoryFormat.Written
