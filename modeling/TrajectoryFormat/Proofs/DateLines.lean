import TrajectoryFormat.Proofs.BondedPattern
import TrajectoryFormat.Proofs.PlainArrays

/-!
# Lines that declare dates

A date pattern may hold blanks, brackets and quoted text. The line that declares it is cut into its
name, its type and its delimiter all the same: the blanks of the pattern are bonded before the line
is cut, the type goes up to the quote that a bracket follows, and the pattern that is compiled has a
space for every blank that was written.
-/

namespace TrajectoryFormat.Written

open Description Text

/-- A pattern that a line can hold between quotes. -/
structure LinePattern where
  text : Text
  unquoted : '"' ∉ text
  oneLine : '\n' ∉ text
  noBond : dateBond ∉ text
  noBracket : text.head? ≠ some ']'
  noArray : afterIgnoringCase? arrayOpening text = none

/-- One character that is neither a letter or numeral nor the low line, and no blank. -/
structure Mark where
  char : Char
  noLetter : isAlphanumeric char = false
  noLowLine : char ≠ '_'
  unblank : isBlank char = false

/-- The line that declares an attribute with a date pattern. -/
def dateLine (name : PlainWord) (pattern : LinePattern) (mark : Mark) : Text :=
  name.text ++ ' ' :: (dateText pattern.text ++ ' ' :: [mark.char])

/-! ## Delimiters -/

/-- One character is too short for a longer mark. -/
theorem lacks_singleton {mark : Text} (long : 1 < mark.length) (c : Char) :
    afterIgnoringCase? mark [c] = none := by
  have nonempty : mark ≠ [] := List.ne_nil_of_length_pos (Nat.lt_trans Nat.zero_lt_one long)
  have closed : ¬ opensWith mark [c] = true := by
    intro opens
    obtain ⟨m, t, same, split⟩ := opensWith_iff.mp opens
    have length : m.length = mark.length := by simpa [lower] using congrArg List.length same
    have whole := congrArg List.length split
    rw [List.length_append, List.length_singleton] at whole
    omega
  rw [afterIgnoringCase?, if_neg closed, afterIgnoringCase?, if_neg (by simpa using nonempty)]

namespace Mark

variable (m : Mark)

theorem isWord : IsWord [m.char] where
  nonempty := List.cons_ne_nil _ _
  unblank := List.forall_mem_singleton.mpr m.unblank
  noArray := lacks_singleton (by decide) m.char
  noDate := lacks_singleton (by decide) m.char

theorem isMark : isMark [m.char] = true := by
  rw [Description.isMark, m.noLetter, beq_eq_false_iff_ne.mpr m.noLowLine]
  rfl

end Mark

/-! ## Bonded patterns -/

section Bonding
variable {mark s : Text} (noBond : dateBond ∉ lower mark)

include noBond

/-- Bonding the blanks of a text does not make it open with a mark that has no bond. -/
theorem opensWith_of_map_bonded (opens : opensWith mark (s.map bonded) = true) :
    opensWith mark s = true := by
  obtain ⟨m, t, same, split⟩ := opensWith_iff.mp opens
  obtain ⟨u, v, rfl, rfl, rfl⟩ := List.map_eq_append_iff.mp split
  have kept : ∀ c ∈ u, bonded c = c := by
    intro c mem
    apply if_neg
    intro blank
    have bond : bonded c = dateBond := if_pos blank
    have inside : (bonded c).toLower ∈ lower mark :=
      same ▸ List.mem_map_of_mem (List.mem_map_of_mem mem)
    rw [bond] at inside
    exact noBond inside
  rw [List.map_congr_left kept, List.map_id'] at same
  exact opensWith_iff.mpr ⟨u, v, same, rfl⟩

theorem lacks_map_bonded (nonempty : mark ≠ []) (lacks : afterIgnoringCase? mark s = none) :
    afterIgnoringCase? mark (s.map bonded) = none := by
  induction s with
  | nil => exact lacks
  | cons c s ih =>
    rw [List.map_cons, afterIgnoringCase?, if_neg, ih (lacks_tail lacks)]
    intro opens
    have before : opensWith mark (c :: s) = true := opensWith_of_map_bonded noBond opens
    rw [opensWith_of_lacks nonempty lacks] at before
    cases before

end Bonding

namespace LinePattern

variable (p : LinePattern)

/-- The pattern as it stands in the logical line. -/
def bonded : Text := p.text.map Description.bonded

theorem notMem_bonded {c : Char} (noBond : c ≠ dateBond) (absent : c ∉ p.text) : c ∉ p.bonded := by
  intro inside
  obtain ⟨b, mem, same⟩ := List.mem_map.mp inside
  exact absent (eq_of_bonded_eq same noBond ▸ mem)

theorem isBlank_of_mem_bonded : ∀ c ∈ p.bonded, isBlank c = false := by
  intro c mem
  obtain ⟨b, _, rfl⟩ := List.mem_map.mp mem
  exact isBlank_bonded b

theorem bonded_noBracket : p.bonded.head? ≠ some ']' := by
  intro first
  rw [bonded, List.head?_map, Option.map_eq_some_iff] at first
  obtain ⟨b, here, same⟩ := first
  exact p.noBracket (eq_of_bonded_eq same (by decide) ▸ here)

/-- A date type has no blanks once its pattern is bonded. -/
theorem isBlank_of_mem_dateText : ∀ c ∈ dateText p.bonded, isBlank c = false := by
  have solid : ∀ c ∈ patternOpening ++ patternClosing, isBlank c = false :=
    solid_of_graphic (by decide)
  rw [List.forall_mem_append] at solid
  rw [dateText, List.forall_mem_append, List.forall_mem_append]
  exact ⟨solid.1, p.isBlank_of_mem_bonded, solid.2⟩

/-- No array is opened in a date type: none is in the pattern, and the quotes stop those that would
reach over. -/
theorem dateText_noArray : afterIgnoringCase? arrayOpening (dateText p.bonded) = none := by
  have quote (s : Text) : Stops arrayOpening ('"' :: s) := by
    intro c first
    cases first
    decide
  have inside : afterIgnoringCase? arrayOpening p.bonded = none :=
    lacks_map_bonded (by decide) (by decide) p.noArray
  have opening : patternOpening = dateOpening ++ ['"'] := rfl
  have closing : patternClosing = '"' :: [']'] := rfl
  rw [dateText, opening, closing, List.append_assoc, List.singleton_append,
    afterIgnoringCase?_append_of_stops (by decide) (by decide) (quote _),
    afterIgnoringCase?_cons_of_stops (by decide) (quote _),
    afterIgnoringCase?_append_of_stops (by decide) inside (quote _)]
  decide

end LinePattern

/-! ## The line -/

section DateLine
variable (name : PlainWord) (pattern : LinePattern) (mark : Mark)

/-- The line with the blanks of its pattern bonded. -/
def bondedDateLine : Text := name.text ++ ' ' :: (dateText pattern.bonded ++ ' ' :: [mark.char])

theorem bondPatterns_dateLine :
    bondPatterns (dateLine name pattern mark) = bondedDateLine name pattern mark := by
  rw [dateLine, name.isWord.bondPatterns_append,
    bondPatterns_date _ pattern.unquoted pattern.oneLine, bondPatterns_space,
    bondPatterns_word mark.isWord.noDate]
  rfl

theorem isOpenArray_dateLine : isOpenArray (bondedDateLine name pattern mark) = false := by
  rw [bondedDateLine, name.isWord.isOpenArray_append,
    isOpenArray_append pattern.dateText_noArray (endsWord_space _), isOpenArray_blank isBlank_space]
  exact isOpenArray_of_lacks mark.isWord.noArray

theorem spaced_dateLine : Spaced (bondedDateLine name pattern mark) := by
  have named : Spaced name.text := .word name.nonempty name.isWord.unblank
  have dated : Spaced (dateText pattern.bonded) :=
    .word (by simp [dateText, patternOpening]) pattern.isBlank_of_mem_dateText
  exact named.append (dated.append (.word mark.isWord.nonempty mark.isWord.unblank))

theorem logicalLines_dateLine :
    logicalLines [dateLine name pattern mark] = [bondedDateLine name pattern mark] :=
  gather_spaced (isSkippable_letters name.nonempty name.letters _)
    (bondPatterns_dateLine name pattern mark)
    (isOpenArray_dateLine name pattern mark) (spaced_dateLine name pattern mark)

theorem pieces_dateLine :
    pieces (bondedDateLine name pattern mark)
      = [name.text, dateText pattern.bonded, [mark.char]] := by
  have parts : bondedDateLine name pattern mark
      = join " " [name.text, dateText pattern.bonded, [mark.char]] := by
    simp [bondedDateLine, join, List.intercalate, List.intersperse]
  have date : IsPiece (dateText pattern.bonded) :=
    isPiece_dateText (pattern.notMem_bonded (by decide) pattern.unquoted) pattern.bonded_noBracket
  rw [parts, pieces_join]
  simp [isPiece_of_isWord name.isWord, date, isPiece_of_isWord mark.isWord]

/-- A line that declares a date has three tokens: its name, a date type without blanks, and its
delimiter. What is read of the date type is what the pattern compiles to with a space for every
blank, and the pattern says so. -/
theorem dateLine_lexed :
    tokens? [dateLine name pattern mark]
      = some [classify name.text true, ⟨dateText pattern.bonded, .dateType⟩,
        ⟨[mark.char], .delimiter⟩, Token.endOfLine]
      ∧ (∀ c ∈ dateText pattern.bonded, isBlank c = false)
      ∧ datePattern (dateText pattern.bonded)
        = (DatePattern.compile (pattern.text.map DatePattern.spaced)).mapError
          (fun cause => .date (dateText pattern.bonded) (some cause))
      ∧ ∀ p, DatePattern.compile (pattern.text.map DatePattern.spaced) = .ok p →
          p.source = pattern.text.map DatePattern.spaced := by
  refine ⟨?_, pattern.isBlank_of_mem_dateText, ?_, ?_⟩
  · have date : classify (dateText pattern.bonded) false
        = ⟨dateText pattern.bonded, .dateType⟩ := by
      rw [classify, classOf_dateText]
    have delimiter : classify [mark.char] false = ⟨[mark.char], .delimiter⟩ := by
      rw [classify, classOf_of_isMark mark.isWord mark.isMark]
    rw [tokens?, logicalLines_dateLine]
    simp [lineTokens, pieces_dateLine, date, delimiter]
  · rw [datePattern_dateText (pattern.notMem_bonded (by decide) pattern.oneLine),
      LinePattern.bonded, DatePattern.compile_bonded pattern.noBond]
  · intro p compiled
    rw [DatePattern.source_of_compile compiled, DatePattern.map_unbonded_spaced pattern.noBond]

end DateLine

private def watchName : PlainWord := ⟨"seen_at", by decide, List.all_iff_forall_prop.mp (by decide)⟩

/-- A tab, two spaces in a row and brackets, and a bracket in a quoted text. -/
private def watchPattern : LinePattern :=
  ⟨"yyyy  [MM]\tdd 'at]'", by decide, by decide, by decide, by decide, by decide⟩

private def watchMark : Mark :=
  ⟨'#', by decide +kernel, by decide, isBlank_of_graphic (by decide) (by decide)⟩

theorem dateLine_lexed_watch :
    tokens? ["seen_at DATETIME[\"yyyy  [MM]\tdd 'at]'\"] #"] =
        some [⟨"seen_at", .attribute⟩, ⟨"DATETIME[\"yyyy\x1f\x1f[MM]\x1fdd\x1f'at]'\"]", .dateType⟩,
          ⟨"#", .delimiter⟩, Token.endOfLine]
      ∧ datePattern "DATETIME[\"yyyy\x1f\x1f[MM]\x1fdd\x1f'at]'\"]" = .ok ⟨"yyyy  [MM] dd 'at]'",
          [.field .year, .literal ' ', .literal ' ', .literal '[', .field .month, .literal ']',
            .literal ' ', .field .day, .literal ' ', .literal 'a', .literal 't',
            .literal ']']⟩ := by
  have bonded : dateText watchPattern.bonded
      = "DATETIME[\"yyyy\x1f\x1f[MM]\x1fdd\x1f'at]'\"]".toList := by
    decide +kernel
  have spaced : watchPattern.text.map DatePattern.spaced = "yyyy  [MM] dd 'at]'".toList := by
    decide +kernel
  obtain ⟨lexed, _, read, _⟩ := dateLine_lexed watchName watchPattern watchMark
  rw [bonded] at lexed read
  rw [spaced] at read
  exact ⟨lexed.trans (by decide +kernel), read.trans (by decide +kernel)⟩

end TrajectoryFormat.Written
