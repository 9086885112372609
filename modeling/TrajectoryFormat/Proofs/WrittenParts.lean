import TrajectoryFormat.Proofs.LineLists
import TrajectoryFormat.Proofs.ReservedWords

/-!
# Parts of written descriptions

The words of a written description have the classes that their parts have: a reserved word that of
its kind, in whatever case, a name that of attributes where it is first, a delimiter that of
delimiters. A type is one piece once its date patterns are bonded, and it is bonded where its text
is.
-/

namespace TrajectoryFormat.Written

open Description Text

/-! ## Names -/

namespace Name

variable (n : Name)

theorem ne_nil : n.text ≠ [] := by
  intro empty
  have identifier := n.identifier
  rw [empty] at identifier
  cases identifier

theorem letters : ∀ c ∈ n.text, continuesIdentifier c = true := by
  have identifier := n.identifier
  unfold isIdentifier at identifier
  split at identifier
  · cases identifier
  · next c rest written =>
    rw [Bool.and_eq_true, List.all_eq_true] at identifier
    rw [written, List.forall_mem_cons]
    refine ⟨?_, identifier.2⟩
    have opens := identifier.1
    simp only [opensIdentifier, Bool.or_eq_true] at opens
    simp only [continuesIdentifier, Char.isAlphanum, Bool.or_eq_true]
    exact opens.imp_left .inl

theorem isWord : IsWord n.text := isWord_of_continuesIdentifier n.ne_nil n.letters

theorem classOf : classOf n.text true = .attribute := by
  rw [classOf_of_isWord n.isWord (isMark_of_continuesIdentifier n.letters)]
  have free := n.free
  cases known : Keyword.lookupIgnoringCase? n.text with
  | none => rfl
  | some k => simpa [known] using free

end Name

/-! ## Delimiters -/

theorem facts_of_isPunctuation {c : Char} (punctuation : isPunctuation c = true) :
    IsWord [c] ∧ isMark [c] = true ∧ Text.isWord c = false := by
  have ascii : c.toNat < 128 := by
    simp only [isPunctuation, Bool.and_eq_true, decide_eq_true_eq, Char.le_def,
      UInt32.le_iff_toNat_le]
      at punctuation
    exact Nat.lt_of_le_of_lt punctuation.1.1.2 (by decide)
  rw [Text.isWord, isMark_of_ascii ascii]
  revert punctuation
  exact forall_ascii (p := fun c => isPunctuation c = true → IsWord [c] ∧ isMark [c] = true
    ∧ (isAlphabetic c || false || isDecimalDigit c || isConnector c || isJoiner c) = false)
    (by decide +kernel) c ascii

/-- A delimiter as it may be written: a mark of ASCII punctuation, or a word for a delimiter in
whatever case. -/
inductive IsDelimiter : Text → Prop
  | mark {c : Char} (punctuation : isPunctuation c = true) : IsDelimiter [c]
  | word {d : Text} {k : Keyword} (listed : k ∈ [.lineBreak, .lineSpace, .endOfFile])
      (spelled : sameIgnoringCase k.name d = true) : IsDelimiter d

namespace IsDelimiter

variable {d : Text}

theorem kind_of_listed {k : Keyword} (listed : k ∈ [.lineBreak, .lineSpace, .endOfFile]) :
    k.lexicalClass = .delimiter := by
  revert k
  decide

theorem isWord (h : IsDelimiter d) : IsWord d := by
  cases h with
  | mark punctuation => exact (facts_of_isPunctuation punctuation).1
  | word _ spelled => exact isWord_of_lookup (lookupIgnoringCase?_eq_some_iff.mpr spelled)

theorem classOf (h : IsDelimiter d) (first : Bool) : classOf d first = .delimiter := by
  cases h with
  | mark punctuation =>
    obtain ⟨word, mark, _⟩ := facts_of_isPunctuation punctuation
    exact classOf_of_isMark word mark first
  | word listed spelled =>
    exact (classOf_of_lookup (lookupIgnoringCase?_eq_some_iff.mpr spelled) first).trans
      (kind_of_listed listed)

theorem describes (h : IsDelimiter d) : Pattern.Describes delimiterForm d := by
  cases h with
  | mark punctuation =>
    exact .left (.one (by simp [CharClass.holds, (facts_of_isPunctuation punctuation).2.2]))
  | word listed spelled =>
    have spelledOut := Pattern.describes_spelled_of_sameIgnoringCase spelled
    simp only [List.mem_cons, List.not_mem_nil, or_false] at listed
    rcases listed with rfl | rfl | rfl
    · exact .right (.left spelledOut)
    · exact .right (.right (.left spelledOut))
    · exact .right (.right (.right spelledOut))

/-- A delimiter holds no parentheses, or it is one. -/
theorem flat_or_parenthesis (h : IsDelimiter d) :
    (∀ c ∈ d, c ≠ '(' ∧ c ≠ ')') ∨ ∃ c, (c = '(' ∨ c = ')') ∧ d = [c] := by
  cases h with
  | @mark c punctuation =>
    by_cases parenthesis : c = '(' ∨ c = ')'
    · exact .inr ⟨c, parenthesis, rfl⟩
    · exact .inl (List.forall_mem_singleton.mpr (not_or.mp parenthesis))
  | word _ spelled => exact .inl (flat_of_lookup (lookupIgnoringCase?_eq_some_iff.mpr spelled))

end IsDelimiter

namespace Delimiter

variable (d : Delimiter)

theorem isDelimiter : IsDelimiter d.text := by
  cases d with
  | mark c punctuation => exact .mark punctuation
  | lineBreak => exact .word (k := .lineBreak) (by decide) (sameIgnoringCase_self _)
  | lineSpace => exact .word (k := .lineSpace) (by decide) (sameIgnoringCase_self _)
  | endOfFile => exact .word (k := .endOfFile) (by decide) (sameIgnoringCase_self _)

theorem isWord : IsWord d.text := d.isDelimiter.isWord

theorem classOf (first : Bool) : classOf d.text first = .delimiter := d.isDelimiter.classOf first

theorem resolveDelimiter_text : resolveDelimiter d.text = d.meaning := by
  cases d with
  | mark c punctuation => rw [resolveDelimiter, text, lookup?_singleton, meaning]
  | lineBreak => decide
  | lineSpace => decide
  | endOfFile => decide

theorem ofValue_text : RecordDelimiter.ofValue d.text = d.ofRecords := by
  cases d with
  | mark c punctuation => rw [RecordDelimiter.ofValue, text, lookup?_singleton, ofRecords]
  | lineBreak => decide
  | lineSpace => decide
  | endOfFile => decide

end Delimiter

/-! ## Types of values -/

namespace ValueType

variable (t : ValueType)

/-- A type as it stands in a logical line holds neither blanks nor parentheses. -/
theorem plain : ∀ c ∈ t.bonded.text, isBlank c = false ∧ c ≠ '(' ∧ c ≠ ')' := by
  cases t with
  | basic word k spelled =>
    intro c mem
    exact ⟨(isWord_of_lookup spelled).unblank c mem, flat_of_lookup spelled c mem⟩
  | date pattern =>
    refine plain_dateText fun c mem => ⟨?_, ?_, ?_⟩
    · obtain ⟨b, _, rfl⟩ := List.mem_map.mp mem
      exact isBlank_bonded b
    · rintro rfl
      exact pattern.bonded.plain _ (by decide) mem
    · rintro rfl
      exact pattern.bonded.plain _ (by decide) mem

theorem ne_nil : t.bonded.text ≠ [] := by
  cases t with
  | basic word k spelled => exact ne_nil_of_lookup spelled
  | date pattern => simp [bonded, text, dateText, patternOpening]

theorem noArray : afterIgnoringCase? arrayOpening t.bonded.text = none :=
  lacks_of_notMem (a := '(') (by decide) fun c mem => toLower_ne rfl (t.plain c mem).2.1

theorem isPiece : IsPiece t.bonded.text := by
  cases t with
  | basic word k spelled => exact isPiece_of_isWord (isWord_of_lookup spelled)
  | date pattern =>
    exact isPiece_dateText (pattern.bonded.plain _ (by decide)) pattern.bonded.noBracket

theorem classOf (first : Bool) : classOf t.bonded.text first = t.kind := by
  cases t with
  | basic word k spelled => exact classOf_of_lookup spelled first
  | date pattern => exact classOf_dateText _ first

/-- The date patterns of a type are bonded in its text. -/
theorem bondPatterns {after : Text} (ends : endsWord after = true) :
    bondPatterns (t.text ++ after) = t.bonded.text ++ bondPatterns after := by
  cases t with
  | basic word k spelled => exact bondPatterns_append (isWord_of_lookup spelled).noDate ends
  | date pattern =>
    exact bondPatterns_date after (pattern.plain _ (by decide)) (pattern.plain _ (by decide))

theorem describes : Pattern.Describes typeForm t.bonded.text := by
  cases t with
  | basic word k spelled =>
    exact .right (.right (describes_word (ne_nil_of_lookup spelled) fun c mem =>
      (wordChar_of_continuesIdentifier (letters_of_lookup spelled c mem)).1))
  | date pattern =>
    have written : pattern.bonded.text ≠ [] := by
      intro empty
      have compiles := pattern.bonded.compiles
      rw [empty] at compiles
      exact absurd compiles (by decide)
    exact .left (describes_date written (pattern.bonded.plain _ (by decide)))

/-- A date type has a pattern that compiles. -/
theorem exists_datePattern (date : t.kind = .dateType) :
    ∃ p, datePattern t.bonded.text = .ok p := by
  cases t with
  | basic word k spelled value =>
    rcases value with value | value <;> exact absurd (value.symm.trans date) (by decide)
  | date pattern =>
    exact (exists_datePattern_dateText (pattern.bonded.plain _ (by decide))).mpr
      pattern.bonded.compiles

end ValueType

end TrajectoryFormat.Written
