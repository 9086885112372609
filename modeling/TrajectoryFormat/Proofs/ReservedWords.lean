import TrajectoryFormat.Proofs.Words

/-!
# Classes of words

A reserved word is a word of letters, digits and low lines, and it has its class in whatever case it
is written. Digits are no reserved word, and neither is one character alone.
-/

namespace TrajectoryFormat.Description

open Text

/-! ## Spelling -/

/-- Letters, digits and low lines stand for no delimiter. -/
theorem isMark_of_continuesIdentifier {w : Text} (letters : ∀ c ∈ w, continuesIdentifier c = true) :
    isMark w = false := by
  unfold Description.isMark
  split
  · next c =>
    rw [(wordChar_of_continuesIdentifier (letters c (by simp))).2]
    rfl
  · rfl

/-- Reserved words are spelled in capitals and low lines. -/
theorem capital_of_name (k : Keyword) : ∀ c ∈ k.name, c.isUpper = true ∨ c = '_' := by
  have checked : Keyword.every.all (·.name.all fun c => c.isUpper || c == '_') = true := by
    decide +kernel
  intro c mem
  have letter := List.all_eq_true.mp (List.all_eq_true.mp checked k (Keyword.mem_every k)) c mem
  rwa [Bool.or_eq_true, beq_iff_eq] at letter

theorem lower_of_lookup {w : Text} {k : Keyword} (known : Keyword.lookupIgnoringCase? w = some k) :
    lower k.name = lower w :=
  sameIgnoringCase_iff.mp (by simpa using List.find?_some known)

/-- Each letter of a reserved word is one of its spelling but for its case. -/
theorem exists_letter_of_lookup {w : Text} {k : Keyword}
    (known : Keyword.lookupIgnoringCase? w = some k) {c : Char} (mem : c ∈ w) :
    ∃ a ∈ k.name, a.toLower = c.toLower := by
  have inside : c.toLower ∈ lower k.name := by
    rw [lower_of_lookup known, lower]
    exact List.mem_map_of_mem mem
  exact List.mem_map.mp inside

/-- A reserved word is made of letters, digits and low lines in whatever case. -/
theorem letters_of_lookup {w : Text} {k : Keyword}
    (known : Keyword.lookupIgnoringCase? w = some k) :
    ∀ c ∈ w, continuesIdentifier c = true := by
  intro c mem
  obtain ⟨a, here, lowered⟩ := exists_letter_of_lookup known mem
  rw [← continuesIdentifier_toLower, ← lowered, continuesIdentifier_toLower]
  rcases capital_of_name k a here with capital | rfl
  · exact continuesIdentifier_of_isAlpha (isAlpha_iff.mpr (.inl (isUpper_iff.mp capital)))
  · rfl

theorem flat_of_lookup {w : Text} {k : Keyword} (known : Keyword.lookupIgnoringCase? w = some k) :
    ∀ c ∈ w, c ≠ '(' ∧ c ≠ ')' :=
  fun c mem => flat_of_continuesIdentifier (letters_of_lookup known c mem)

theorem ne_nil_of_lookup {w : Text} {k : Keyword} (known : Keyword.lookupIgnoringCase? w = some k) :
    w ≠ [] := by
  rintro rfl
  have unknown : Keyword.lookupIgnoringCase? [] = none := by decide
  rw [unknown] at known
  cases known

theorem isWord_of_lookup {w : Text} {k : Keyword} (known : Keyword.lookupIgnoringCase? w = some k) :
    IsWord w :=
  isWord_of_continuesIdentifier (ne_nil_of_lookup known) (letters_of_lookup known)

theorem classOf_of_isWord {w : Text} (word : IsWord w) (noMark : isMark w = false) (first : Bool) :
    classOf w first = match Keyword.lookupIgnoringCase? w with
      | some k => k.lexicalClass
      | none => if first then .attribute else .text := by
  have array := opensWith_of_lacks (by decide) word.noArray
  have date := opensWith_of_lacks (by decide) word.noDate
  cases known : Keyword.lookupIgnoringCase? w <;> simp [classOf, array, date, noMark, known]

/-- A word of one mark is a delimiter. -/
theorem classOf_of_isMark {w : Text} (word : IsWord w) (mark : isMark w = true) (first : Bool) :
    classOf w first = .delimiter := by
  have array := opensWith_of_lacks (by decide) word.noArray
  have date := opensWith_of_lacks (by decide) word.noDate
  rw [classOf, array, date, mark, if_neg Bool.false_ne_true, if_neg Bool.false_ne_true, if_pos rfl]

theorem classOf_of_lookup {w : Text} {k : Keyword} (known : Keyword.lookupIgnoringCase? w = some k)
    (first : Bool) : classOf w first = k.lexicalClass := by
  rw [classOf_of_isWord (isWord_of_lookup known)
    (isMark_of_continuesIdentifier (letters_of_lookup known)), known]

/-- A word is found as the reserved word that it spells but for its case. -/
theorem lookupIgnoringCase?_eq_some_iff {w : Text} {k : Keyword} :
    Keyword.lookupIgnoringCase? w = some k ↔ sameIgnoringCase k.name w = true := by
  have capitals : ∀ k : Keyword, ∀ c ∈ k.name, c.isLower = false := by
    intro k c mem
    rcases capital_of_name k c mem with capital | rfl
    · rw [isUpper_iff] at capital
      rw [Bool.eq_false_iff, ne_eq, isLower_iff]
      omega
    · rfl
  constructor
  · exact fun known => sameIgnoringCase_iff.mpr (lower_of_lookup known)
  · intro spelled
    cases known : Keyword.lookupIgnoringCase? w with
    | none =>
      have unknown := List.find?_eq_none.mp known k (Keyword.mem_every k)
      exact absurd spelled unknown
    | some k' =>
      have noSmall : ∀ c ∈ k'.name ++ k.name, c.isLower = false :=
        List.forall_mem_append.mpr ⟨capitals k', capitals k⟩
      rw [Keyword.name_injective (eq_of_lower_eq noSmall
        ((lower_of_lookup known).trans (sameIgnoringCase_iff.mp spelled).symm))]

/-- A reserved word is found by its own spelling. -/
@[simp] theorem lookupIgnoringCase?_name (k : Keyword) :
    Keyword.lookupIgnoringCase? k.name = some k :=
  lookupIgnoringCase?_eq_some_iff.mpr (sameIgnoringCase_self k.name)

/-- No reserved word is one character. -/
@[simp] theorem lookup?_singleton (c : Char) : Keyword.lookup? [c] = none := by
  have longer : ∀ k : Keyword, k.name.length ≠ 1 := by
    intro k
    cases k <;> decide
  cases known : Keyword.lookup? [c] with
  | none => rfl
  | some k => exact absurd (congrArg List.length (Keyword.name_of_lookup? known)) (longer k)

/-! ## Digits -/

theorem letters_of_isDigits {digits : Text} (spelled : Number.isDigits digits = true) :
    ∀ c ∈ digits, continuesIdentifier c = true := by
  intro c mem
  simp [continuesIdentifier, Char.isAlphanum, Number.isDigit_of_isDigits spelled c mem]

theorem isWord_of_isDigits {digits : Text} (spelled : Number.isDigits digits = true) :
    IsWord digits :=
  isWord_of_continuesIdentifier (Number.ne_nil_of_isDigits spelled) (letters_of_isDigits spelled)

/-- Digits are no reserved word. -/
theorem lookupIgnoringCase?_digits {digits : Text} (spelled : Number.isDigits digits = true) :
    Keyword.lookupIgnoringCase? digits = none := by
  cases known : Keyword.lookupIgnoringCase? digits with
  | none => rfl
  | some k =>
    obtain ⟨c, rest, rfl⟩ := List.exists_cons_of_ne_nil (Number.ne_nil_of_isDigits spelled)
    obtain ⟨a, mem, lowered⟩ := exists_letter_of_lookup known List.mem_cons_self
    have digit := Number.isDigit_of_isDigits spelled c List.mem_cons_self
    by_cases same : a = c
    · subst same
      rcases capital_of_name k a mem with capital | rfl
      · rw [isUpper_iff] at capital
        have := toNat_of_isDigit digit
        omega
      · cases digit
    · exact absurd lowered (toLower_ne (isAlpha_of_isDigit digit) same)

theorem classOf_of_isDigits {digits : Text} (spelled : Number.isDigits digits = true) :
    classOf digits false = .text := by
  rw [classOf_of_isWord (isWord_of_isDigits spelled)
    (isMark_of_continuesIdentifier (letters_of_isDigits spelled)),
    lookupIgnoringCase?_digits spelled]
  rfl

end TrajectoryFormat.Description
