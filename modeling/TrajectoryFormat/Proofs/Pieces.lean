import TrajectoryFormat.Proofs.Words

/-!
# Pieces of a line

A word is one piece, and so are a quoted date pattern and an array that is closed. In a text of
pieces with one space between neighbours the pieces are found again. An array is closed by the first
parenthesis that stands in the place of a name, so parentheses that stand alone as delimiters do not
close it.
-/

namespace TrajectoryFormat.Description

open Text

/-! ## Texts of pieces -/

/-- A text that is one piece before a blank and at the end. -/
def IsPiece (p : Text) : Prop :=
  ∃ c t, p = c :: t ∧ isBlank c = false
    ∧ ∀ after, endsWord after = true → firstPiece c (t ++ after) = (p, after)

theorem IsPiece.ne_nil {p : Text} (piece : IsPiece p) : p ≠ [] := by
  obtain ⟨c, t, rfl, _⟩ := piece
  exact List.cons_ne_nil c t

theorem pieces_of_blank {line : Text} (blank : trimStart line = []) : pieces line = [] := by
  rw [pieces]
  split
  · rfl
  · next start =>
    rw [blank] at start
    cases start

theorem pieces_of_start {c : Char} {line rest : Text} (start : trimStart line = c :: rest) :
    pieces line = (firstPiece c rest).1 :: pieces (firstPiece c rest).2 := by
  rw [pieces]
  split
  · next blank =>
    rw [start] at blank
    cases blank
  · next start' =>
    rw [start] at start'
    cases start'
    rfl

@[simp] theorem pieces_nil : pieces [] = [] := pieces_of_blank rfl

@[simp] theorem pieces_space (s : Text) : pieces (' ' :: s) = pieces s := by
  have skipped : trimStart (' ' :: s) = trimStart s := by
    rw [trimStart, List.dropWhile_cons_of_pos isBlank_space, trimStart]
  rw [pieces, pieces, skipped]

theorem pieces_append {p after : Text} (piece : IsPiece p) (ends : endsWord after = true) :
    pieces (p ++ after) = p :: pieces after := by
  obtain ⟨c, t, rfl, unblank, first⟩ := piece
  have start : trimStart (c :: t ++ after) = c :: (t ++ after) := by
    rw [List.cons_append, trimStart_cons_of_not_blank _ unblank]
  rw [pieces_of_start start, first after ends]

/-- Pieces with one space between neighbours are found again. -/
theorem pieces_join {ps : List Text} (whole : ∀ p ∈ ps, IsPiece p) : pieces (join " " ps) = ps := by
  induction ps with
  | nil => exact pieces_nil
  | cons p ps ih =>
    rw [List.forall_mem_cons] at whole
    cases ps with
    | nil =>
      have alone : pieces (p ++ []) = p :: pieces [] := pieces_append whole.1 rfl
      rw [List.append_nil, pieces_nil] at alone
      rw [join_singleton, alone]
    | cons q ps =>
      rw [join_cons_cons, List.append_assoc, show (" " : Text) = [' '] from rfl,
        List.singleton_append, pieces_append whole.1 (endsWord_space _), pieces_space]
      exact congrArg (p :: ·) (ih whole.2)

/-! ## Words and dates -/

theorem firstWord_eq {c : Char} {t after : Text} (unblank : ∀ x ∈ t, isBlank x = false)
    (ends : endsWord after = true) : firstWord c (t ++ after) = (c :: t, after) := by
  have letters : ∀ x ∈ t, (!isBlank x) = true := by simpa using unblank
  have stop : after.takeWhile (!isBlank ·) = [] ∧ after.dropWhile (!isBlank ·) = after := by
    cases after with
    | nil => exact ⟨rfl, rfl⟩
    | cons b after =>
      rw [endsWord] at ends
      simp [ends]
  rw [firstWord, List.takeWhile_append_of_pos letters, List.dropWhile_append_of_pos letters,
    stop.1, stop.2, List.append_nil]

theorem isPiece_of_isWord {w : Text} (word : IsWord w) : IsPiece w := by
  obtain ⟨c, t, rfl⟩ := List.exists_cons_of_ne_nil word.nonempty
  refine ⟨c, t, rfl, word.unblank c (by simp), ?_⟩
  intro after ends
  have noArray : opensWith arrayOpening (c :: (t ++ after)) = false := by
    rw [← List.cons_append, opensWith_word solid_arrayOpening ends,
      opensWith_of_lacks (by decide) word.noArray]
  have noDate : opensWith dateOpening (c :: (t ++ after)) = false := by
    rw [← List.cons_append, opensWith_word solid_dateOpening ends,
      opensWith_of_lacks (by decide) word.noDate]
  rw [firstPiece, noArray, noDate, if_neg (by simp), if_neg (by simp)]
  exact firstWord_eq (fun x mem => word.unblank x (by simp [mem])) ends

/-- A date declaration ends at the first quote that a bracket follows. -/
theorem cut?_dateText {pattern : Text} (s : Text) (unquoted : '"' ∉ pattern)
    (noBracket : pattern.head? ≠ some ']') :
    cut? patternClosing (dateText pattern ++ s) = some (patternOpening ++ pattern, s) := by
  have closing : patternClosing = ['"', ']'] := rfl
  have atEnd : cut? ['"', ']'] ('"' :: ']' :: s) = some ([], s) := by
    rw [cut?]
    rfl
  have inside : cut? ['"', ']'] (pattern ++ '"' :: ']' :: s) = some (pattern, s) := by
    rw [cut?_of_notMem unquoted, atEnd]
    simp
  have opening : after? ['"', ']'] ('"' :: (pattern ++ '"' :: ']' :: s)) = none := by
    cases pattern with
    | nil => rfl
    | cons c pattern =>
      have other : ']' ≠ c := by
        rintro rfl
        exact noBracket rfl
      simp [after?, other]
  rw [dateText, patternOpening, closing]
  simp only [List.append_assoc, List.cons_append, List.nil_append]
  rw [cut?_of_notMem (by decide), cut?, opening]
  simp [inside]

@[simp] theorem quotedPattern?_dateText (pattern : Text) :
    quotedPattern? (dateText pattern) = some pattern := by
  have opening : cut? "[\"" (dateText pattern)
      = some (("DATETIME" : Text), pattern ++ patternClosing) := by
    have before : ('[' : Char) ∉ ("DATETIME" : Text) := by decide
    have written : dateText pattern = "DATETIME" ++ '[' :: '"' :: (pattern ++ patternClosing) := by
      have split : patternOpening = "DATETIME" ++ ['[', '"'] := by decide
      rw [dateText, split]
      simp
    have here : cut? ['[', '"'] ('[' :: '"' :: (pattern ++ patternClosing))
        = some ([], pattern ++ patternClosing) := by
      rw [cut?]
      rfl
    rw [written, show ("[\"" : Text) = ['[', '"'] from rfl, cut?_of_notMem before, here]
    rfl
  have closing : beforeLast? patternClosing (pattern ++ patternClosing) = some pattern := by
    have here : cut? patternClosing.reverse (']' :: '"' :: pattern.reverse)
        = some ([], pattern.reverse) := by
      rw [cut?]
      rfl
    rw [beforeLast?, List.reverse_append, show patternClosing.reverse ++ pattern.reverse
      = ']' :: '"' :: pattern.reverse from rfl, here]
    simp
  rw [quotedPattern?, opening]
  exact closing

theorem hasDateForm_dateText {pattern : Text} (oneLine : '\n' ∉ pattern) :
    hasDateForm (dateText pattern) = true := by
  have inside : ∀ c ∈ pattern, (c != '\n') = true := by
    intro c mem
    rw [bne_iff_ne]
    rintro rfl
    exact oneLine mem
  have inner : (dateText pattern).drop patternOpening.length = pattern ++ patternClosing :=
    List.drop_left
  have kept : (pattern ++ patternClosing).length - patternClosing.length = pattern.length := by
    rw [List.length_append, Nat.add_sub_cancel]
  rw [hasDateForm, inner, kept, List.take_left, dateText, opensWith_append,
    List.all_eq_true.mpr inside]
  simp

theorem exists_dateText (pattern : Text) : ∃ t, dateText pattern = 'D' :: t := by
  have first : dateOpening = 'D' :: dateOpening.tail := by decide
  rw [dateText, patternOpening, first]
  exact ⟨_, rfl⟩

theorem opensWith_arrayOpening_dateText (pattern s : Text) :
    opensWith arrayOpening (dateText pattern ++ s) = false := by
  rw [Bool.eq_false_iff]
  intro array
  have first : (lower (dateText pattern ++ s)).head? = some 'a' := head_of_opensWith array
  obtain ⟨t, split⟩ := exists_dateText pattern
  rw [split, List.cons_append, lower_cons, List.head?_cons] at first
  exact absurd first (by decide)

theorem isPiece_dateText {pattern : Text} (unquoted : '"' ∉ pattern)
    (noBracket : pattern.head? ≠ some ']') :
    IsPiece (dateText pattern) := by
  obtain ⟨t, split⟩ := exists_dateText pattern
  refine ⟨'D', t, split, isBlank_of_graphic (by decide) (by decide), ?_⟩
  intro after _
  have noArray := opensWith_arrayOpening_dateText pattern after
  have date : opensWith dateOpening (dateText pattern ++ after) = true := by
    rw [dateText, patternOpening, List.append_assoc, List.append_assoc]
    exact opensWith_append dateOpening _
  have found := cut?_dateText after unquoted noBracket
  rw [split, List.cons_append] at noArray date found
  rw [firstPiece, noArray, date, if_neg (by simp), if_pos rfl, found]
  simp [dateText]

/-- A date declaration holds neither blanks nor parentheses where its pattern does not. -/
theorem plain_dateText {pattern : Text}
    (inside : ∀ c ∈ pattern, isBlank c = false ∧ c ≠ '(' ∧ c ≠ ')') :
    ∀ c ∈ dateText pattern, isBlank c = false ∧ c ≠ '(' ∧ c ≠ ')' := by
  have flat : ∀ c ∈ patternOpening ++ patternClosing, c ≠ '(' ∧ c ≠ ')' :=
    List.all_iff_forall_prop.mp (by decide)
  have solid : ∀ c ∈ patternOpening ++ patternClosing, isBlank c = false :=
    solid_of_graphic (by decide)
  have outside : ∀ c ∈ patternOpening ++ patternClosing, isBlank c = false ∧ c ≠ '(' ∧ c ≠ ')' :=
    fun c mem => ⟨solid c mem, flat c mem⟩
  rw [List.forall_mem_append] at outside
  rw [dateText, List.forall_mem_append, List.forall_mem_append]
  exact ⟨outside.1, inside, outside.2⟩

@[simp] theorem classOf_dateText (pattern : Text) (first : Bool) :
    classOf (dateText pattern) first = .dateType := by
  have noArray := opensWith_arrayOpening_dateText pattern []
  have date : opensWith dateOpening (dateText pattern) = true := by
    rw [dateText, patternOpening, List.append_assoc]
    exact opensWith_append dateOpening _
  rw [List.append_nil] at noArray
  rw [classOf, noArray, date]
  rfl

/-- What is read of a date declaration is what its pattern compiles to. -/
theorem datePattern_dateText {pattern : Text} (oneLine : '\n' ∉ pattern) :
    datePattern (dateText pattern) =
      (DatePattern.compile pattern).mapError fun cause =>
        .date (dateText pattern) (some cause) := by
  rw [datePattern, quotedPattern?_dateText]
  simp only [hasDateForm_dateText oneLine, if_true]

/-- A date declaration is read where its pattern compiles. -/
theorem exists_datePattern_dateText {pattern : Text} (oneLine : '\n' ∉ pattern) :
    (∃ p, datePattern (dateText pattern) = .ok p) ↔ (DatePattern.compile pattern).isOk = true := by
  rw [datePattern_dateText oneLine]
  cases DatePattern.compile pattern <;> simp [Except.mapError, Except.isOk, Except.toBool]

/-! ## Closed arrays -/

theorem isPiece_array {inside : Text}
    (closed : ∀ after, arrayInside? (inside ++ ')' :: after) = some (inside, after)) :
    IsPiece (arrayOpening ++ (inside ++ [')'])) := by
  have first : arrayOpening = 'A' :: arrayOpening.tail := by decide
  refine ⟨'A', arrayOpening.tail ++ (inside ++ [')']), by rw [first]; rfl,
    isBlank_of_graphic (by decide) (by decide), ?_⟩
  intro after _
  have line : 'A' :: (arrayOpening.tail ++ (inside ++ [')']) ++ after)
      = arrayOpening ++ (inside ++ ')' :: after) := by
    rw [← List.cons_append, ← List.cons_append, ← first]
    simp
  rw [firstPiece, line, if_pos (opensWith_append arrayOpening _), List.drop_left, closed after,
    List.take_left]
  simp

/-- A word without parentheses, and the blank after it, complete one word of an array. -/
theorem close?_inWord {w : Text} (unblank : ∀ c ∈ w, isBlank c = false)
    (flat : ∀ c ∈ w, c ≠ '(' ∧ c ≠ ')') (slot : Nat) (s : Text) :
    Nesting.close? ⟨0, slot, true⟩ (w ++ ' ' :: s)
      = (Nesting.close? ⟨0, slot + 1, false⟩ s).map fun (inside, after) =>
        (w ++ ' ' :: inside, after) := by
  induction w with
  | nil => simp [Nesting.close?, Nesting.next?, isBlank_space]
  | cons c w ih =>
    rw [List.forall_mem_cons] at unblank flat
    have next : Nesting.next? ⟨0, slot, true⟩ c (w ++ ' ' :: s) = some ⟨0, slot, true⟩ := by
      simp [Nesting.next?, Nesting.isDelimiter, unblank.1, flat.1]
    rw [List.cons_append, Nesting.close?, next]
    simp only [ih unblank.2 flat.2, Option.map_map]
    rfl

theorem close?_word {w : Text} (nonempty : w ≠ []) (unblank : ∀ c ∈ w, isBlank c = false)
    (flat : ∀ c ∈ w, c ≠ '(' ∧ c ≠ ')') (slot : Nat) (s : Text) :
    Nesting.close? ⟨0, slot, false⟩ (w ++ ' ' :: s)
      = (Nesting.close? ⟨0, slot + 1, false⟩ s).map fun (inside, after) =>
        (w ++ ' ' :: inside, after) := by
  cases w with
  | nil => exact absurd rfl nonempty
  | cons c w =>
    rw [List.forall_mem_cons] at unblank flat
    have next : Nesting.next? ⟨0, slot, false⟩ c (w ++ ' ' :: s) = some ⟨0, slot, true⟩ := by
      simp [Nesting.next?, Nesting.isDelimiter, unblank.1, flat.1]
    rw [List.cons_append, Nesting.close?, next]
    simp only [close?_inWord unblank.2 flat.2, Option.map_map]
    rfl

/-- A parenthesis that stands alone in the place of a delimiter is one. -/
theorem close?_parenthesis {c : Char} (parenthesis : c = '(' ∨ c = ')') {slot : Nat}
    (place : slot % 3 = 2) (s : Text) :
    Nesting.close? ⟨0, slot, false⟩ ([c] ++ ' ' :: s)
      = (Nesting.close? ⟨0, slot + 1, false⟩ s).map fun (inside, after) =>
        ([c] ++ ' ' :: inside, after) := by
  have unblank : isBlank c = false := by
    rcases parenthesis with rfl | rfl <;> exact isBlank_of_graphic (by decide) (by decide)
  have next : Nesting.next? ⟨0, slot, false⟩ c (' ' :: s) = some ⟨0, slot + 1, false⟩ := by
    simp [Nesting.next?, Nesting.isDelimiter, unblank, place, parenthesis, endsWord_space]
  have blank : Nesting.next? ⟨0, slot + 1, false⟩ ' ' s = some ⟨0, slot + 1, false⟩ := by
    simp [Nesting.next?, isBlank_space]
  rw [List.singleton_append, Nesting.close?, next]
  simp only [Nesting.close?, blank, Option.map_map]
  rfl

/-- A parenthesis in the place of a name closes the array. -/
theorem close?_closing {slot : Nat} (place : slot % 3 = 0) (after : Text) :
    Nesting.close? ⟨0, slot, false⟩ (')' :: after) = some ([], after) := by
  have unblank : isBlank ')' = false := isBlank_of_graphic (by decide) (by decide)
  have next : Nesting.next? ⟨0, slot, false⟩ ')' after = none := by
    simp [Nesting.next?, Nesting.isDelimiter, unblank, place]
  rw [Nesting.close?, next]

end TrajectoryFormat.Description
