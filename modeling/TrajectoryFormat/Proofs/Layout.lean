import TrajectoryFormat.Proofs.LogicalLines

/-!
# The layout of a description

Blank lines and comments do not count wherever they stand, and a line may be broken inside its first
array at any blank that stands outside of the date patterns. The pieces are joined again, for the
array is open after each of them but the last, and their words are the words of the line.
-/

namespace TrajectoryFormat.Description

open Text

variable {s t u v p line first : Text} {lines before after pieces a b : List Text}
  {pending : Option Text} {c : Char}

/-! ## Lines that do not count -/

theorem gather_filter (pending : Option Text) (lines : List Text) :
    gather pending (lines.filter (!isSkippable ·)) = gather pending lines := by
  induction pending, lines using gather_induction with
  | done => rfl
  | flush s => rfl
  | skip pending line rest skipped ih =>
    rw [List.filter_cons_of_neg (by simp [skipped]), gather_skip skipped, ih]
  | opens pending line rest kept opened ih =>
    rw [List.filter_cons_of_pos (by simp [kept]), gather_open kept opened,
      gather_open kept opened, ih]
  | close pending line rest kept closed ih =>
    rw [List.filter_cons_of_pos (by simp [kept]), gather_close kept closed,
      gather_close kept closed, ih]

theorem logicalLines_congr_filter (same : a.filter (!isSkippable ·) = b.filter (!isSkippable ·)) :
    logicalLines a = logicalLines b := by
  rw [logicalLines, logicalLines, ← gather_filter none a, ← gather_filter none b, same]

/-! ## What is read so far -/

/-- The logical line that is open after a physical line, if there is one. -/
def pendingAfter (pending : Option Text) (line : Text) : Option Text :=
  if isSkippable line then pending
  else if isOpenArray (resumed pending line) then some (resumed pending line)
  else none

/-- What comes after some lines matters through the line that they leave open alone. -/
theorem gather_append_congr (same : gather (before.foldl pendingAfter pending) a
      = gather (before.foldl pendingAfter pending) b) :
    gather pending (before ++ a) = gather pending (before ++ b) := by
  induction pending, before using gather_induction with
  | done => exact same
  | flush s => exact same
  | skip pending line rest skipped ih =>
    rw [List.foldl_cons, pendingAfter, if_pos skipped] at same
    rw [List.cons_append, List.cons_append, gather_skip skipped, gather_skip skipped, ih same]
  | opens pending line rest kept opened ih =>
    rw [List.foldl_cons, pendingAfter, if_neg (by simp [kept]), if_pos opened] at same
    rw [List.cons_append, List.cons_append, gather_open kept opened,
      gather_open kept opened, ih same]
  | close pending line rest kept closed ih =>
    rw [List.foldl_cons, pendingAfter, if_neg (by simp [kept]), if_neg (by simp [closed])] at same
    rw [List.cons_append, List.cons_append, gather_close kept closed,
      gather_close kept closed, ih same]

/-- The logical lines from one that is read as far as `t`. -/
def linesFrom (t : Text) (after : List Text) : List Text :=
  if isOpenArray t then gather (some t) after else squeeze t :: gather none after

theorem gather_kept (kept : isSkippable line = false) (pending : Option Text) (rest : List Text) :
    gather pending (line :: rest) = linesFrom (resumed pending line) rest := by
  cases opened : isOpenArray (resumed pending line) with
  | true => rw [gather_open kept opened, linesFrom, if_pos opened]
  | false => rw [gather_close kept opened, linesFrom, if_neg (Bool.eq_false_iff.mp opened)]

theorem words_resumed (s line : Text) :
    words (resumed (some s) line) = words s ++ words (bondPatterns line) := by
  rw [resumed, words_append_blank isBlank_space, words_bondPatterns_trim]

/-- The words that are read so far matter, and not the blanks between them. -/
theorem gather_congr (same : words s = words t) :
    gather (some s) after = gather (some t) after := by
  induction after generalizing s t with
  | nil => rw [gather, gather, squeeze_congr same]
  | cons line rest ih =>
    cases skipped : isSkippable line with
    | true => rw [gather_skip skipped, gather_skip skipped, ih same]
    | false =>
      have both : words (resumed (some s) line) = words (resumed (some t) line) := by
        rw [words_resumed, words_resumed, same]
      rw [gather_kept skipped, gather_kept skipped, linesFrom, linesFrom,
        isOpenArray_congr both, ih both, squeeze_congr both]

theorem linesFrom_congr (same : words s = words t) : linesFrom s after = linesFrom t after := by
  rw [linesFrom, linesFrom, isOpenArray_congr same, gather_congr same, squeeze_congr same]

/-! ## Broken lines -/

/-- A line may be broken at the blank `c` between `u` and `v`: the blank stands outside of the date
patterns, after the opening of the first array and before the parenthesis that closes it. -/
structure Breakable (line u : Text) (c : Char) (v : Text) : Prop where
  parts : line = u ++ c :: v
  blank : isBlank c = true
  unbonded : (bondPatterns line)[u.length]? = some c
  inArray : ∃ inside ∈ afterIgnoringCase? arrayOpening (bondPatterns line),
    v.length < inside.length ∧
    ∀ closed ∈ arrayInside? inside, closed.2.length < v.length

/-- What remains of a line after `u` is broken into pieces, none of which is a comment. -/
inductive Broken (line : Text) : Text → List Text → Prop
  | done : Broken line line []
  | piece {u : Text} {c : Char} {p v : Text} {pieces : List Text} (breaks : Breakable line u c v)
      (noComment : (trim p).head? ≠ some commentMark) (rest : Broken line (u ++ c :: p) pieces) :
      Broken line u (p :: pieces)

/-- A line of blanks has no words once it is bonded. -/
theorem words_bondPatterns_of_blank (none : words s = []) : words (bondPatterns s) = [] := by
  rw [← words_bondPatterns_trim]
  cases start : trim s with
  | nil => rw [bondPatterns_nil, words_nil]
  | cons c t =>
    have unblank := head_trim s c (by rw [start]; rfl)
    have visible : (trim s).filter (!isBlank ·) = [] := by
      rw [← flatten_words, words_trim, none, List.flatten_nil]
    rw [start, List.filter_cons_of_pos (by simp [unblank])] at visible
    cases visible

/-- A piece that is passed over, and is no comment, is blank. -/
theorem words_of_skippable (skipped : isSkippable p = true)
    (noComment : (trim p).head? ≠ some commentMark) :
    words p = [] := by
  rw [isSkippable] at skipped
  rw [← words_trim]
  cases start : trim p with
  | nil => exact words_nil
  | cons c t =>
    rw [start] at skipped noComment
    rw [List.head?_cons, ne_eq, Option.some.injEq] at noComment
    exact absurd (beq_iff_eq.mp skipped) noComment

namespace Breakable

theorem bondPatterns_eq (h : Breakable line u c v) :
    bondPatterns line = bondPatterns u ++ c :: bondPatterns v := by
  have kept := h.unbonded
  rw [h.parts] at kept ⊢
  exact bondPatterns_break h.blank kept

/-- The array is open before the break. -/
theorem isOpenArray (h : Breakable line u c v) : isOpenArray (bondPatterns u) = true := by
  obtain ⟨inside, found, opened, unclosed⟩ := h.inArray
  have length := length_bondPatterns v
  rw [Option.mem_def, h.bondPatterns_eq] at found
  obtain ⟨rest, first, rfl⟩ := afterIgnoringCase?_cut (by decide) found (by
    rw [List.length_cons]
    omega)
  rw [isOpenArray_of_found first, ← Nesting.isNone_close?, Option.isNone_iff_eq_none]
  by_contra closes
  obtain ⟨⟨contents, tail⟩, closed⟩ := Option.ne_none_iff_exists'.mp closes
  have extended : arrayInside? (rest ++ c :: bondPatterns v)
      = some (contents, tail ++ c :: bondPatterns v) :=
    Nesting.close?_append closed h.blank
  have before := unclosed _ extended
  rw [List.length_append, List.length_cons] at before
  omega

end Breakable

namespace Broken

theorem last (breaks : Breakable line u c v) (noComment : (trim v).head? ≠ some commentMark) :
    Broken line u [v] := by
  refine .piece breaks noComment ?_
  rw [← breaks.parts]
  exact .done

theorem exists_bondPatterns (h : Broken line u pieces) :
    ∃ rest, bondPatterns line = bondPatterns u ++ rest := by
  cases h with
  | done => exact ⟨[], (List.append_nil _).symm⟩
  | piece breaks _ _ => exact ⟨_, breaks.bondPatterns_eq⟩

/-- A piece is bonded apart. -/
theorem bondPatterns_append (breaks : Breakable line u c v)
    (rest : Broken line (u ++ c :: p) pieces) :
    bondPatterns (u ++ c :: p) = bondPatterns u ++ c :: bondPatterns p := by
  apply bondPatterns_break breaks.blank
  obtain ⟨tail, whole⟩ := rest.exists_bondPatterns
  have kept := breaks.unbonded
  rw [whole, List.getElem?_append_left] at kept
  · exact kept
  · rw [length_bondPatterns, List.length_append, List.length_cons]
    omega

/-- The pieces of a line are read as the line. -/
theorem linesFrom_pieces (h : Broken line u pieces) (same : words t = words (bondPatterns u)) :
    linesFrom t (pieces ++ after) = linesFrom (bondPatterns line) after := by
  induction h generalizing t with
  | done => exact linesFrom_congr same
  | @piece u c p v pieces breaks noComment rest ih =>
    have opened : isOpenArray t = true := by rw [isOpenArray_congr same, breaks.isOpenArray]
    have joined : words (bondPatterns (u ++ c :: p)) = words t ++ words (bondPatterns p) := by
      rw [bondPatterns_append breaks rest, words_append_blank breaks.blank, same]
    rw [linesFrom, if_pos opened, List.cons_append]
    cases skipped : isSkippable p with
    | true =>
      rw [words_bondPatterns_of_blank (words_of_skippable skipped noComment),
        List.append_nil] at joined
      rw [gather_skip skipped, ← ih joined.symm, linesFrom, if_pos opened]
    | false =>
      rw [gather_kept skipped]
      exact ih (by rw [words_resumed, joined])

/-- The first piece holds the opening of the array, so it is kept with the line. -/
theorem isSkippable_first (h : Broken line first pieces) (kept : isSkippable line = false) :
    isSkippable first = false := by
  cases h with
  | done => exact kept
  | piece breaks _ _ =>
    have some : words first ≠ [] := by
      intro none
      have opened := breaks.isOpenArray
      rw [isOpenArray_congr (t := []) (words_bondPatterns_of_blank none)] at opened
      cases opened
    rw [breaks.parts, isSkippable_append some] at kept
    exact kept

end Broken

/-- A line that begins a logical line may be broken. -/
theorem logicalLines_broken (begins : before.foldl pendingAfter none = none)
    (kept : isSkippable line = false) (broken : Broken line first pieces) :
    logicalLines (before ++ (first :: pieces ++ after))
      = logicalLines (before ++ line :: after) := by
  apply gather_append_congr
  rw [begins, List.cons_append, gather_kept (broken.isSkippable_first kept), gather_kept kept]
  have start : words (resumed none first) = words (bondPatterns first) :=
    words_bondPatterns_trim first
  have whole : words (resumed none line) = words (bondPatterns line) := words_bondPatterns_trim line
  rw [broken.linesFrom_pieces start, linesFrom_congr whole]

/-- The logical lines do not depend on the layout: blank lines and comments do not count, and a line
that begins a logical line may be broken at blanks in its first array, outside of the date patterns,
as long as no piece becomes a comment. -/
theorem logicalLines_layout :
    (∀ a b : List Text, a.filter (!isSkippable ·) = b.filter (!isSkippable ·) →
      logicalLines a = logicalLines b) ∧
    ∀ (before after : List Text) (line first : Text) (pieces : List Text),
      before.foldl pendingAfter none = none → isSkippable line = false → Broken line first pieces →
      logicalLines (before ++ (first :: pieces ++ after))
        = logicalLines (before ++ line :: after) :=
  ⟨fun _ _ same => logicalLines_congr_filter same,
    fun _ _ _ _ _ begins kept broken => logicalLines_broken begins kept broken⟩

theorem logicalLines_layout_track :
    logicalLines ["_COORDINATES ARRAY(_X DECIMAL ,", "", "  # the other axis", "_Y DECIMAL ,) ;"]
        = logicalLines ["_COORDINATES ARRAY(_X DECIMAL ,", "_Y DECIMAL ,) ;"] ∧
      logicalLines ["_ID INTEGER ;", "_COORDINATES ARRAY(_X DECIMAL ,", "\t_Y DECIMAL )",
          "_TIME DATETIME[\"yyyy-MM-dd HH:mm\"] ,) ;"]
        = logicalLines ["_ID INTEGER ;",
            "_COORDINATES ARRAY(_X DECIMAL , \t_Y DECIMAL ) _TIME DATETIME[\"yyyy-MM-dd HH:mm\"] ,) ;"] :=
  ⟨logicalLines_layout.1 _ _ (by decide +kernel),
    logicalLines_layout.2 ["_ID INTEGER ;"] [] _ "_COORDINATES ARRAY(_X DECIMAL ,"
      ["\t_Y DECIMAL )",
      "_TIME DATETIME[\"yyyy-MM-dd HH:mm\"] ,) ;"] (by decide +kernel) (by decide +kernel)
      (.piece (c := ' ') (v := "\t_Y DECIMAL ) _TIME DATETIME[\"yyyy-MM-dd HH:mm\"] ,) ;")
        ⟨by decide +kernel, isBlank_space, by decide +kernel, by decide +kernel⟩ (by decide +kernel)
        (.last (c := ' ') ⟨by decide +kernel, isBlank_space, by decide +kernel, by decide +kernel⟩
          (by decide +kernel)))⟩

/-- A piece that begins with a blank and a number sign is a comment, and its words are lost. -/
theorem indented_piece_lost :
    ¬ ∀ (line first piece : Text) (c : Char), isSkippable line = false →
      Breakable line first c piece →
      first.head? ≠ some commentMark → piece.head? ≠ some commentMark →
      logicalLines [first, piece] = logicalLines [line] := by
  intro layout
  have lost := layout "_COORDINATES ARRAY(_X DECIMAL  # _Y DECIMAL # _TIME INTEGER #) ;"
    "_COORDINATES ARRAY(_X DECIMAL" " # _Y DECIMAL # _TIME INTEGER #) ;" ' ' (by decide +kernel)
    ⟨by decide +kernel, isBlank_space, by decide +kernel, by decide +kernel⟩ (by decide) (by decide)
  revert lost
  decide +kernel

end TrajectoryFormat.Description
