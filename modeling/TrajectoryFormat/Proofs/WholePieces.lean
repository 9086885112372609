import TrajectoryFormat.Proofs.AcceptedLines
import TrajectoryFormat.Proofs.ClosingParenthesis
import TrajectoryFormat.Proofs.LogicalLines
import TrajectoryFormat.Proofs.Pieces

/-!
# Pieces and tokens of any text

Whether or not its arrays and patterns are closed, a line is cut into pieces that are not empty, at
most as many as it has characters that are not blank, and together they have all of these. The
tokens of a description fall back into one run for each logical line, which is that line's pieces.
-/

namespace TrajectoryFormat.Description

open Text

variable {c : Char} {rest line : Text} {lines : List Text} {tokens : List Token}

/-! ## Pieces -/

/-- A piece is cut off at its end and nothing is left out. -/
@[simp] theorem firstPiece_append (c : Char) (rest : Text) :
    (firstPiece c rest).1 ++ (firstPiece c rest).2 = c :: rest := by
  have word : (firstWord c rest).1 ++ (firstWord c rest).2 = c :: rest := by
    simp only [firstWord, List.cons_append, List.takeWhile_append_dropWhile]
  simp only [firstPiece]
  split
  · split
    · next inside after closed =>
      have split := Nesting.split_of_close? closed
      simp only [List.append_assoc, List.singleton_append, ← split, List.take_append_drop]
    · exact List.append_nil _
  · split
    · split
      · next before after cut => exact (cut?_eq_some cut).symm
      · exact word
    · exact word

/-- A piece begins with the character that opens it. -/
theorem exists_firstPiece (c : Char) (rest : Text) : ∃ t, (firstPiece c rest).1 = c :: t := by
  have split := firstPiece_append c rest
  cases piece : (firstPiece c rest).1 with
  | nil =>
    -- an empty piece would leave more than there was
    have shorter := firstPiece_length c rest
    rw [piece, List.nil_append] at split
    rw [split, List.length_cons] at shorter
    omega
  | cons d t =>
    rw [piece, List.cons_append, List.cons.injEq] at split
    exact ⟨t, by rw [split.1]⟩

@[simp] theorem filter_trimStart (s : Text) :
    (trimStart s).filter (!isBlank ·) = s.filter (!isBlank ·) := by
  rw [← flatten_words, words_trimStart, flatten_words]

/-- What holds of the pieces of any text. -/
structure CutWhole (line : Text) (pieces : List Text) : Prop where
  nonempty : ∀ piece ∈ pieces, piece ≠ []
  kept : pieces.flatten.filter (!isBlank ·) = line.filter (!isBlank ·)
  bounded : pieces.length ≤ (line.filter (!isBlank ·)).length

theorem cutWhole_pieces (line : Text) : CutWhole line (pieces line) := by
  induction line using pieces.induct with
  | case1 line blank =>
    rw [pieces_of_blank blank]
    refine ⟨nofun, ?_, Nat.zero_le _⟩
    rw [← filter_trimStart line, blank]
    rfl
  | case2 line c rest start ih =>
    obtain ⟨t, opened⟩ := exists_firstPiece c rest
    have unblank := head_trimStart line c (by rw [start]; rfl)
    have split : line.filter (!isBlank ·)
        = (firstPiece c rest).1.filter (!isBlank ·) ++ (firstPiece c rest).2.filter
          (!isBlank ·) := by
      rw [← filter_trimStart, start, ← firstPiece_append, List.filter_append]
    rw [pieces_of_start start]
    refine ⟨?_, ?_, ?_⟩
    · rw [List.forall_mem_cons, opened]
      exact ⟨List.cons_ne_nil c t, ih.nonempty⟩
    · rw [List.flatten_cons, List.filter_append, ih.kept, split]
    · have solid : 1 ≤ ((firstPiece c rest).1.filter (!isBlank ·)).length := by
        rw [opened, List.filter_cons_of_pos (by simp [unblank]), List.length_cons]
        omega
      have bound := ih.bounded
      rw [split, List.length_cons, List.length_append]
      omega

/-! ## Tokens -/

@[simp] theorem values_pieceTokens (line : Text) :
    (pieceTokens line).map Token.value = pieces line := by
  unfold pieceTokens
  split
  · next none => rw [none]; rfl
  · next first rest split =>
    rw [split, List.map_cons, List.map_map]
    exact congrArg (_ :: ·) (List.map_id' _)

/-- A line that is neither blank nor a comment has a piece. -/
theorem pieces_ne_nil (kept : isSkippable line = false) : pieces line ≠ [] := by
  intro none
  have whole := (cutWhole_pieces line).kept
  rw [none, ← flatten_words line] at whole
  obtain ⟨w, ws, split⟩ := List.exists_cons_of_ne_nil (words_ne_nil kept)
  have member : w ∈ words line := split ▸ List.mem_cons_self
  exact (solid_of_mem_words w member).1 (List.flatten_eq_nil_iff.mp whole.symm w member)

/-- What holds of the tokens of any description that is not empty. -/
structure TokensWhole (lines : List Text) (tokens : List Token) : Prop where
  pieces : ∀ line ∈ logicalLines lines, CutWhole line (pieces line)
  runs : declarationLines tokens = (logicalLines lines).map pieceTokens
  values : (declarationLines tokens).map (·.map Token.value)
    = (logicalLines lines).map Description.pieces

/-- Nothing is lost on the way from the lines of a description to its tokens, well formed or not,
and no search for the closing parenthesis of an array goes below the depth zero. -/
theorem tokens_whole (lexed : tokens? lines = some tokens) :
    TokensWhole lines tokens ∧ ∀ s, SearchEnds {} s (arrayInside? s) := by
  have runs : declarationLines tokens = (logicalLines lines).map pieceTokens := by
    rw [declarationLines_of_tokens? lexed, List.filter_eq_self, List.forall_mem_map]
    intro line mem
    have some : pieceTokens line ≠ [] := by
      intro none
      apply pieces_ne_nil ((settled_logicalLines lines).kept line mem)
      rw [← values_pieceTokens, none, List.map_nil]
    simpa using some
  refine ⟨⟨fun line _ => cutWhole_pieces line, runs, ?_⟩, fun s => Nesting.close?_ends {} s⟩
  rw [runs, List.map_map]
  exact List.map_congr_left fun line _ => values_pieceTokens line

/-- An array that is never closed, with a parenthesis for a delimiter, after a date pattern that is
never closed. -/
def unclosedLines : List Text :=
  ["seen DATETIME[\"yyyy MM ;", "# comment", "_COORDINATES ARRAY(_X DECIMAL ) _Y (DECIMAL ;",
    " _TIME  DATETIME[\"HH mm\"]"]

theorem tokens_whole_unclosed :
    ∃ tokens, tokens? unclosedLines = some tokens
      ∧ (logicalLines unclosedLines).map pieces
        = ([["seen", "DATETIME[\"yyyy", "MM", ";"],
            ["_COORDINATES",
              "ARRAY(_X DECIMAL ) _Y (DECIMAL ; _TIME DATETIME[\"HH\x1fmm\"]"]] : List (List Text))
      ∧ TokensWhole unclosedLines tokens ∧ SearchEnds {} "_X DECIMAL ) _Y (DECIMAL ;" none := by
  have run : (tokens? unclosedLines).isSome = true := by decide +kernel
  obtain ⟨tokens, lexed⟩ := Option.isSome_iff_exists.mp run
  obtain ⟨whole, searches⟩ := tokens_whole lexed
  refine ⟨tokens, lexed, by decide +kernel, whole, ?_⟩
  have unclosed : arrayInside? "_X DECIMAL ) _Y (DECIMAL ;" = none := by decide +kernel
  exact unclosed ▸ searches "_X DECIMAL ) _Y (DECIMAL ;"

end TrajectoryFormat.Description
