import TrajectoryFormat.Text

/-!
# Cutting texts at a mark

A mark is looked for from the left, and its first occurrence counts. Lines end at a line feed, and
one carriage return before it belongs to the line end.
-/

namespace TrajectoryFormat.Text

/-- What follows `mark` where the text opens with it. -/
def after? : Text → Text → Option Text
  | [], s => some s
  | _ :: _, [] => none
  | m :: mark, c :: s => if m = c then after? mark s else none

/-- The text before the first occurrence of `mark`, and the text after it. -/
def cut? (mark s : Text) : Option (Text × Text) :=
  match after? mark s with
  | some rest => some ([], rest)
  | none =>
    match s with
    | [] => none
    | c :: s => (cut? mark s).map fun (before, rest) => (c :: before, rest)

/-- The text before the last occurrence of `mark`. -/
def beforeLast? (mark s : Text) : Option Text :=
  (cut? mark.reverse s.reverse).map fun (_, rest) => rest.reverse

/-- Writes `new` for every occurrence of `mark`, from the left, after `skip` characters that belong
to an occurrence already written. -/
def replaceFrom (mark new : Text) : Nat → Text → Text
  | _, [] => []
  | skip + 1, _ :: s => replaceFrom mark new skip s
  | 0, c :: s =>
    if mark.isPrefixOf (c :: s) then new ++ replaceFrom mark new (mark.length - 1) s
    else c :: replaceFrom mark new 0 s

/-- Writes `new` for every occurrence of the nonempty `mark`, from the left. -/
def replace (mark new s : Text) : Text := replaceFrom mark new 0 s

/-- Without one carriage return at the end. -/
def dropReturn (s : Text) : Text := if s.getLast? = some '\r' then s.dropLast else s

/-- The lines of a text. Text after the last line feed is a line of its own unless it is empty. -/
def lines (s : Text) : List Text :=
  let pieces := s.splitOn '\n'
  let closed := pieces.dropLast.map dropReturn
  match pieces.getLast? with
  | none | some [] => closed
  | some rest => closed ++ [rest]

theorem after?_eq_some {mark s rest : Text} (h : after? mark s = some rest) : s = mark ++ rest := by
  induction mark generalizing s with
  | nil => simpa [after?] using h
  | cons m mark ih =>
    cases s with
    | nil => simp [after?] at h
    | cons c s =>
      simp only [after?] at h
      split at h
      · next hc => rw [hc, ih h, List.cons_append]
      · simp at h

theorem cut?_eq_some {mark s before rest : Text} (h : cut? mark s = some (before, rest)) :
    s = before ++ mark ++ rest := by
  induction s generalizing before with
  | nil =>
    rw [cut?] at h
    split at h
    · next r hr =>
      cases h
      exact after?_eq_some hr
    · simp at h
  | cons c s ih =>
    rw [cut?] at h
    split at h
    · next r hr =>
      cases h
      exact after?_eq_some hr
    · simp only [Option.map_eq_some_iff, Prod.mk.injEq, Prod.exists] at h
      obtain ⟨b, r, hb, rfl, rfl⟩ := h
      simp [ih hb]

theorem length_lt_of_cut? {mark s before rest : Text} (h : cut? mark s = some (before, rest))
    (hm : mark ≠ []) : rest.length < s.length := by
  have split := congrArg List.length (cut?_eq_some h)
  have := List.length_pos_iff.mpr hm
  simp only [List.length_append] at split
  omega

end TrajectoryFormat.Text
