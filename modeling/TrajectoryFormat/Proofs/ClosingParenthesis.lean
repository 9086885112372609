import Mathlib.Tactic.SplitIfs
import TrajectoryFormat.Description.LogicalLine

/-!
# The parenthesis that closes an array

The depth inside an array is counted in integers here, from one for the array itself, and the count
goes on whatever it comes to. The search for the closing parenthesis ends at the first place where
this depth is zero, which is after a parenthesis, and it finds none where the depth stays at one or
more. So the depth is never below zero while the search goes on.
-/

namespace TrajectoryFormat.Description

open Text

variable {n m : Nesting} {c : Char} {rest : Text}

/-- A place inside an array, with an integer for its depth. -/
structure Walk where
  depth : Int := 1
  slot : Nat := 0
  inWord : Bool := false

namespace Walk

/-- What a character adds to the depth. -/
def turn (c : Char) : Int := if c = '(' then 1 else if c = ')' then -1 else 0

/-- A parenthesis that stands alone in the delimiter place of a triple. -/
def isDelimiter (w : Walk) (c : Char) (rest : Text) : Bool :=
  !w.inWord && w.depth == 1 && w.slot % 3 == 2 && (c == '(' || c == ')') && endsWord rest

/-- The place after `c`, which `rest` follows. -/
def next (w : Walk) (c : Char) (rest : Text) : Walk :=
  if isBlank c then
    { w with slot := if w.inWord && w.depth == 1 then w.slot + 1 else w.slot, inWord := false }
  else if w.isDelimiter c rest then { w with slot := w.slot + 1 }
  else { w with depth := w.depth + turn c, inWord := true }

/-- The place after `read`, which `ahead` follows. -/
def past (w : Walk) : Text → Text → Walk
  | [], _ => w
  | c :: read, ahead => (w.next c (read ++ ahead)).past read ahead

end Walk

namespace Nesting

/-- The place of the search, its depth counted from one. -/
def walk (n : Nesting) : Walk := ⟨n.depth + 1, n.slot, n.inWord⟩

theorem one_le_depth_walk (n : Nesting) : 1 ≤ n.walk.depth := by
  have natural := Int.natCast_nonneg n.depth
  simp only [walk]
  omega

/-- The depth is one where no parenthesis inside the array is open. -/
@[simp] theorem depth_walk_beq_one (n : Nesting) : (n.walk.depth == 1) = (n.depth == 0) := by
  rw [Bool.eq_iff_iff, beq_iff_eq, beq_iff_eq]
  simp only [walk]
  omega

@[simp] theorem isDelimiter_walk (n : Nesting) (c : Char) (rest : Text) :
    n.walk.isDelimiter c rest = n.isDelimiter c rest := by
  rw [Walk.isDelimiter, depth_walk_beq_one]
  rfl

/-- A step of the search is a step of the walk. -/
theorem next_walk (found : n.next? c rest = some m) : n.walk.next c rest = m.walk := by
  rw [next?] at found
  rw [Walk.next, depth_walk_beq_one, isDelimiter_walk]
  by_cases blank : isBlank c = true
  · rw [if_pos blank] at found ⊢
    cases found
    rfl
  rw [if_neg blank] at found ⊢
  by_cases delimiter : n.isDelimiter c rest = true
  · rw [if_pos delimiter] at found ⊢
    cases found
    rfl
  rw [if_neg delimiter] at found ⊢
  by_cases opens : c = '('
  · rw [if_pos opens] at found
    rw [Walk.turn, if_pos opens]
    cases found
    rfl
  rw [if_neg opens] at found
  by_cases closes : c = ')'
  · rw [if_pos closes] at found
    rw [Walk.turn, if_neg opens, if_pos closes]
    cases deep : n.depth with
    | zero => simp [deep] at found
    | succ depth =>
      rw [deep] at found
      cases found
      simp only [walk, deep, Int.natCast_add, Int.cast_ofNat_Int, Int.add_neg_cancel_right]
  · rw [if_neg closes] at found
    rw [Walk.turn, if_neg opens, if_neg closes, Int.add_zero]
    cases found
    rfl

/-- The search ends with a parenthesis that takes the depth to zero. -/
theorem next_walk_closed (closed : n.next? c rest = none) :
    c = ')' ∧ (n.walk.next c rest).depth = 0 := by
  rw [next?] at closed
  rw [Walk.next, isDelimiter_walk]
  split_ifs at closed with blank delimiter opens closes
  split at closed
  · next outermost =>
    rw [if_neg blank, if_neg delimiter, Walk.turn, if_neg opens, if_pos closes]
    exact ⟨closes, by simp only [walk, outermost]; rfl⟩
  · cases closed

end Nesting

/-- How the search for the closing parenthesis of a text ends. -/
inductive SearchEnds (w : Walk) (s : Text) : Option (Text × Text) → Prop
  | closed {inside after : Text} (split : s = inside ++ ')' :: after)
      (inner : ∀ read ahead, read ++ ahead = inside →
        1 ≤ (w.past read (ahead ++ ')' :: after)).depth)
      (outer : (w.past (inside ++ [')']) after).depth = 0) : SearchEnds w s (some (inside, after))
  | unclosed (inner : ∀ read ahead, read ++ ahead = s → 1 ≤ (w.past read ahead).depth) :
      SearchEnds w s none

/-- One character before a search. -/
theorem SearchEnds.cons {w : Walk} {s : Text} {outcome : Option (Text × Text)} (begun : 1 ≤ w.depth)
    (ends : SearchEnds (w.next c s) s outcome) :
    SearchEnds w (c :: s) (outcome.map fun (inside, after) => (c :: inside, after)) := by
  cases ends with
  | @closed inside after split inner outer =>
    refine .closed (by rw [split, List.cons_append]) (fun read ahead within => ?_) ?_
    · cases read with
      | nil => exact begun
      | cons d read =>
        rw [List.cons_append, List.cons.injEq] at within
        obtain ⟨rfl, within⟩ := within
        rw [Walk.past, ← List.append_assoc, within, ← split]
        exact inner read ahead within
    · rw [List.cons_append, Walk.past, List.append_assoc, List.singleton_append, ← split]
      exact outer
  | unclosed inner =>
    refine .unclosed fun read ahead within => ?_
    cases read with
    | nil => exact begun
    | cons d read =>
      rw [List.cons_append, List.cons.injEq] at within
      obtain ⟨rfl, within⟩ := within
      rw [Walk.past, within]
      exact inner read ahead within

/-- The search ends at the first place of depth zero, from wherever it begins. -/
theorem Nesting.close?_ends (n : Nesting) (s : Text) : SearchEnds n.walk s (n.close? s) := by
  induction s generalizing n with
  | nil =>
    refine .unclosed fun read ahead within => ?_
    rw [(List.append_eq_nil_iff.mp within).1]
    exact n.one_le_depth_walk
  | cons c s ih =>
    rw [Nesting.close?]
    cases step : n.next? c s with
    | none =>
      obtain ⟨rfl, zero⟩ := Nesting.next_walk_closed step
      refine .closed rfl (fun read ahead within => ?_) zero
      rw [(List.append_eq_nil_iff.mp within).1]
      exact n.one_le_depth_walk
    | some m =>
      have ends := ih m
      rw [← Nesting.next_walk step] at ends
      exact ends.cons n.one_le_depth_walk

/-- A closed array is its inside, the parenthesis and what follows. -/
theorem Nesting.split_of_close? {s inside after : Text}
    (closed : n.close? s = some (inside, after)) :
    s = inside ++ ')' :: after := by
  have ends := n.close?_ends s
  rw [closed] at ends
  cases ends with
  | closed split _ _ => exact split

end TrajectoryFormat.Description
