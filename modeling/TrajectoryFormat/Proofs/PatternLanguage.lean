import Mathlib.Data.List.Forall2
import TrajectoryFormat.Text.Pattern

/-!
# The texts that a pattern describes

A pattern describes texts by its form: sequences by concatenation, choices by either side,
repetitions by any number of pieces. A pattern covers just the texts that it describes.
-/

namespace TrajectoryFormat.Pattern

/-- The texts of a pattern, by its form. -/
inductive Describes : Pattern → Text → Prop
  | empty : Describes .empty []
  | one {k : CharClass} {c : Char} (holds : k.holds c = true) : Describes (.one k) [c]
  | seq {p q : Pattern} {s t : Text} (first : Describes p s) (second : Describes q t) :
      Describes (.seq p q) (s ++ t)
  | left {p q : Pattern} {s : Text} (first : Describes p s) : Describes (.either p q) s
  | right {p q : Pattern} {s : Text} (second : Describes q s) : Describes (.either p q) s
  | none {p : Pattern} : Describes (.many p) []
  | more {p : Pattern} {s t : Text} (first : Describes p s) (others : Describes (.many p) t) :
      Describes (.many p) (s ++ t)

namespace Describes

variable {p q : Pattern} {s t : Text} {c : Char} {k : CharClass}

theorem empty_iff : Describes .empty s ↔ s = [] :=
  ⟨fun h => by cases h; rfl, fun h => h ▸ .empty⟩

theorem one_iff : Describes (.one k) s ↔ ∃ c, k.holds c = true ∧ s = [c] := by
  constructor
  · rintro ⟨⟩
    exact ⟨_, ‹_›, rfl⟩
  · rintro ⟨c, holds, rfl⟩
    exact .one holds

theorem seq_iff : Describes (.seq p q) s ↔ ∃ u v, Describes p u ∧ Describes q v ∧ s = u ++ v := by
  constructor
  · rintro ⟨⟩
    exact ⟨_, _, ‹_›, ‹_›, rfl⟩
  · rintro ⟨u, v, first, second, rfl⟩
    exact .seq first second

theorem either_iff : Describes (.either p q) s ↔ Describes p s ∨ Describes q s := by
  constructor
  · rintro (_ | _ | _ | first | second)
    · exact .inl first
    · exact .inr second
  · rintro (first | second)
    · exact .left first
    · exact .right second

/-- A repetition that describes a nonempty text begins with a nonempty piece. -/
theorem many_cons_iff : Describes (.many p) (c :: s) ↔
    ∃ u v, Describes p (c :: u) ∧ Describes (.many p) v ∧ s = u ++ v := by
  constructor
  · intro h
    generalize pattern : Pattern.many p = r, text : c :: s = w at h
    induction h with
    | @more p' u v first others _ ih =>
      cases pattern
      cases u with
      | nil => exact ih rfl text
      | cons d u =>
        cases text
        exact ⟨u, v, first, others, rfl⟩
    | none => cases text
    | _ => cases pattern
  · rintro ⟨u, v, first, others, rfl⟩
    exact .more first others

end Describes

/-! ## Reading a text by steps -/

theorem nullable_iff {p : Pattern} : p.nullable = true ↔ p.Describes [] := by
  induction p with
  | empty => simp [nullable, Describes.empty]
  | one k => simp [nullable, Describes.one_iff]
  | seq p q ihp ihq =>
    simp only [nullable, Bool.and_eq_true, ihp, ihq, Describes.seq_iff]
    constructor
    · rintro ⟨first, second⟩
      exact ⟨[], [], first, second, rfl⟩
    · rintro ⟨u, v, first, second, split⟩
      obtain ⟨rfl, rfl⟩ := List.append_eq_nil_iff.mp split.symm
      exact ⟨first, second⟩
  | either p q ihp ihq => simp [nullable, ihp, ihq, Describes.either_iff]
  | many p => simp [nullable, Describes.none]

/-- What remains of a sequence describes what is left of a text, where something remains of its
first part. -/
theorem describes_followed {q r : Pattern} {s : Text} :
    Describes (if r = .empty then q else .seq r q) s ↔ Describes (.seq r q) s := by
  split
  · next h =>
    subst h
    simp [Describes.seq_iff, Describes.empty_iff]
  · rfl

theorem step_iff {p : Pattern} {c : Char} {s : Text} :
    (∃ r ∈ step c p, Describes r s) ↔ Describes p (c :: s) := by
  induction p generalizing s with
  | empty => simp [step, Describes.empty_iff]
  | one k =>
    by_cases h : k.holds c = true <;> simp [step, h, Describes.one_iff, Describes.empty_iff]
  | seq p q ihp ihq =>
    have first : (∃ r ∈ (step c p).map fun r => if r = .empty then q else .seq r q, Describes r s) ↔
        ∃ u v, Describes p (c :: u) ∧ Describes q v ∧ s = u ++ v := by
      simp only [List.mem_map, exists_exists_and_eq_and, describes_followed,
        Describes.seq_iff, ← ihp]
      constructor
      · rintro ⟨r, mem, u, v, hr, hq, rfl⟩
        exact ⟨u, v, ⟨r, mem, hr⟩, hq, rfl⟩
      · rintro ⟨u, v, ⟨r, mem, hr⟩, hq, rfl⟩
        exact ⟨r, mem, u, v, hr, hq, rfl⟩
    have whole : Describes (.seq p q) (c :: s) ↔
        (∃ u v, Describes p (c :: u) ∧ Describes q v ∧ s = u ++ v)
          ∨ (p.nullable = true ∧ Describes q (c :: s)) := by
      rw [nullable_iff, Describes.seq_iff]
      constructor
      · rintro ⟨_ | ⟨d, u⟩, v, hp, hq, split⟩
        · exact .inr ⟨hp, split ▸ hq⟩
        · cases split
          exact .inl ⟨u, v, hp, hq, rfl⟩
      · rintro (⟨u, v, hp, hq, rfl⟩ | ⟨hp, hq⟩)
        · exact ⟨c :: u, v, hp, hq, rfl⟩
        · exact ⟨[], c :: s, hp, hq, rfl⟩
    rw [whole, ← first, step]
    by_cases n : p.nullable = true
    · simp only [n, if_true, true_and, List.mem_append, or_and_right, exists_or, ihq]
    · simp only [n, if_false, false_and, or_false, Bool.false_eq_true]
  | either p q ihp ihq =>
    simp only [step, List.mem_append, or_and_right, exists_or, ihp, ihq, Describes.either_iff]
  | many p ih =>
    simp only [step, List.mem_map, exists_exists_and_eq_and, describes_followed, Describes.seq_iff,
      Describes.many_cons_iff, ← ih]
    constructor
    · rintro ⟨r, mem, u, v, hr, hq, rfl⟩
      exact ⟨u, v, ⟨r, mem, hr⟩, hq, rfl⟩
    · rintro ⟨u, v, ⟨r, mem, hr⟩, hq, rfl⟩
      exact ⟨r, mem, u, v, hr, hq, rfl⟩

theorem anyMatches_iff {ps : List Pattern} {s : Text} :
    anyMatches ps s = true ↔ ∃ p ∈ ps, Describes p s := by
  induction s generalizing ps with
  | nil => simp [anyMatches, nullable_iff]
  | cons c s ih =>
    simp only [anyMatches, ih, List.mem_eraseDups, List.mem_flatMap]
    constructor
    · rintro ⟨r, ⟨p, mem, stepped⟩, hr⟩
      exact ⟨p, mem, step_iff.mp ⟨r, stepped, hr⟩⟩
    · rintro ⟨p, mem, hp⟩
      obtain ⟨r, stepped, hr⟩ := step_iff.mpr hp
      exact ⟨r, ⟨p, mem, stepped⟩, hr⟩

/-- A pattern covers just the texts that it describes. -/
theorem covers_iff {p : Pattern} {s : Text} : p.covers s = true ↔ p.Describes s := by
  simp [covers, anyMatches_iff]

/-! ## Sequences and spelled words -/

@[simp] theorem describes_all_cons {p : Pattern} {ps : List Pattern} {s : Text} :
    Describes (all (p :: ps)) s ↔ ∃ u v, Describes p u ∧ Describes (all ps) v ∧ s = u ++ v := by
  cases ps with
  | nil => simp [all, Describes.empty_iff]
  | cons q ps => exact Describes.seq_iff

@[simp] theorem describes_all_nil {s : Text} : Describes (all []) s ↔ s = [] := Describes.empty_iff

theorem describes_some {p : Pattern} {s : Text} :
    Describes (some p) s ↔ ∃ u v, Describes p u ∧ Describes (.many p) v ∧ s = u ++ v :=
  Describes.seq_iff

theorem describes_spelled {word s : Text} :
    Describes (spelled word) s ↔
      List.Forall₂ (fun a c => CharClass.sameLetter a c = true) word s := by
  unfold spelled
  induction word generalizing s with
  | nil => rw [List.map_nil, describes_all_nil, List.forall₂_nil_left_iff]
  | cons a word ih =>
    rw [List.map_cons, describes_all_cons]
    constructor
    · rintro ⟨u, v, first, others, rfl⟩
      obtain ⟨c, same, rfl⟩ := Describes.one_iff.mp first
      exact .cons same (ih.mp others)
    · intro h
      cases h with
      | @cons _ c _ s same others => exact ⟨[c], s, .one same, ih.mpr others, rfl⟩

/-- A word is one spelling of itself. -/
@[simp] theorem describes_spelled_self (word : Text) : Describes (spelled word) word := by
  rw [describes_spelled, List.forall₂_same]
  intro a _
  simp [CharClass.sameLetter]

/-- A repetition of pieces, each described by the pattern. -/
theorem describes_many_flatten {p : Pattern} {pieces : List Text}
    (described : ∀ piece ∈ pieces, Describes p piece) : Describes (.many p) pieces.flatten := by
  induction pieces with
  | nil => exact .none
  | cons piece rest ih =>
    rw [List.forall_mem_cons] at described
    exact .more described.1 (ih described.2)

theorem describes_many_one {k : CharClass} {s : Text} (holds : ∀ c ∈ s, k.holds c = true) :
    Describes (.many (.one k)) s := by
  induction s with
  | nil => exact .none
  | cons c s ih =>
    rw [List.forall_mem_cons] at holds
    exact .more (.one holds.1) (ih holds.2)

theorem describes_some_one {k : CharClass} {s : Text} (nonempty : s ≠ [])
    (holds : ∀ c ∈ s, k.holds c = true) : Describes (some (.one k)) s := by
  cases s with
  | nil => exact absurd rfl nonempty
  | cons c s =>
    rw [List.forall_mem_cons] at holds
    exact describes_some.mpr ⟨[c], s, .one holds.1, describes_many_one holds.2, rfl⟩

end TrajectoryFormat.Pattern
