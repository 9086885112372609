import Mathlib.Data.List.Infix
import TrajectoryFormat.Record.Split

/-!
# Joining and cutting

A join has the characters of its parts and of the separator. A text is cut where a mark occurs
first, so the mark is not in the text before the cut, and not in a text that is not cut. Items in
groups of one size come back from the flat list of them.
-/

namespace TrajectoryFormat

namespace Text

@[simp] theorem join_singleton (separator s : Text) : join separator [s] = s := by
  simp [join, List.intercalate]

@[simp] theorem join_cons_cons (separator s t : Text) (rest : List Text) :
    join separator (s :: t :: rest) = s ++ separator ++ join separator (t :: rest) := by
  simp [join, List.intercalate, List.intersperse]

/-- The first text, and the separator before each of the others. -/
theorem join_cons (c : Char) (p : Text) (ps : List Text) :
    join [c] (p :: ps) = p ++ ps.flatMap (c :: ·) := by
  induction ps generalizing p with
  | nil => rw [join_singleton, List.flatMap_nil, List.append_nil]
  | cons q ps ih =>
    rw [join_cons_cons, ih, List.flatMap_cons, List.append_assoc, List.singleton_append,
      List.cons_append]

theorem forall_mem_join {p : Char → Prop} {separator : Text} {parts : List Text}
    (between : ∀ c ∈ separator, p c) (inside : ∀ s ∈ parts, ∀ c ∈ s, p c) :
    ∀ c ∈ join separator parts, p c := by
  induction parts with
  | nil => simp [join, List.intercalate]
  | cons s rest ih =>
    rw [List.forall_mem_cons] at inside
    cases rest with
    | nil => rw [join_singleton]; exact inside.1
    | cons t rest =>
      rw [join_cons_cons, List.forall_mem_append, List.forall_mem_append]
      exact ⟨⟨inside.1, between⟩, ih inside.2⟩

theorem notMem_join {c : Char} {separator : Text} {parts : List Text} (hs : c ∉ separator)
    (hp : ∀ s ∈ parts, c ∉ s) : c ∉ join separator parts := by
  intro mem
  exact forall_mem_join (p := (· ≠ c)) (fun d here => ne_of_mem_of_not_mem here hs)
    (fun s part d here => ne_of_mem_of_not_mem here (hp s part)) c mem rfl

/-- The parts of a join are in it. -/
theorem subset_join {separator part : Text} {parts : List Text} (mem : part ∈ parts) :
    part ⊆ join separator parts := by
  induction parts with
  | nil => cases mem
  | cons first rest ih =>
    cases rest with
    | nil =>
      rw [List.mem_singleton.mp mem, join_singleton]
      exact List.Subset.refl first
    | cons second rest =>
      rw [join_cons_cons]
      rcases List.mem_cons.mp mem with rfl | later
      · exact List.subset_append_of_subset_left _ (List.subset_append_left _ _)
      · exact List.subset_append_of_subset_right _ (ih later)

/-- The parts of a text that is cut at a character are in the text. -/
theorem subset_of_mem_splitOn {c : Char} {s part : Text} (mem : part ∈ s.splitOn c) : part ⊆ s := by
  have whole : join [c] (s.splitOn c) = s := List.intercalate_splitOn c
  have inside : part ⊆ join [c] (s.splitOn c) := subset_join mem
  rwa [whole] at inside

/-- A character that is not in the separator is in one of the parts. -/
theorem mem_join_iff {c : Char} {separator : Text} {parts : List Text} (other : c ∉ separator) :
    c ∈ join separator parts ↔ ∃ s ∈ parts, c ∈ s := by
  constructor
  · intro mem
    refine Classical.not_not.mp fun none => ?_
    exact notMem_join other (fun s part here => none ⟨s, part, here⟩) mem
  · rintro ⟨s, part, here⟩
    exact subset_join part here

/-- Texts with the separator after each are their join and the separator once more. -/
theorem flatMap_append {separator : Text} {parts : List Text} (nonempty : parts ≠ []) :
    parts.flatMap (· ++ separator) = join separator parts ++ separator := by
  induction parts with
  | nil => exact absurd rfl nonempty
  | cons s rest ih =>
    cases rest with
    | nil =>
      rw [join_singleton]
      simp
    | cons t rest =>
      rw [List.flatMap_cons, ih (List.cons_ne_nil _ _), join_cons_cons, List.append_assoc,
        List.append_assoc, List.append_assoc]

/-! ## Marks -/

variable {c : Char}

/-- A mark is looked for after a text that lacks its first character. -/
theorem cut?_of_notMem {mark before s : Text} (absent : c ∉ before) :
    cut? (c :: mark) (before ++ s) = (cut? (c :: mark) s).map fun (b, rest) =>
      (before ++ b, rest) := by
  induction before with
  | nil => simp
  | cons b before ih =>
    rw [List.mem_cons, not_or] at absent
    rw [List.cons_append, cut?, after?, if_neg absent.1]
    simp only [ih absent.2, Option.map_map]
    rfl

theorem cut?_at (before rest : Text) (h : c ∉ before) :
    cut? [c] (before ++ c :: rest) = some (before, rest) := by
  rw [cut?_of_notMem h]
  simp [cut?, after?]

theorem cut?_none {mark : Text} (s : Text) (h : c ∉ s) : cut? (c :: mark) s = none := by
  have whole : cut? (c :: mark) (s ++ []) = (cut? (c :: mark) []).map fun (b, rest) =>
      (s ++ b, rest) :=
    cut?_of_notMem h
  rwa [List.append_nil] at whole

@[simp] theorem after?_append (mark rest : Text) : after? mark (mark ++ rest) = some rest := by
  induction mark with
  | nil => rfl
  | cons m mark ih => rw [List.cons_append, after?, if_pos rfl, ih]

/-- A mark does not occur before its first occurrence. -/
theorem not_infix_of_cut? {mark before rest s : Text} (solid : mark ≠ [])
    (found : cut? mark s = some (before, rest)) :
    ¬ mark <:+: before := by
  induction s generalizing before with
  | nil =>
    obtain ⟨m, mark, rfl⟩ := List.exists_cons_of_ne_nil solid
    cases found
  | cons c s ih =>
    have whole := cut?_eq_some found
    rw [cut?] at found
    split at found
    · cases found
      rwa [List.infix_nil]
    · next other =>
      simp only [Option.map_eq_some_iff, Prod.mk.injEq, Prod.exists] at found
      obtain ⟨b, r, here, rfl, rfl⟩ := found
      rw [List.infix_cons_iff, not_or]
      refine ⟨?_, ih here⟩
      rintro ⟨t, opened⟩
      rw [whole, ← opened, List.append_assoc, List.append_assoc, after?_append] at other
      cases other

end Text

namespace Record

open Text

/-- A text is cut where the delimiter occurs first. -/
theorem cutAt?_eq_some {delimiter text item after : Text}
    (found : cutAt? delimiter text = some (item, after)) :
    text = item ++ delimiter ++ after ∧ ¬ delimiter <:+: item := by
  rw [cutAt?] at found
  split at found
  · cases found
  · next solid => exact ⟨cut?_eq_some found, not_infix_of_cut? (by simpa using solid) found⟩

theorem notMem_of_cutAt? {c : Char} {text item after : Text}
    (found : cutAt? [c] text = some (item, after)) :
    c ∉ item :=
  fun mem => (cutAt?_eq_some found).2 ((List.singleton_infix_iff c item).mpr mem)

theorem notMem_of_cutAt?_none {c : Char} {text : Text} (missing : cutAt? [c] text = none) :
    c ∉ text := by
  intro mem
  obtain ⟨before, after, rfl, absent⟩ := List.eq_append_cons_of_mem mem
  rw [cutAt?, if_neg (by simp), cut?_at before after absent] at missing
  cases missing

theorem itemsFrom_cut {delimiters : List Text} {k : Nat} {text item rest : Text}
    (h : cutAt? ((delimiters[k % delimiters.length]?).getD []) text = some (item, rest)) :
    itemsFrom delimiters k text = item :: itemsFrom delimiters (k + 1) rest := by
  rw [itemsFrom]
  split
  · next found =>
    rw [h] at found
    cases found
    rfl
  · next missing =>
    rw [h] at missing
    cases missing

theorem itemsFrom_last {delimiters : List Text} {k : Nat} {text : Text}
    (h : cutAt? ((delimiters[k % delimiters.length]?).getD []) text = none) :
    itemsFrom delimiters k text = [text] := by
  rw [itemsFrom]
  split
  · next found =>
    rw [h] at found
    cases found
  · rfl

/-- Groups of one size come back from the flat list of their items. -/
theorem groupsOf_flatten {size : Nat} (positive : 0 < size) {groups : List (List Text)}
    (h : ∀ g ∈ groups, g.length = size) : groupsOf size groups.flatten = groups := by
  induction groups with
  | nil => simp [groupsOf]
  | cons g groups ih =>
    rw [List.forall_mem_cons] at h
    cases g with
    | nil => simp at h; omega
    | cons item rest =>
      have count : rest.length = size - 1 := by
        have := h.1
        rw [List.length_cons] at this
        omega
      rw [List.flatten_cons, List.cons_append, groupsOf, ← count, List.take_left, List.drop_left,
        ih h.2]

/-- Nothing is lost where items are put in groups, and their order is kept. -/
@[simp] theorem flatten_groupsOf (size : Nat) (items : List Text) :
    (groupsOf size items).flatten = items := by
  induction length : items.length using Nat.strongRecOn generalizing items with
  | ind n ih =>
    subst length
    cases items with
    | nil =>
      rw [groupsOf]
      rfl
    | cons item rest =>
      have shorter : (rest.drop (size - 1)).length < (item :: rest).length := by
        rw [List.length_drop, List.length_cons]
        omega
      rw [groupsOf, List.flatten_cons, ih _ shorter _ rfl, List.cons_append, List.take_append_drop]

theorem subset_groupsOf (size : Nat) (items : List Text) :
    ∀ g ∈ groupsOf size items, g ⊆ items := by
  intro g mem item here
  rw [← flatten_groupsOf size items]
  exact List.mem_flatten.mpr ⟨g, mem, here⟩

theorem dropEmptyLast_of_nonempty {items : List Text} (h : ∀ item ∈ items, item ≠ []) :
    dropEmptyLast items = items := by
  rw [dropEmptyLast, if_neg]
  intro last
  exact h [] (List.mem_of_getLast? last) rfl

end Record

end TrajectoryFormat
