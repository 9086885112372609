import TrajectoryFormat.Proofs.Casing
import TrajectoryFormat.Proofs.InvertedIntervals
import TrajectoryFormat.Proofs.SettingOrder

/-!
# Names that are given more than once

The attribute lines of a description fall into groups by their names, and names that differ only in
case are the same. Of every group of two lines or more one violation is reported, with the name as
the first line spells it, and the groups are reported in the order in which they begin.
-/

namespace TrajectoryFormat

section Places
variable {α : Type} {p p' q : α → Bool}

/-- Of two things that are kept by a filter the same comes first without it. -/
theorem findIdx_lt_of_filter (kept : ∀ x, p x = true → q x = true)
    (kept' : ∀ x, p' x = true → q x = true) (xs : List α)
    (before : (xs.filter q).findIdx p < (xs.filter q).findIdx p') :
    xs.findIdx p < xs.findIdx p' := by
  induction xs with
  | nil => exact before
  | cons x xs ih =>
    rw [List.findIdx_cons, List.findIdx_cons]
    cases here : q x with
    | false =>
      rw [List.filter_cons_of_neg (by simp [here])] at before
      have missed : p x = false := Bool.eq_false_iff.mpr fun found => by simp [kept x found] at here
      have missed' : p' x = false := Bool.eq_false_iff.mpr fun found => by
        simp [kept' x found] at here
      simpa [missed, missed'] using ih before
    | true =>
      rw [List.filter_cons_of_pos here, List.findIdx_cons, List.findIdx_cons] at before
      cases found' : p' x with
      | true => simp [found'] at before
      | false =>
        cases found : p x with
        | true => simp
        | false =>
          simp only [found, found', cond_false, Nat.add_lt_add_iff_right] at before ⊢
          exact ih before

end Places

namespace Text

/-- What is the same as one of two texts that are the same is the same as the other. -/
theorem sameIgnoringCase_congr {s t : Text} (same : sameIgnoringCase s t = true) :
    sameIgnoringCase s = sameIgnoringCase t := by
  funext u
  rw [sameIgnoringCase, sameIgnoringCase, sameIgnoringCase_iff.mp same]

end Text

namespace Description

open Text

variable {name : Text} {seen names : List Text}

/-! ## Groups of names -/

/-- The names that differ from a name. -/
def differing (name : Text) (names : List Text) : List Text :=
  names.filter (!name.sameIgnoringCase ·)

/-- Names in groups: each with all that are the same, the groups in the order in which they
begin. -/
def nameGroups : List Text → List (List Text)
  | [] => []
  | name :: rest => (name :: rest.filter name.sameIgnoringCase) :: nameGroups (differing name rest)
termination_by names => names.length
decreasing_by exact Nat.lt_succ_of_le (List.length_filter_le _ _)

/-- What it is for groups to be those of some names. -/
structure Grouped (names : List Text) (groups : List (List Text)) : Prop where
  whole : ∀ g ∈ groups, ∃ name ∈ names, g = names.filter name.sameIgnoringCase
  every : ∀ name ∈ names, names.filter name.sameIgnoringCase ∈ groups
  ordered : (groups.map fun g => names.findIdx g.contains).Pairwise (· < ·)

@[simp] theorem filter_same_cons (name : Text) (names : List Text) :
    (name :: names).filter name.sameIgnoringCase = name :: names.filter name.sameIgnoringCase :=
  List.filter_cons_of_pos (sameIgnoringCase_self name)

/-- The group of a name is the same among the names that differ from another. -/
theorem filter_same_others {other : Text} (differs : name.sameIgnoringCase other = false)
    (names : List Text) :
    (name :: names).filter other.sameIgnoringCase
      = (differing name names).filter other.sameIgnoringCase := by
  have apart : ∀ n, other.sameIgnoringCase n = true → (!name.sameIgnoringCase n) = true := by
    intro n same
    rw [sameIgnoringCase_comm, ← sameIgnoringCase_congr same, sameIgnoringCase_comm, differs,
      Bool.not_false]
  rw [List.filter_cons_of_neg (by rw [sameIgnoringCase_comm, differs]; exact Bool.false_ne_true),
    differing, List.filter_filter]
  refine List.filter_congr fun n _ => ?_
  cases same : other.sameIgnoringCase n with
  | true => rw [apart n same, Bool.true_and]
  | false => rw [Bool.false_and]

theorem grouped_nameGroups (names : List Text) : Grouped names (nameGroups names) := by
  induction names using nameGroups.induct with
  | case1 =>
    rw [nameGroups]
    exact ⟨nofun, nofun, .nil⟩
  | case2 name rest ih =>
    rw [nameGroups, ← filter_same_cons]
    -- the groups of the other names are groups of all names
    have others : ∀ g ∈ nameGroups (differing name rest),
        ∃ n ∈ rest, name.sameIgnoringCase n = false
          ∧ g = (name :: rest).filter n.sameIgnoringCase := by
      intro g mem
      obtain ⟨n, among, rfl⟩ := ih.whole g mem
      obtain ⟨here, differs⟩ := List.mem_filter.mp among
      rw [Bool.not_eq_true'] at differs
      exact ⟨n, here, differs, (filter_same_others differs rest).symm⟩
    -- no name of theirs is that of the first group
    have apart : ∀ g ∈ nameGroups (differing name rest),
        ∀ m, g.contains m = true → (!name.sameIgnoringCase m) = true := by
      intro g mem m inside
      obtain ⟨n, _, differs, rfl⟩ := others g mem
      have same := (List.mem_filter.mp (List.contains_iff_mem.mp inside)).2
      rw [sameIgnoringCase_comm, ← sameIgnoringCase_congr same, sameIgnoringCase_comm, differs,
        Bool.not_false]
    refine ⟨?_, ?_, ?_⟩
    · rw [List.forall_mem_cons]
      refine ⟨⟨name, List.mem_cons_self, rfl⟩, fun g mem => ?_⟩
      obtain ⟨n, here, _, written⟩ := others g mem
      exact ⟨n, List.mem_cons_of_mem name here, written⟩
    · intro n mem
      cases same : name.sameIgnoringCase n with
      | true => rw [← sameIgnoringCase_congr same]; exact List.mem_cons_self
      | false =>
        have here : n ∈ rest := (List.mem_cons.mp mem).resolve_left fun equal => by
          rw [equal, sameIgnoringCase_self] at same
          cases same
        rw [filter_same_others same]
        exact List.mem_cons_of_mem _ (ih.every n (List.mem_filter.mpr ⟨here,
          by rw [same, Bool.not_false]⟩))
    · have later : ∀ g ∈ nameGroups (differing name rest),
          (name :: rest).findIdx g.contains = rest.findIdx g.contains + 1 := by
        intro g mem
        have absent : g.contains name = false := Bool.eq_false_iff.mpr fun inside => by
          simpa using apart g mem name inside
        rw [List.findIdx_cons, absent, cond_false]
      rw [List.map_cons, List.pairwise_cons, List.forall_mem_map, List.pairwise_map]
      refine ⟨fun g mem => ?_, ?_⟩
      · rw [later g mem, filter_same_cons, List.findIdx_cons, List.contains_cons, beq_self_eq_true,
          Bool.true_or, cond_true]
        exact Nat.succ_pos _
      · refine (List.pairwise_map.mp ih.ordered).imp_of_mem fun first second before => ?_
        rw [later _ first, later _ second, Nat.add_lt_add_iff_right]
        exact findIdx_lt_of_filter (apart _ first) (apart _ second) rest before

/-! ## What is found twice -/

/-- The first names of the groups of two or more. -/
def repeated (groups : List (List Text)) : List Text :=
  (groups.filter (2 ≤ ·.length)).filterMap List.head?

/-- The names that differ from all that have been seen. -/
def unseen (seen names : List Text) : List Text :=
  names.filter fun name => !seen.any name.sameIgnoringCase

@[simp] theorem unseen_concat (seen : List Text) (name : Text) (names : List Text) :
    unseen (seen ++ [name]) names = differing name (unseen seen names) := by
  rw [unseen, unseen, differing, List.filter_filter]
  refine List.filter_congr fun n _ => ?_
  rw [List.any_append, List.any_cons, List.any_nil, Bool.or_false, Bool.not_or, Bool.and_comm,
    sameIgnoringCase_comm]

/-- A name that has been seen before rules out no further names. -/
theorem unseen_again (again : seen.any name.sameIgnoringCase = true) (names : List Text) :
    unseen (seen ++ [name]) names = unseen seen names := by
  rw [unseen_concat, differing, List.filter_eq_self]
  intro n mem
  have fresh := (List.mem_filter.mp mem).2
  rw [Bool.not_eq_true', Bool.eq_false_iff] at fresh ⊢
  exact fun same => fresh (sameIgnoringCase_congr same ▸ again)

/-- Nothing that is the same as a name that has not been seen has been seen. -/
theorem filter_same_unseen (fresh : seen.any name.sameIgnoringCase = false) (names : List Text) :
    (unseen seen names).filter name.sameIgnoringCase = names.filter name.sameIgnoringCase := by
  rw [unseen, List.filter_filter]
  refine List.filter_congr fun n _ => ?_
  cases same : name.sameIgnoringCase n with
  | true => rw [← sameIgnoringCase_congr same, fresh, Bool.not_false, Bool.and_true]
  | false => rw [Bool.false_and]

theorem duplicates_eq (seen names : List Text) :
    Facts.duplicates seen names = repeated (nameGroups (unseen seen names)) := by
  induction names generalizing seen with
  | nil => rw [unseen, List.filter_nil, nameGroups]; rfl
  | cons name rest ih =>
    rw [Facts.duplicates, ih]
    cases again : seen.any name.sameIgnoringCase with
    | true =>
      have first : unseen seen (name :: rest) = unseen seen rest :=
        List.filter_cons_of_neg (by simp [again])
      rw [unseen_again again, first]
      rfl
    | false =>
      have first : unseen seen (name :: rest) = name :: unseen seen rest :=
        List.filter_cons_of_pos (by simp [again])
      rw [first, nameGroups, ← unseen_concat, filter_same_unseen again]
      cases twice : rest.any name.sameIgnoringCase with
      | true =>
        obtain ⟨n, mem, same⟩ := List.any_eq_true.mp twice
        have some : rest.filter name.sameIgnoringCase ≠ [] :=
          List.ne_nil_of_mem (List.mem_filter.mpr ⟨mem, same⟩)
        have long : 2 ≤ (name :: rest.filter name.sameIgnoringCase).length :=
          Nat.succ_le_succ (List.length_pos_iff.mpr some)
        rw [repeated, repeated, List.filter_cons_of_pos (by simpa using long)]
        rfl
      | false =>
        have none : rest.filter name.sameIgnoringCase = [] := by
          rw [List.filter_eq_nil_iff]
          exact fun n mem same => by simp [List.any_eq_false.mp twice n mem] at same
        rw [none, repeated, repeated, List.filter_cons_of_neg (by simp)]
        rfl

/-! ## Reports -/

def Violation.repeatedName? : Violation → Option Text
  | .duplicateAttribute name => some name
  | _ => none

/-- The names that are reported to be given more than once. -/
def reportedNames (tokens : List Token) : List Text :=
  (violations tokens).filterMap Violation.repeatedName?

/-- The names of the attribute lines, well formed or not. -/
def attributeNames (tokens : List Token) : List Text :=
  (declarationLines tokens).filterMap Facts.attributeName?

/-- Only the rule about names reports names. -/
theorem reportedNames_eq (tokens : List Token) :
    reportedNames tokens = Facts.duplicates [] (attributeNames tokens) := by
  have intervals : (Facts.ofTokens tokens).intervalViolations.filterMap Violation.repeatedName?
      = [] := by
    unfold Facts.intervalViolations
    split
    · rfl
    · rw [List.filterMap_map, List.filterMap_eq_nil_iff]
      exact fun _ _ => rfl
  have names : (Facts.ofTokens tokens).attributeNames = attributeNames tokens := by
    rw [Facts.ofTokens_eq_gathered]
    rfl
  rw [reportedNames, filterMap_violations (by decide), intervals, List.append_nil,
    List.filterMap_map, names]
  exact List.filterMap_some

/-- Whatever else is wrong with a description, the names reported are one for each group of two or
more attribute lines with the same name, as the first line of the group spells it, in the order in
which the groups begin. -/
theorem repeated_names_reported (tokens : List Token) :
    Grouped (attributeNames tokens) (nameGroups (attributeNames tokens))
      ∧ reportedNames tokens
        = ((nameGroups (attributeNames tokens)).filter (2 ≤ ·.length)).filterMap List.head? := by
  refine ⟨grouped_nameGroups _, ?_⟩
  have all : unseen [] (attributeNames tokens) = attributeNames tokens :=
    List.filter_eq_self.mpr fun _ _ => rfl
  rw [reportedNames_eq, duplicates_eq, all, repeated]

/-- Two groups that begin in turns, and a name that is given once. -/
example : repeated (nameGroups ["note", "_X", "Note", "_x", "when", "NOTE"]) = ["note", "_X"] := by
  decide +kernel

end Description

end TrajectoryFormat
