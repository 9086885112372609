import TrajectoryFormat.Proofs.RecordGroups

/-!
# Hollow records

A record is hollow where it has nothing but blanks and line bonds. Blank records are left out once
the lines of each record have been joined, and the line bond between two blank lines is not blank.
So a hollow record is kept where it is joined from two lines or more, and a file yields no record
just where every record of it is one blank line.
-/

namespace TrajectoryFormat

namespace Text

/-- A property of all characters of a join holds of those of each part, and of the separator where
it is used. -/
theorem all_join (p : Char → Bool) (c : Char) (parts : List Text) :
    (join [c] parts).all p = (parts.all (·.all p) && (decide (parts.length ≤ 1) || p c)) := by
  rcases parts with _ | ⟨s, _ | ⟨t, rest⟩⟩
  · rfl
  · rw [join_singleton, List.all_cons, List.all_nil, Bool.and_true, List.length_singleton,
      decide_eq_true le_rfl, Bool.true_or, Bool.and_true]
  · have many : ¬ (s :: t :: rest).length ≤ 1 := by simp
    have parted : ((t :: rest).flatMap (c :: ·)).all p = ((t :: rest).all (·.all p) && p c) := by
      cases holds : p c with
      | true => simp [List.all_flatMap, holds]
      | false =>
        rw [List.flatMap_cons, List.cons_append, List.all_cons, holds, Bool.false_and,
          Bool.and_false]
    rw [join_cons, List.all_append, parted, decide_eq_false many, Bool.false_or, ← Bool.and_assoc]
    rfl

end Text

namespace Record

open Text

variable {f : DataFormat} {lines group : List Text} {record : Text}

/-- Empty, or of blanks and line bonds only. -/
def isHollow (s : Text) : Bool := s.all fun c => isBlank c || c == lineBond

/-- The lines that each record of a file is joined from, blank records among them. -/
def recordLines (f : DataFormat) (lines : List Text) : List (List Text) :=
  match f.recordDelimiter with
  | .lineBreak => (keptLines f lines).map fun line => [line]
  | .endOfFile => [keptLines f lines]
  | .text mark =>
    (groupsAt mark (keptLines f lines)).map fun group =>
      (group.map (unmarked mark)).dropWhile List.isEmpty

theorem segments_eq (f : DataFormat) (lines : List Text) :
    segments f lines = ((recordLines f lines).map (join [lineBond])).filter (!isAllBlank ·) := by
  have made : grouped f.recordDelimiter (keptLines f lines)
      = (recordLines f lines).map (join [lineBond]) := by
    unfold grouped recordLines
    cases f.recordDelimiter with
    | lineBreak =>
      rw [List.map_map]
      exact (List.map_id' _).symm.trans (List.map_congr_left fun line _ =>
        (join_singleton _ line).symm)
    | endOfFile => rfl
    | text mark =>
      dsimp only
      rw [openedBy_eq, List.map_map]
      rfl
  rw [segments, made]

/-! ## Joined lines -/

@[simp] theorem isBlank_lineBond : isBlank lineBond = false := by
  unfold isBlank
  decide

/-- A record is blank where it is one blank line, or is made of none. -/
theorem isAllBlank_join (group : List Text) :
    isAllBlank (join [lineBond] group) = true ↔ group.length ≤ 1 ∧ ∀ line ∈ group,
      isAllBlank line = true := by
  rw [isAllBlank, all_join, isBlank_lineBond, Bool.or_false, Bool.and_eq_true, decide_eq_true_eq,
    List.all_eq_true, and_comm]
  rfl

theorem isHollow_join (group : List Text) :
    isHollow (join [lineBond] group) = true ↔ ∀ line ∈ group, isHollow line = true := by
  rw [isHollow, all_join, beq_self_eq_true, Bool.or_true, Bool.or_true, Bool.and_true,
    List.all_eq_true]
  rfl

/-- A hollow line that is not blank has a line bond. -/
theorem isAllBlank_iff_of_isHollow {line : Text} (hollow : isHollow line = true) :
    isAllBlank line = true ↔ lineBond ∉ line := by
  rw [isAllBlank, List.all_eq_true]
  constructor
  · intro blank mem
    have bond := blank lineBond mem
    rw [isBlank_lineBond] at bond
    cases bond
  · intro absent c mem
    have either := List.all_eq_true.mp hollow c mem
    rw [Bool.or_eq_true, beq_iff_eq] at either
    exact either.resolve_right fun bond => absent (bond ▸ mem)

/-- Of the records joined from lines the blank ones are left out. So the hollow records of a file
are those joined from hollow lines, two or more of them or one with a line bond, and a file has no
records just where each would be one blank line. -/
theorem hollow_records_iff (f : DataFormat) (lines : List Text) :
    segments f lines = ((recordLines f lines).map (join [lineBond])).filter (!isAllBlank ·)
      ∧ (∀ record, record ∈ segments f lines ∧ isHollow record = true ↔
        ∃ group ∈ recordLines f lines, join [lineBond] group = record
          ∧ (∀ line ∈ group, isHollow line = true)
          ∧ (2 ≤ group.length ∨ ∃ line ∈ group, lineBond ∈ line))
      ∧ (segments f lines = [] ↔
        ∀ group ∈ recordLines f lines, group.length ≤ 1
          ∧ ∀ line ∈ group, isAllBlank line = true) := by
  have kept : ∀ record, record ∈ segments f lines ↔
      ∃ group ∈ recordLines f lines, join [lineBond] group = record
        ∧ ¬ isAllBlank record = true := by
    intro record
    rw [segments_eq, List.mem_filter, List.mem_map, Bool.not_eq_true', ← Bool.not_eq_true]
    constructor
    · rintro ⟨⟨group, mem, made⟩, solid⟩
      exact ⟨group, mem, made, solid⟩
    · rintro ⟨group, mem, made, solid⟩
      exact ⟨⟨group, mem, made⟩, solid⟩
  -- of hollow lines, a record that is not blank has a bond between them or in one of them
  have bonded : ∀ group : List Text, (∀ line ∈ group, isHollow line = true) →
      (¬ isAllBlank (join [lineBond] group) = true ↔ 2 ≤ group.length ∨ ∃ line ∈ group,
        lineBond ∈ line) := by
    intro group hollow
    have inLines : (∀ line ∈ group, isAllBlank line = true) ↔ ¬ ∃ line ∈ group,
        lineBond ∈ line := by
      rw [not_exists]
      refine forall_congr' fun line => ?_
      rw [not_and]
      exact forall_congr' fun mem => isAllBlank_iff_of_isHollow (hollow line mem)
    rw [isAllBlank_join, inLines, not_and_or, not_not, Nat.not_le]
    rfl
  refine ⟨segments_eq f lines, fun record => ?_, ?_⟩
  · rw [kept]
    constructor
    · rintro ⟨⟨group, mem, rfl, solid⟩, hollow⟩
      rw [isHollow_join] at hollow
      exact ⟨group, mem, rfl, hollow, (bonded group hollow).mp solid⟩
    · rintro ⟨group, mem, rfl, hollow, bond⟩
      exact ⟨⟨group, mem, rfl, (bonded group hollow).mpr bond⟩, (isHollow_join group).mpr hollow⟩
  · rw [segments_eq, List.filter_eq_nil_iff, List.forall_mem_map]
    refine forall₂_congr fun group _ => ?_
    rw [Bool.not_eq_true', Bool.not_eq_false, isAllBlank_join]

/-- Two blank lines of a file that is one record. -/
theorem blank_lines_kept :
    ¬ ∀ (f : DataFormat) (lines : List Text), ∀ record ∈ segments f lines,
      isHollow record = false := by
  intro solid
  have kept : ([lineBond] : Text) ∈ segments { recordDelimiter := .endOfFile } [[], []] := by
    decide +kernel
  exact absurd (solid _ _ _ kept) (by decide +kernel)

end Record

end TrajectoryFormat
