import Mathlib.Data.List.SplitBy
import TrajectoryFormat.Proofs.Splitting
import TrajectoryFormat.Record.Segment

/-!
# Groups of lines

Where a mark opens records, the lines of a file fall into groups, a new one before every line that
opens with the mark. A record is a group without its mark and without the empty lines at its
beginning, and records of blanks only are left out. So every line is in one record, in order, but
for its blanks.
-/

namespace TrajectoryFormat

namespace Text

theorem after?_eq (mark s : Text) :
    after? mark s = if mark.isPrefixOf s then some (s.drop mark.length) else none := by
  induction mark generalizing s with
  | nil => rfl
  | cons m mark ih =>
    cases s with
    | nil => rfl
    | cons c s =>
      rw [after?, ih, List.isPrefixOf, List.length_cons, List.drop_succ_cons]
      by_cases same : m = c <;> simp [same]

variable {p : Char → Bool} {c : Char}

/-- The separator apart, a join has the characters of its parts. -/
theorem filter_join (apart : p c = false) (parts : List Text) :
    (join [c] parts).filter p = parts.flatten.filter p := by
  cases parts with
  | nil => rfl
  | cons s rest =>
    rw [join_cons, List.filter_append, List.flatten_cons, List.filter_append]
    congr 1
    induction rest with
    | nil => rfl
    | cons t rest ih =>
      rw [List.flatMap_cons, List.cons_append, List.filter_cons_of_neg (by simp [apart]),
        List.filter_append, ih, List.flatten_cons, List.filter_append]

theorem join_concat (c : Char) {parts : List Text} (nonempty : parts ≠ []) (s : Text) :
    join [c] (parts ++ [s]) = join [c] parts ++ c :: s := by
  obtain ⟨first, rest, rfl⟩ := List.exists_cons_of_ne_nil nonempty
  rw [List.cons_append, join_cons, join_cons, List.flatMap_append, List.flatMap_singleton,
    List.append_assoc]

end Text

namespace Record

open Text

variable {mark line : Text} {group lines : List Text}

/-- Lines in groups, a new one before every line that opens with the mark. -/
def groupsAt (mark : Text) (lines : List Text) : List (List Text) :=
  lines.splitBy fun _ line => !mark.isPrefixOf line

/-- A line without the mark that it opens with. -/
def unmarked (mark line : Text) : Text :=
  if mark.isPrefixOf line then line.drop mark.length else line

/-- The record of a group: its lines without marks, from the first that is not empty on. -/
def recordOf (mark : Text) (group : List Text) : Text :=
  join [lineBond] ((group.map (unmarked mark)).dropWhile List.isEmpty)

/-! ## The record begun -/

@[simp] theorem recordOf_singleton (mark line : Text) :
    recordOf mark [line] = unmarked mark line := by
  rw [recordOf, List.map_singleton]
  cases first : unmarked mark line with
  | nil => rfl
  | cons c rest => exact join_singleton _ _

/-- A record that is still empty begins anew with the next line, and any other goes on with it. -/
theorem recordOf_concat (inside : mark.isPrefixOf line = false) (group : List Text) :
    recordOf mark (group ++ [line])
      = if recordOf mark group = [] then line else recordOf mark group ++ lineBond :: line := by
  have whole : unmarked mark line = line := by rw [unmarked, inside, if_neg Bool.false_ne_true]
  rw [recordOf, recordOf, List.map_append, List.dropWhile_append, List.map_singleton, whole]
  cases begun : (group.map (unmarked mark)).dropWhile List.isEmpty with
  | nil =>
    cases line with
    | nil => rfl
    | cons c line => exact join_singleton _ _
  | cons first rest =>
    have first_nonempty : first ≠ [] := by
      have stops := List.head?_dropWhile_not List.isEmpty (group.map (unmarked mark))
      rw [begun] at stops
      simpa using stops
    have some_text : join [lineBond] (first :: rest) ≠ [] := by
      rw [join_cons]
      exact List.append_ne_nil_of_left_ne_nil first_nonempty _
    rw [if_neg some_text]
    exact join_concat lineBond (List.cons_ne_nil first rest) line

theorem openedBy_opened (opens : mark.isPrefixOf line = true) (begun : Option Text) :
    openedBy mark begun (line :: lines)
      = begun.toList ++ openedBy mark (some (unmarked mark line)) lines := by
  rcases begun with _ | _ | _ <;> simp [openedBy, after?_eq, unmarked, opens]

theorem openedBy_inside (inside : mark.isPrefixOf line = false) (begun : Text) :
    openedBy mark (some begun) (line :: lines)
      = openedBy mark (some (if begun = [] then line else begun ++ lineBond :: line)) lines := by
  cases begun <;> simp [openedBy, after?_eq, inside]

/-- The scan goes on from a record begun as from the lines of this record. -/
theorem openedBy_begun (nonempty : group ≠ [])
    (inside : ∀ line ∈ group.tail, mark.isPrefixOf line = false) :
    openedBy mark (some (recordOf mark group)) lines
      = (groupsAt mark (group ++ lines)).map (recordOf mark) := by
  have whole : ∀ {group : List Text}, group ≠ [] →
      (∀ line ∈ group.tail, mark.isPrefixOf line = false) → groupsAt mark group = [group] := by
    intro group nonempty inside
    obtain ⟨first, rest, rfl⟩ := List.exists_cons_of_ne_nil nonempty
    apply List.splitBy_of_isChain nonempty
    apply List.Pairwise.isChain
    refine List.pairwise_cons.mpr ⟨fun line mem => ?_,
      List.pairwise_of_forall_mem_list fun _ _ line mem => ?_⟩
    · rw [inside line mem, Bool.not_false]
    · rw [inside line mem, Bool.not_false]
  induction lines generalizing group with
  | nil =>
    rw [List.append_nil, whole nonempty inside]
    rfl
  | cons line rest ih =>
    cases opens : mark.isPrefixOf line with
    | true =>
      have apart : groupsAt mark (group ++ line :: rest)
          = [group] ++ groupsAt mark ([line] ++ rest) := by
        rw [← whole nonempty inside]
        exact List.splitBy_append_cons rest fun _ _ => by rw [opens, Bool.not_true]
      rw [openedBy_opened opens, ← recordOf_singleton, ih (List.cons_ne_nil _ _) (by simp), apart,
        List.map_append]
      rfl
    | false =>
      have longer : ∀ l ∈ (group ++ [line]).tail, mark.isPrefixOf l = false := by
        rw [List.tail_append_of_ne_nil nonempty, List.forall_mem_append]
        exact ⟨inside, by simpa using opens⟩
      rw [openedBy_inside opens, ← recordOf_concat opens, ih (by simp) longer, List.append_assoc,
        List.singleton_append]

theorem openedBy_eq (mark : Text) (lines : List Text) :
    openedBy mark none lines = (groupsAt mark lines).map (recordOf mark) := by
  cases lines with
  | nil => rfl
  | cons line rest =>
    have begun : openedBy mark none (line :: rest)
        = openedBy mark (some (recordOf mark [line])) rest := by
      rw [recordOf_singleton]
      cases opens : mark.isPrefixOf line with
      | true => rw [openedBy_opened opens, Option.toList_none, List.nil_append]
      | false => simp [openedBy, after?_eq, unmarked, opens]
    rw [begun, openedBy_begun (List.cons_ne_nil _ _) (by simp), List.singleton_append]

/-! ## What is kept of the lines -/

/-- The lines that are kept stand at the numbers that are not ignored, in order. -/
theorem keptLines_eq (f : DataFormat) (lines : List Text) :
    keptLines f lines
      = ((List.range lines.length).filter (!f.ignoresLine ·)).filterMap fun i => lines[i]? := by
  induction lines using List.reverseRecOn with
  | nil => rfl
  | append_singleton rest line ih =>
    have before : ∀ i ∈ (List.range rest.length).filter (!f.ignoresLine ·),
        (rest ++ [line])[i]? = rest[i]? :=
      fun i mem => List.getElem?_append_left (List.mem_range.mp (List.mem_filter.mp mem).1)
    have last : keptLines f (rest ++ [line])
        = keptLines f rest ++ if f.ignoresLine rest.length then [] else [line] := by
      cases ignored : f.ignoresLine rest.length <;> simp [keptLines, List.zipIdx_append, ignored]
    rw [last, ih, List.length_append, List.length_singleton, List.range_succ, List.filter_append,
      List.filterMap_append, List.filterMap_congr before]
    cases ignored : f.ignoresLine rest.length <;> simp [ignored]

/-- The lines of a file that are not ignored, without the marks that open records. -/
def bareLines (f : DataFormat) (lines : List Text) : List Text :=
  match f.recordDelimiter with
  | .text mark => (keptLines f lines).map (unmarked mark)
  | _ => keptLines f lines

/-- Neither blank nor the line bond. -/
def isSolid (c : Char) : Bool := !isBlank c && c != lineBond

@[simp] theorem flatten_dropWhile_isEmpty (parts : List Text) :
    (parts.dropWhile List.isEmpty).flatten = parts.flatten := by
  induction parts with
  | nil => rfl
  | cons s rest ih =>
    cases s with
    | nil => exact ih
    | cons c s => rfl

theorem filter_recordOf (mark : Text) (group : List Text) :
    (recordOf mark group).filter isSolid = (group.map (unmarked mark)).flatten.filter isSolid := by
  rw [recordOf, filter_join (by simp [isSolid]), flatten_dropWhile_isEmpty]

theorem filter_groups (mark : Text) (groups : List (List Text)) :
    (groups.map (recordOf mark)).flatten.filter isSolid
      = (groups.flatten.map (unmarked mark)).flatten.filter isSolid := by
  induction groups with
  | nil => rfl
  | cons group rest ih =>
    rw [List.map_cons, List.flatten_cons, List.filter_append, ih, filter_recordOf,
      List.flatten_cons, List.map_append, List.flatten_append, List.filter_append]

/-- Nothing solid is lost with texts of blanks only. -/
@[simp] theorem filter_nonblank (texts : List Text) :
    (texts.filter (!isAllBlank ·)).flatten.filter isSolid = texts.flatten.filter isSolid := by
  induction texts with
  | nil => rfl
  | cons s rest ih =>
    rw [List.flatten_cons, List.filter_append, ← ih]
    cases blank : isAllBlank s with
    | false => rw [List.filter_cons_of_pos (by simp [blank]), List.flatten_cons, List.filter_append]
    | true =>
      have none : s.filter isSolid = [] := by
        rw [List.filter_eq_nil_iff]
        intro c mem
        simp [isSolid, List.all_eq_true.mp blank c mem]
      rw [List.filter_cons_of_neg (by simp [blank]), none, List.nil_append]

/-- The records of a file are its lines, all of its lines as one, or its groups, but for records of
blanks only. What is solid in the lines is in the records, in order. The lines are those at the
numbers that are not ignored. -/
theorem segments_keep_lines (f : DataFormat) (lines : List Text) :
    segments f lines
        = (match f.recordDelimiter with
          | .lineBreak => keptLines f lines
          | .endOfFile => [join [lineBond] (keptLines f lines)]
          | .text mark => (groupsAt mark (keptLines f lines)).map (recordOf mark)).filter
            (!isAllBlank ·)
      ∧ (segments f lines).flatten.filter isSolid = (bareLines f lines).flatten.filter isSolid
      ∧ keptLines f lines
        = ((List.range lines.length).filter (!f.ignoresLine ·)).filterMap fun i => lines[i]? := by
  rw [segments, filter_nonblank]
  unfold grouped bareLines
  cases f.recordDelimiter with
  | lineBreak => exact ⟨rfl, rfl, keptLines_eq f lines⟩
  | endOfFile =>
    refine ⟨rfl, ?_, keptLines_eq f lines⟩
    rw [List.flatten_singleton, filter_join (by simp [isSolid])]
  | text mark =>
    simp only [openedBy_eq]
    refine ⟨trivial, ?_, keptLines_eq f lines⟩
    rw [filter_groups, groupsAt, List.flatten_splitBy]

/-- Records that open with a mark, three lines of the file ignored. -/
def logFormat : DataFormat where
  recordDelimiter := .text "#"
  ignoredLines := LineInterval.ofList "[1,8-9]"

/-- A mark alone, empty lines after it and inside a record, and a record of blanks. -/
def logLines : List Text := ["ship", "#", "", "1 2", "#3 4", "", "5", "#6", "7", "# "]

theorem segments_keep_lines_of_logLines :
    segments logFormat logLines
        = ((groupsAt "#" (keptLines logFormat logLines)).map (recordOf "#")).filter (!isAllBlank ·)
      ∧ (segments logFormat logLines).flatten.filter isSolid = ("12345" : Text)
      ∧ keptLines logFormat logLines = (["#", "", "1 2", "#3 4", "", "5", "# "] : List Text)
      ∧ segments logFormat logLines = (["1 2", "3 4\x1e\x1e5"] : List Text) := by
  obtain ⟨cut, solid, kept⟩ := segments_keep_lines logFormat logLines
  exact ⟨cut, solid.trans (by decide +kernel), kept.trans (by decide +kernel), by decide +kernel⟩

end Record

end TrajectoryFormat
