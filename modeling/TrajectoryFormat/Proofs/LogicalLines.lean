import TrajectoryFormat.Proofs.BondedLines
import TrajectoryFormat.Proofs.OpenArrays

/-!
# Logical lines once more

The logical lines of a text are words with one space between neighbours, none of them is blank or a
comment, and only the last of them may have an open array. Preparing them once more can change them
in one way: a date pattern that was opened on one physical line and closed on another has no bonds
until the lines are joined.
-/

namespace TrajectoryFormat.Description

open Text

variable {s t line : Text} {lines rest : List Text} {pending : Option Text} {c : Char}

/-! ## Lines that are passed over -/

/-- The first character that is not blank decides. -/
theorem isSkippable_eq (s : Text) :
    isSkippable s = (s.filter (!isBlank ·)).head?.all (· == commentMark) := by
  rw [isSkippable, ← flatten_words, ← words_trim, flatten_words]
  cases start : trim s with
  | nil => rfl
  | cons c t =>
    have unblank := head_trim s c (by rw [start]; rfl)
    rw [List.filter_cons_of_pos (by simp [unblank])]
    rfl

theorem isSkippable_cons (unblank : isBlank c = false) (s : Text) :
    isSkippable (c :: s) = (c == commentMark) := by
  rw [isSkippable_eq, List.filter_cons_of_pos (by simp [unblank])]
  rfl

/-- A line that begins with a letter is kept. -/
theorem isSkippable_letters {w : Text} (nonempty : w ≠ [])
    (letters : ∀ c ∈ w, continuesIdentifier c = true) (s : Text) :
    isSkippable (w ++ s) = false := by
  obtain ⟨c, t, rfl⟩ := List.exists_cons_of_ne_nil nonempty
  have letter := letters c List.mem_cons_self
  rw [List.cons_append, isSkippable_cons (isBlank_of_continuesIdentifier letter),
    beq_eq_false_iff_ne]
  rintro rfl
  exact absurd letter (by decide)

theorem isSkippable_append (some : words s ≠ []) (t : Text) :
    isSkippable (s ++ t) = isSkippable s := by
  rw [isSkippable_eq, isSkippable_eq, List.filter_append]
  cases first : s.filter (!isBlank ·) with
  | nil =>
    rw [← flatten_words, List.flatten_eq_nil_iff] at first
    obtain ⟨w, ws, split⟩ := List.exists_cons_of_ne_nil some
    have member : w ∈ words s := by rw [split]; exact List.mem_cons_self
    exact absurd (first w member) (solid_of_mem_words w member).1
  | cons c u => rfl

theorem isSkippable_congr (same : words s = words t) : isSkippable s = isSkippable t := by
  rw [isSkippable_eq, isSkippable_eq, ← flatten_words, ← flatten_words, same]

theorem words_ne_nil (kept : isSkippable s = false) : words s ≠ [] := by
  intro none
  rw [isSkippable_eq, ← flatten_words, none] at kept
  cases kept

/-- Bonding leaves the first character of a trimmed line as it is. -/
@[simp] theorem isSkippable_bondPatterns (s : Text) :
    isSkippable (bondPatterns (trim s)) = isSkippable s := by
  rw [← isSkippable_congr (words_trim s)]
  cases start : trim s with
  | nil => rw [bondPatterns_nil]
  | cons c t =>
    have unblank := head_trim s c (by rw [start]; rfl)
    obtain ⟨u, written⟩ := head_bondPatterns unblank t
    rw [written, isSkippable_cons unblank, isSkippable_cons unblank]

/-! ## Gathering line by line -/

/-- A logical line as far as the physical line `line`. -/
def resumed (pending : Option Text) (line : Text) : Text :=
  match pending with
  | none => bondPatterns (trim line)
  | some begun => begun ++ ' ' :: bondPatterns (trim line)

theorem gather_skip (skipped : isSkippable line = true) :
    gather pending (line :: rest) = gather pending rest := by
  cases pending <;> rw [gather, if_pos skipped]

theorem gather_open (kept : isSkippable line = false)
    (opens : isOpenArray (resumed pending line) = true) :
    gather pending (line :: rest) = gather (some (resumed pending line)) rest := by
  cases pending <;> (rw [gather, if_neg (by simp [kept])]; exact if_pos opens)

theorem gather_close (kept : isSkippable line = false)
    (closed : isOpenArray (resumed pending line) = false) :
    gather pending (line :: rest) = squeeze (resumed pending line) :: gather none rest := by
  cases pending <;>
  · rw [gather, if_neg (by simp [kept])]
    exact if_neg (Bool.eq_false_iff.mp closed)

/-- A line is a logical line of its own, once bonded, where it is closed and its words are evenly
spaced. -/
theorem gather_spaced (kept : isSkippable line = false) (bonds : bondPatterns line = s)
    (closed : isOpenArray s = false) (spaced : Spaced s) :
    gather none (line :: rest) = s :: gather none rest := by
  subst bonds
  have same : words (resumed none line) = words (bondPatterns line) := words_bondPatterns_trim line
  rw [gather_close kept ((isOpenArray_congr same).trans closed), squeeze, same]
  exact congrArg (· :: _) spaced.squeeze_eq

theorem isSkippable_resumed (kept : isSkippable line = false)
    (begun : ∀ s ∈ pending, isSkippable s = false) :
    isSkippable (resumed pending line) = false := by
  cases pending with
  | none => rw [resumed, isSkippable_bondPatterns, kept]
  | some s =>
    have keptBegun := begun s rfl
    rw [resumed, isSkippable_append (words_ne_nil keptBegun), keptBegun]

/-- An induction over the physical lines, as logical lines are gathered from them. -/
@[elab_as_elim]
theorem gather_induction {motive : Option Text → List Text → Prop} (pending : Option Text)
    (lines : List Text) (done : motive none []) (flush : ∀ s, motive (some s) [])
    (skip : ∀ pending line rest, isSkippable line = true → motive pending rest →
      motive pending (line :: rest))
    (opens : ∀ pending line rest, isSkippable line = false →
      isOpenArray (resumed pending line) = true →
      motive (some (resumed pending line)) rest → motive pending (line :: rest))
    (close : ∀ pending line rest, isSkippable line = false →
      isOpenArray (resumed pending line) = false →
      motive none rest → motive pending (line :: rest)) : motive pending lines := by
  induction lines generalizing pending with
  | nil =>
    cases pending with
    | none => exact done
    | some s => exact flush s
  | cons line rest ih =>
    cases skipped : isSkippable line with
    | true => exact skip pending line rest skipped (ih pending)
    | false =>
      cases opened : isOpenArray (resumed pending line) with
      | true => exact opens pending line rest skipped opened (ih _)
      | false => exact close pending line rest skipped opened (ih none)

/-- What logical lines look like. -/
structure Settled (lines : List Text) : Prop where
  spaced : ∀ l ∈ lines, Spaced l
  kept : ∀ l ∈ lines, isSkippable l = false
  closed : ∀ l ∈ lines.dropLast, isOpenArray l = false

@[simp] theorem settled_nil : Settled [] :=
  ⟨fun _ mem => absurd mem List.not_mem_nil, fun _ mem => absurd mem List.not_mem_nil,
    fun _ mem => absurd mem List.not_mem_nil⟩

theorem settled_singleton (kept : isSkippable s = false) : Settled [squeeze s] := by
  refine ⟨?_, ?_, fun _ mem => absurd mem List.not_mem_nil⟩
  · rw [List.forall_mem_singleton]
    exact spaced_squeeze (words_ne_nil kept)
  · rw [List.forall_mem_singleton, isSkippable_congr (words_squeeze s), kept]

theorem Settled.cons (kept : isSkippable s = false) (closed : isOpenArray s = false)
    (h : Settled lines) :
    Settled (squeeze s :: lines) := by
  have first := settled_singleton kept
  refine ⟨?_, ?_, fun l mem => ?_⟩
  · exact List.forall_mem_cons.mpr ⟨first.spaced _ List.mem_cons_self, h.spaced⟩
  · exact List.forall_mem_cons.mpr ⟨first.kept _ List.mem_cons_self, h.kept⟩
  · cases lines with
    | nil => exact absurd mem List.not_mem_nil
    | cons next lines =>
      rw [List.dropLast_cons_cons, List.mem_cons] at mem
      rcases mem with rfl | mem
      · rw [isOpenArray_congr (words_squeeze s), closed]
      · exact h.closed l mem

theorem Settled.tail (h : Settled (line :: rest)) : Settled rest := by
  refine ⟨fun l mem => h.spaced l (List.mem_cons_of_mem _ mem),
    fun l mem => h.kept l (List.mem_cons_of_mem _ mem), fun l mem => h.closed l ?_⟩
  cases rest with
  | nil => exact absurd mem List.not_mem_nil
  | cons next rest => exact List.mem_cons_of_mem _ mem

theorem settled_gather (begun : ∀ s ∈ pending, isSkippable s = false) :
    Settled (gather pending lines) := by
  induction pending, lines using gather_induction with
  | done => exact settled_nil
  | flush s => exact settled_singleton (begun s rfl)
  | skip pending line rest skipped ih =>
    rw [gather_skip skipped]
    exact ih begun
  | opens pending line rest kept opened ih =>
    rw [gather_open kept opened]
    apply ih
    rintro _ ⟨⟩
    exact isSkippable_resumed kept begun
  | close pending line rest kept closed ih =>
    rw [gather_close kept closed]
    exact Settled.cons (isSkippable_resumed kept begun) closed (ih nofun)

theorem settled_logicalLines (lines : List Text) : Settled (logicalLines lines) :=
  settled_gather nofun

/-! ## A second time -/

@[simp] theorem resumed_none (spaced : Spaced line) : resumed none line = bondPatterns line := by
  rw [resumed, spaced.trim_eq]

/-- Gathering does not make more lines, and an open line takes in the one after it. -/
theorem length_gather (pending : Option Text) (lines : List Text) :
    (gather pending lines).length ≤ lines.length ∨ pending.isSome = true
      ∧ (gather pending lines).length ≤ 1 := by
  induction pending, lines using gather_induction with
  | done => exact .inl (Nat.le_refl _)
  | flush s => exact .inr ⟨rfl, Nat.le_refl _⟩
  | skip pending line rest skipped ih =>
    rw [gather_skip skipped, List.length_cons]
    omega
  | opens pending line rest kept opened ih =>
    rw [gather_open kept opened, List.length_cons]
    omega
  | close pending line rest kept closed ih =>
    rw [gather_close kept closed, List.length_cons, List.length_cons]
    simp only [Option.isSome_none, Bool.false_eq_true, false_and, or_false] at ih
    omega

/-- Settled lines come back from a second preparation where their date patterns are bonded. -/
theorem logicalLines_eq_self (h : Settled lines) (bonded : ∀ l ∈ lines, bondPatterns l = l) :
    logicalLines lines = lines := by
  rw [logicalLines]
  induction lines with
  | nil => rfl
  | cons line rest ih =>
    rw [List.forall_mem_cons] at bonded
    have kept := h.kept line List.mem_cons_self
    have spaced := h.spaced line List.mem_cons_self
    have same : resumed none line = line := (resumed_none spaced).trans bonded.1
    cases opened : isOpenArray line with
    | false =>
      rw [gather_close kept (by rw [same, opened]), same, spaced.squeeze_eq, ih h.tail bonded.2]
    | true =>
      cases rest with
      | nil =>
        rw [gather_open kept (by rw [same, opened]), same, gather, spaced.squeeze_eq]
      | cons next rest =>
        rw [h.closed line (by simp)] at opened
        cases opened

theorem bondPatterns_of_logicalLines (h : Settled lines) (back : logicalLines lines = lines) :
    ∀ l ∈ lines, bondPatterns l = l := by
  rw [logicalLines] at back
  induction lines with
  | nil => exact fun l mem => absurd mem List.not_mem_nil
  | cons line rest ih =>
    have kept := h.kept line List.mem_cons_self
    have same := resumed_none (h.spaced line List.mem_cons_self)
    rw [List.forall_mem_cons]
    cases opened : isOpenArray (resumed none line) with
    | false =>
      rw [gather_close kept opened, same, List.cons.injEq] at back
      exact ⟨bondPatterns_of_squeeze back.1, ih h.tail back.2⟩
    | true =>
      rw [gather_open kept opened, same] at back
      cases rest with
      | nil =>
        rw [gather, List.cons.injEq] at back
        exact ⟨bondPatterns_of_squeeze back.1, fun l mem => absurd mem List.not_mem_nil⟩
      | cons next rest =>
        -- the open line takes in another, so there are fewer lines than before
        have fewer := length_gather (some (bondPatterns line)) (next :: rest)
        rw [back] at fewer
        simp only [List.length_cons] at fewer
        omega

/-- The logical lines come back from a second preparation where their date patterns are bonded
already, and nowhere else. -/
theorem logicalLines_twice_iff (lines : List Text) :
    logicalLines (logicalLines lines) = logicalLines lines ↔ ∀ l ∈ logicalLines lines,
      bondPatterns l = l :=
  ⟨bondPatterns_of_logicalLines (settled_logicalLines lines),
    logicalLines_eq_self (settled_logicalLines lines)⟩

/-- A date pattern with a line end in it is bonded in the second preparation only. -/
theorem logicalLines_not_idempotent :
    ¬ ∀ lines : List Text, logicalLines (logicalLines lines) = logicalLines lines := by
  intro idempotent
  have split :=
    idempotent ["_COORDINATES ARRAY(_X DECIMAL , _Y DECIMAL , _TIME DATETIME[\"yyyy-MM-dd",
    "HH:mm\"] ,) ;"]
  revert split
  decide +kernel

end TrajectoryFormat.Description
