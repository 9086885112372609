import TrajectoryFormat.Proofs.TreeDisk

/-!
# Documents stored whole

A document that a lawful disk stores is the lines of its records, and one that it refuses leaves
what stood under its name. Nothing is left of the draft but what no step may remove, and no other
entry is touched.
-/

namespace TrajectoryFormat.Load

/-! ## The place of a draft -/

namespace Path

theorem child_part (root name : Text) :
    child root (name ++ ".part") = child root name ++ ".part" := by
  have head : (name ++ ".part").head? = some '/' ↔ name.head? = some '/' := by
    cases name with
    | nil => exact ⟨nofun, nofun⟩
    | cons => rfl
  simp only [child, head]
  split
  · rfl
  · split
    · exact (List.append_assoc root name _).symm
    · exact (List.append_assoc root ('/' :: name) _).symm

theorem names_append_cons (front rest : Text) :
    names (front ++ '/' :: rest) = names front ++ names rest := by
  rw [names, List.splitOn_append_cons_self, List.filter_append]
  rfl

/-- A path and the path of its draft lead to two places. -/
theorem names_part_ne (path : Text) : names (path ++ ".part") ≠ names path := by
  intro same
  by_cases slash : '/' ∈ path
  · obtain ⟨front, rest, split⟩ := List.append_of_mem slash
    rw [split, List.append_assoc, List.cons_append, names_append_cons, names_append_cons] at same
    exact names_part_ne rest (List.append_cancel_left same)
  · have whole : '/' ∉ path ++ (".part" : Text) := by
      rw [List.mem_append, not_or]
      exact ⟨slash, by decide⟩
    rw [names, names, List.splitOn_eq_singleton slash, List.splitOn_eq_singleton whole] at same
    -- the last name of the draft is not left out, and is longer than that of the path
    have last : path ++ (".part" : Text) ∈ [path].filter fun name => !name.isEmpty
        && name != ['.'] := by
      rw [← same, List.mem_filter]
      refine ⟨List.mem_singleton_self _, ?_⟩
      cases path <;> simp
    have equal := congrArg List.length (List.mem_singleton.mp (List.mem_of_mem_filter last))
    rw [List.length_append] at equal
    exact absurd equal (by simp)
termination_by path.length
decreasing_by
  rw [split, List.length_append, List.length_cons]
  omega

end Path

open Load.Path View

variable {σ : Type} {view : View σ} {disk : Disk (StateM σ)}

/-! ## Steps in turn -/

/-- Steps in turn, up to the first that is refused. -/
def inTurn (steps : List (StateM σ (Except Refusal Unit))) : StateM σ (Except Refusal Unit) :=
  (forM steps ExceptT.mk).run

section InTurn
variable {step step' : StateM σ (Except Refusal Unit)} {s s₁ : σ} {refusal : Refusal}

/-- Two steps that come to the same are followed by the same. -/
theorem run_inTurn_congr (same : step.run s = step'.run s₁)
    (rest : List (StateM σ (Except Refusal Unit))) :
    (inTurn (step :: rest)).run s = (inTurn (step' :: rest)).run s₁ := by
  rw [inTurn, inTurn, List.forM_cons, List.forM_cons, ExceptT.run_bind, ExceptT.run_bind,
    ExceptT.run_mk, ExceptT.run_mk, run_bind, run_bind, same]

theorem run_inTurn_of_ok (done : step.run s = (.ok (), s₁))
    (rest : List (StateM σ (Except Refusal Unit))) :
    (inTurn (step :: rest)).run s = (inTurn rest).run s₁ := by
  rw [inTurn, List.forM_cons, ExceptT.run_bind, ExceptT.run_mk, run_bind, done]
  rfl

theorem run_inTurn_of_error (refused : step.run s = (.error refusal, s₁))
    (rest : List (StateM σ (Except Refusal Unit))) : (inTurn (step :: rest)).run s
      = (.error refusal, s₁) := by
  rw [inTurn, List.forM_cons, ExceptT.run_bind, ExceptT.run_mk, run_bind, refused]
  rfl

end InTurn

namespace Disk

/-- The addition of one line to the file at a path. -/
def lineStep (disk : Disk (StateM σ)) (path line : Text) : StateM σ (Except Refusal Unit) :=
  disk.appendText path (line ++ ['\n'])

/-- The steps in which a file of lines is written by way of a draft. -/
def stepsThrough (disk : Disk (StateM σ)) (draft path : Text) (lines : List Text) :
    List (StateM σ (Except Refusal Unit)) :=
  disk.createFile draft :: (lines.map (disk.lineStep draft)
    ++ [disk.finishFile draft, disk.rename draft path])

/-- Lines are taken one after the other as they are together. -/
theorem run_inTurn_lines (path : Text) (lines : List Text)
    (rest : List (StateM σ (Except Refusal Unit))) (s : σ) :
    (inTurn (lines.map (disk.lineStep path) ++ rest)).run s
      = (inTurn (disk.appendLines path lines :: rest)).run s := by
  induction lines generalizing s with
  | nil =>
    have none : (disk.appendLines path []).run s = (.ok (), s) := rfl
    rw [List.map_nil, List.nil_append, run_inTurn_of_ok none]
  | cons line lines ih =>
    rw [List.map_cons, List.cons_append, lineStep]
    rcases first : (disk.appendText path (line ++ ['\n'])).run s with ⟨refusal | ⟨⟩, s₁⟩
    · have refused : (disk.appendLines path (line :: lines)).run s = (.error refusal, s₁) := by
        rw [appendLines, run_bind, first]
        rfl
      rw [run_inTurn_of_error first, run_inTurn_of_error refused]
    · have others : (disk.appendLines path (line :: lines)).run s
          = (disk.appendLines path lines).run s₁ := by
        rw [appendLines, run_bind, first]
      rw [run_inTurn_of_ok first, ih, run_inTurn_congr others]

/-- A file is written by way of a draft in these steps. -/
theorem run_writeThrough (draft path : Text) (lines : List Text) (s : σ) :
    (disk.writeThrough draft path lines).run s
      = (inTurn (disk.stepsThrough draft path lines)).run s := by
  rw [writeThrough, writeLines, run_bind, run_bind, stepsThrough]
  rcases created : (disk.createFile draft).run s with ⟨refusal | ⟨⟩, s₁⟩
  · rw [run_inTurn_of_error created]
    rfl
  rw [run_inTurn_of_ok created, run_inTurn_lines]
  dsimp only
  rw [run_bind]
  rcases appended : (disk.appendLines draft lines).run s₁ with ⟨refusal | ⟨⟩, s₂⟩
  · rw [run_inTurn_of_error appended]
    rfl
  rw [run_inTurn_of_ok appended]
  dsimp only
  rcases finished : (disk.finishFile draft).run s₂ with ⟨refusal | ⟨⟩, s₃⟩
  · rw [run_inTurn_of_error finished]
    rfl
  rw [run_inTurn_of_ok finished]
  dsimp only
  rcases moved : (disk.rename draft path).run s₃ with ⟨refusal | ⟨⟩, s₄⟩
  · rw [run_inTurn_of_error moved]
  · rw [run_inTurn_of_ok moved]
    rfl

end Disk

/-! ## Writing by way of a draft -/

/-- How the writing of a file by way of a draft ends. -/
inductive Arrives (view : View σ) (document draft : List Text) (text : Text) (s : σ) :
    Except Refusal Unit × σ → Prop
  | whole {s' : σ} (stored : view.entry s' document = some (.file (.text text)))
      (moved : view.entry s' draft = none)
      (others : ∀ other, other ≠ document → other ≠ draft →
        view.entry s' other = view.entry s other) :
      Arrives view document draft text s (.ok (), s')
  | refused {refusal : Refusal} {s' : σ} (confined : view.Confined draft s s') :
      Arrives view document draft text s (.error refusal, s')

/-- Wherever a step is refused, only the draft has been touched. -/
theorem Disk.Lawful.writeThrough_arrives (lawful : disk.Lawful view) {draft path : Text}
    (apart : names draft ≠ names path) (lines : List Text) (s : σ) :
    Arrives view (names path) (names draft) (textOfLines lines) s
      ((disk.writeThrough draft path lines).run s) := by
  rw [Disk.writeThrough, run_bind]
  have written := lawful.writeLines_writes draft lines s
  rcases answer : (disk.writeLines draft lines).run s with ⟨refusal | ⟨⟩, s₁⟩ <;>
    rw [answer] at written
  · exact .refused written.confined
  · have standing := written.done rfl
    have moves := lawful.renamed draft path apart standing
    dsimp only
    rcases answer : (disk.rename draft path).run s₁ with ⟨refusal | ⟨⟩, s₂⟩ <;> rw [answer] at moves
    · cases moves with
      | refused same =>
        refine .refused ⟨?_, fun other notDraft => ?_⟩
        · rw [same]
          exact written.confined.here
        · rw [same]
          exact written.confined.others other notDraft
    · cases moves with
      | done arrived left others =>
        refine .whole (arrived.trans standing) left fun other notDocument notDraft => ?_
        exact (others other notDraft notDocument).trans (written.confined.others other notDraft)

/-! ## Documents -/

/-- How the storing of a document ends, by the lines it is to have, the paths of the document and
its draft, and the steps from the creation of the draft to its move. -/
inductive Settles (disk : Disk (StateM σ)) (view : View σ) (document draft : Text)
    (lines : List Text) (s : σ) :
    Except Refusal Nat × σ → Prop
  | stored {s' : σ} (done : ((inTurn (disk.stepsThrough draft document lines)).run s).1 = .ok ())
      (whole : view.entry s' (names document) = some (.file (.text (textOfLines lines))))
      (moved : view.entry s' (names draft) = none)
      (others : ∀ other, other ≠ names document → other ≠ names draft →
        view.entry s' other = view.entry s other) :
      Settles disk view document draft lines s (.ok lines.length, s')
  | refused {refusal : Refusal} {s' : σ}
      (cause : ((inTurn (disk.stepsThrough draft document lines)).run s).1 = .error refusal)
      (same : view.entry s' (names document) = view.entry s (names document))
      (cleared : view.entry s' (names draft) = Entry.withoutFile (view.entry s (names draft)))
      (others : ∀ other, other ≠ names document → other ≠ names draft →
        view.entry s' other = view.entry s other) :
      Settles disk view document draft lines s (.error refusal, s')

/-- A document is stored whole or not at all: it is stored where no step is refused, and what stood
under its name is left where one is, whichever it is and whatever stands in the way or is left from
before. -/
theorem stored_whole_or_not (lawful : disk.Lawful view) (root name : Text)
    (records : List Text) (s : σ) :
    Settles disk view (child root name) (child root (name ++ ".part")) (kept records) s
      (((disk.store root).writeRecords name records).run s) := by
  have apart : names (child root (name ++ ".part")) ≠ names (child root name) := by
    rw [child_part]
    exact names_part_ne (child root name)
  have arrives := lawful.writeThrough_arrives apart (kept records) s
  have steps := disk.run_writeThrough (child root (name ++ ".part")) (child root name)
    (kept records) s
  change Settles _ _ _ _ _ s ((disk.writeRecords root name records).run s)
  unfold Disk.writeRecords
  rw [← kept]
  dsimp only
  rw [run_bind]
  rcases answer : (disk.writeThrough (child root (name ++ ".part")) (child root name)
    (kept records)).run s
    with ⟨refusal | ⟨⟩, s₁⟩ <;> rw [answer] at arrives steps
  · cases arrives with
    | refused confined =>
      obtain ⟨_, s₂, removal, cleared, others⟩ := lawful.removed (child root (name ++ ".part")) s₁
      dsimp only
      rw [run_bind, removal]
      refine .refused (by rw [← steps]) ?_ (cleared.trans confined.here) fun other _ notDraft => ?_
      · exact (others _ apart.symm).trans (confined.others _ apart.symm)
      · exact (others other notDraft).trans (confined.others other notDraft)
  · cases arrives with
    | whole stored moved others => exact .stored (by rw [← steps]) stored moved others

/-- A directory with a document and the leftovers of a draft, and with a directory in the place of a
document. -/
def crowded : Node :=
  .directory [("out", .directory [("a", .file (.text "old\n")), ("a.part", .file (.text "left")),
    ("b", .directory [])])]

/-- What comes of a document where files may have twelve characters. -/
def storeCrowded (name : Text) (records : List Text) : Except Refusal Nat × Node :=
  (((Node.cramped 12).store "out").writeRecords name records).run crowded

theorem stored_whole_or_not_crowded :
    (Node.cramped 12).Lawful Node.treeView
      ∧ (storeCrowded "a" ["t1;0,1", "", "t2"]).1 = .ok 2
      ∧ Settles (Node.cramped 12) Node.treeView "out/a" "out/a.part" ["t1;0,1", "t2"] crowded
        (storeCrowded "a" ["t1;0,1", "", "t2"])
      ∧ (storeCrowded "a" ["t1;0,1", "t2;5,5"]).1 = .error "No space left on device (os error 28)"
      ∧ Settles (Node.cramped 12) Node.treeView "out/a" "out/a.part" ["t1;0,1", "t2;5,5"] crowded
        (storeCrowded "a" ["t1;0,1", "t2;5,5"])
      ∧ (storeCrowded "b" ["t1;0,1"]).1 = .error "Is a directory (os error 21)"
      ∧ Settles (Node.cramped 12) Node.treeView "out/b" "out/b.part" ["t1;0,1"] crowded
        (storeCrowded "b" ["t1;0,1"]) := by
  have lawful := Node.lawful_cramped 12
  refine ⟨lawful, by decide +kernel, ?_, by decide +kernel, ?_, by decide +kernel, ?_⟩
  · exact stored_whole_or_not lawful "out" "a" ["t1;0,1", "", "t2"] crowded
  · exact stored_whole_or_not lawful "out" "a" ["t1;0,1", "t2;5,5"] crowded
  · exact stored_whole_or_not lawful "out" "b" ["t1;0,1"] crowded

end TrajectoryFormat.Load
