import TrajectoryFormat.Load.Directory
import TrajectoryFormat.Proofs.FilesTaken

/-!
# Disks and their contract

What a disk may do to its files, whatever it is made of. A step in the writing of a file changes no
other entry, done or refused, and never makes or removes a directory. A file that is being written
need not show yet what it has taken; it does once it is finished. A move puts a file in its new
place at once, or changes nothing. A regular file is always removed, and nothing else is.
-/

namespace TrajectoryFormat.Load

variable {σ : Type}

/-- What stands at a place of a disk. -/
inductive Entry where
  | file (content : Content)
  | directory
deriving DecidableEq

/-- What is left at a place when a regular file is removed from it. -/
def Entry.withoutFile : Option Entry → Option Entry
  | some (.file _) => none
  | entry => entry

/-- A way to look at the states of a disk. A place is the names on the way to it. -/
structure View (σ : Type) where
  entry : σ → List Text → Option Entry
  /-- The file that is being written at a place has taken this text so far. -/
  taken : σ → List Text → Text → Prop

namespace View

variable {view : View σ} {place : List Text} {s s₁ s₂ : σ}

/-- Nothing but a regular file may have come, changed or gone, and only at one place. -/
structure Confined (view : View σ) (place : List Text) (s s' : σ) : Prop where
  here : Entry.withoutFile (view.entry s' place) = Entry.withoutFile (view.entry s place)
  others : ∀ other ≠ place, view.entry s' other = view.entry s other

theorem Confined.refl (view : View σ) (place : List Text) (s : σ) : view.Confined place s s :=
  ⟨rfl, fun _ _ => rfl⟩

theorem Confined.trans (first : view.Confined place s s₁) (second : view.Confined place s₁ s₂) :
    view.Confined place s s₂ :=
  ⟨second.here.trans first.here, fun other apart => (second.others other apart).trans
    (first.others other apart)⟩

/-- A step in the writing of the file at a place, and what holds after it where it is not
refused. -/
structure Writes (view : View σ) (place : List Text) (s : σ) (done : σ → Prop)
    (result : Except Refusal Unit × σ) :
    Prop where
  confined : view.Confined place s result.2
  done : result.1 = .ok () → done result.2

/-- How the move of a file to another place ends. -/
inductive Moves (view : View σ) (source target : List Text) (s : σ) : Except Refusal Unit × σ → Prop
  | done {s' : σ} (arrived : view.entry s' target = view.entry s source)
      (left : view.entry s' source = none)
      (others : ∀ other, other ≠ source → other ≠ target →
        view.entry s' other = view.entry s other) :
      Moves view source target s (.ok (), s')
  | refused {refusal : Refusal} {s' : σ} (same : view.entry s' = view.entry s) :
      Moves view source target s (.error refusal, s')

end View

open Load.Path View

/-- What a disk keeps to. -/
structure Disk.Lawful (disk : Disk (StateM σ)) (view : View σ) : Prop where
  created : ∀ path s, view.Writes (names path) s (view.taken · (names path) [])
    ((disk.createFile path).run s)
  appended : ∀ path more {s text}, view.taken s (names path) text →
    view.Writes (names path) s (view.taken · (names path) (text ++ more))
      ((disk.appendText path more).run s)
  finished : ∀ path {s text}, view.taken s (names path) text →
    view.Writes (names path) s
      (view.entry · (names path) = some (.file (.text text)))
      ((disk.finishFile path).run s)
  renamed : ∀ source target {s content}, names source ≠ names target →
    view.entry s (names source) = some (.file content) →
    view.Moves (names source) (names target) s ((disk.rename source target).run s)
  removed : ∀ path s, ∃ answer s', (disk.removeFile path).run s = (answer, s')
    ∧ view.entry s' (names path) = Entry.withoutFile (view.entry s (names path))
    ∧ ∀ other ≠ names path, view.entry s' other = view.entry s other

/-! ## Documents -/

/-- The text of a file of lines. -/
def textOfLines (lines : List Text) : Text := lines.flatMap (· ++ ['\n'])

namespace Disk.Lawful

variable {disk : Disk (StateM σ)} {view : View σ}

/-- Lines are appended one after the other, up to the first that is refused. -/
theorem appendLines_writes (lawful : disk.Lawful view) (path : Text) (lines : List Text) {s : σ}
    {text : Text} (taken : view.taken s (names path) text) :
    view.Writes (names path) s (view.taken · (names path) (text ++ textOfLines lines))
      ((disk.appendLines path lines).run s) := by
  induction lines generalizing s text with
  | nil => exact ⟨.refl view _ s, fun _ => by rwa [textOfLines, List.flatMap_nil, List.append_nil]⟩
  | cons line lines ih =>
    rw [appendLines, run_bind]
    have first := lawful.appended path (line ++ ['\n']) taken
    rcases answer : (disk.appendText path (line ++ ['\n'])).run s with ⟨refusal | ⟨⟩, s₁⟩ <;>
      rw [answer] at first
    · exact ⟨first.confined, nofun⟩
    · have rest := ih (first.done rfl)
      rw [List.append_assoc] at rest
      exact ⟨first.confined.trans rest.confined, rest.done⟩

/-- A file of lines is written whole where no step is refused. -/
theorem writeLines_writes (lawful : disk.Lawful view) (path : Text) (lines : List Text) (s : σ) :
    view.Writes (names path) s
      (view.entry · (names path) = some (.file (.text (textOfLines lines))))
      ((disk.writeLines path lines).run s) := by
  rw [writeLines, run_bind]
  have created := lawful.created path s
  rcases answer : (disk.createFile path).run s with ⟨refusal | ⟨⟩, s₁⟩ <;> rw [answer] at created
  · exact ⟨created.confined, nofun⟩
  · have appended := lawful.appendLines_writes path lines (created.done rfl)
    dsimp only
    rw [run_bind]
    rcases answer : (disk.appendLines path lines).run s₁ with ⟨refusal | ⟨⟩, s₂⟩ <;>
      rw [answer] at appended
    · exact ⟨created.confined.trans appended.confined, nofun⟩
    · have finished := lawful.finished path (appended.done rfl)
      exact ⟨(created.confined.trans appended.confined).trans finished.confined, finished.done⟩

end Disk.Lawful

end TrajectoryFormat.Load
