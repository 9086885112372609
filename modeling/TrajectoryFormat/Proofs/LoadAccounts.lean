import TrajectoryFormat.Load.Memory
import TrajectoryFormat.Proofs.CanonicalReader
import TrajectoryFormat.Proofs.FilesTaken

/-!
# The accounts of loads

A loader is reached from an accepted description by runs and cancellations. Whatever its earlier
runs did, its statistics count the records that all of them stored, each once, and the report of a
run counts what that run stored and dropped.
-/

namespace TrajectoryFormat.Load

open Checked Record

variable {σ α : Type}

/-- What became of the files that a run began. There are none where the files are not listed. -/
inductive Journal (w : World σ) (l : Loader) (root : Text) (s : σ) : List Outcome → Prop
  | unlisted {e : Refusal} {s₁ : σ} (listing : (w.source.listFiles root).run s = (.error e, s₁)) :
      Journal w l root s []
  | listed {files : List Text} {s₁ : σ} {outcomes : List Outcome} {b : Stage σ}
      (listing : (w.source.listFiles root).run s = (.ok files, s₁))
      (taken : FilesTaken w l.transformer 0 files ⟨l.counter, l.cancelled, s₁⟩ outcomes b) :
      Journal w l root s outcomes

def World.run (w : World σ) (l : Loader) (root : Text) (s : σ) : Run × σ :=
  (l.loadUntil w.asked w.source w.store root).run s

/-- A loader after some runs and cancellations, with what became of the files of all its runs. -/
inductive Reachable : Loader → List Outcome → Prop
  | fresh {description : Text} {f : DataFormat} {shape? : Option OutputShape} {l : Loader}
      (compiled : (compile description).result = .ok f) (made : Loader.ofFormat f shape? = .ok l) :
      Reachable l []
  | cancelled {l : Loader} {past : List Outcome} (before : Reachable l past) :
      Reachable l.cancel past
  | loaded {σ : Type} {w : World σ} {l : Loader} {past outcomes : List Outcome}
      {root : Text} {s : σ} (before : Reachable l past) (honest : w.Honest)
      (journal : Journal w l root s outcomes) :
      Reachable (w.run l root s).1.loader (past ++ outcomes)

theorem Journal.unique {w : World σ} {l : Loader} {root : Text} {s : σ} {os os' : List Outcome}
    (h : Journal w l root s os) (h' : Journal w l root s os') : os = os' := by
  cases h with
  | unlisted listing =>
    cases h' with
    | unlisted _ => rfl
    | listed listing' _ => cases listing.symm.trans listing'
  | listed listing taken =>
    cases h' with
    | unlisted listing' => cases listing.symm.trans listing'
    | listed listing' taken' =>
      cases listing.symm.trans listing'
      exact (taken.unique taken').1

theorem Journal.points {w : World σ} {l : Loader} {root : Text} {s : σ} {outcomes : List Outcome}
    (h : Journal w l root s outcomes) :
    ((outcomes.flatMap Outcome.samples).map fun s => s.points.length).sum
      = total (Outcome.points l.transformer) outcomes := by
  cases h with
  | unlisted => rfl
  | listed _ taken => exact taken.points

/-! ## One run -/

theorem writeDocument_state (store : Store (StateM σ)) (name content : Text) (s : σ) :
    ((Loader.writeDocument store name content).run s).2
      = ((store.writeText name content).run s).2 := by
  unfold Loader.writeDocument
  rw [run_bind]
  rcases (store.writeText name content).run s with ⟨_ | _, s'⟩ <;> rfl

/-- What the end of a run leaves: the loader as it is, a report of what was counted where it
succeeds, and all names alone but those of the generated documents. -/
theorem finish_run (w : World σ) (p : Progress) (files : Nat) (s : σ) :
    ((Loader.finish w.store p files).run s).1.loader = p.loader
      ∧ (∀ report, ((Loader.finish w.store p files).run s).1.result = .ok report →
          report = Loader.reportOf p files)
      ∧ (w.Honest → ∀ name, name ≠ Output.descriptorName → name ≠ Output.metadataName →
          w.contents ((Loader.finish w.store p files).run s).2 name = w.contents s name) := by
  unfold Loader.finish
  split
  · exact ⟨rfl, nofun, fun _ _ _ _ => rfl⟩
  · dsimp only
    rw [run_bind, run_bind]
    have first := writeDocument_state w.store Output.descriptorName
      (Loader.reportOf p files).descriptor s
    generalize (Loader.writeDocument w.store Output.descriptorName
      (Loader.reportOf p files).descriptor).run s = descriptor at *
    have second := writeDocument_state w.store Output.metadataName
      (Loader.reportOf p files).metadata descriptor.2
    generalize (Loader.writeDocument w.store Output.metadataName
      (Loader.reportOf p files).metadata).run descriptor.2 = metadata at *
    refine ⟨rfl, ?_, ?_⟩
    · intro report succeeded
      obtain ⟨_, _, succeeded⟩ := bind_eq_ok.mp succeeded
      obtain ⟨_, _, succeeded⟩ := bind_eq_ok.mp succeeded
      exact (pure_eq_ok.mp succeeded).symm
    · intro honest name notDescriptor notMetadata
      calc w.contents metadata.2 name
          = w.contents descriptor.2 name := by rw [second, honest.writeText _ _ _ _ notMetadata]
        _ = w.contents s name := by rw [first, honest.writeText _ _ _ _ notDescriptor]

/-- What a run does to the loader and to what is stored, and what it reports. -/
structure Accounts (w : World σ) (l : Loader) (s : σ) (outcomes : List Outcome)
    (run : Run × σ) : Prop where
  transformer : run.1.loader.transformer = l.transformer
  engine : run.1.loader.engine
    = l.engine.addSamples l.distance.between (outcomes.flatMap Outcome.samples)
  written : ∀ report, run.1.result = .ok report →
    report.recordsWritten = total (·.lines.length) outcomes
  segmented : ∀ report, run.1.result = .ok report →
    report.recordsWritten + report.recordsDropped = total (·.records.length) outcomes
  shelved : ∀ i (o : Outcome), outcomes[i]? = some o →
    o.Shelved (w.contents s (dataFileName i)) (w.contents run.2 (dataFileName i))
  untouched : ∀ name, (∀ i < outcomes.length, name ≠ dataFileName i) →
    name ≠ Output.descriptorName →
    name ≠ Output.metadataName → w.contents run.2 name = w.contents s name

theorem run_accounts {w : World σ} (honest : w.Honest) (l : Loader) (root : Text) (s : σ) :
    ∃ outcomes, Journal w l root s outcomes ∧ Accounts w l s outcomes (w.run l root s) := by
  unfold World.run Loader.loadUntil
  rw [run_bind]
  have unread := honest.listFiles root s
  rcases listing : (w.source.listFiles root).run s with ⟨refusal | files, s₁⟩
  · rw [listing] at unread
    refine ⟨[], .unlisted listing, rfl, rfl, nofun, nofun, nofun, ?_⟩
    intro name _ _ _
    exact congrFun unread name
  · rw [listing] at unread
    dsimp only
    obtain ⟨outcomes, q, s₂, ran, taken, counts⟩ :=
      loadFiles_taken honest { loader := l } 0 files s₁
    rw [run_bind, ran]
    obtain ⟨same, report_eq, apart⟩ := finish_run w q files.length s₂
    obtain ⟨shelved, unchanged⟩ := taken.contents honest
    simp only [Nat.zero_add] at shelved unchanged
    have begun : w.contents s₁ = w.contents s := unread
    refine ⟨outcomes, .listed listing taken, ?_, ?_, ?_, ?_, ?_, ?_⟩
    · rw [same]
      exact counts.transformer
    · rw [same]
      exact counts.engine
    · intro report succeeded
      rw [report_eq report succeeded]
      exact counts.written.trans (Nat.zero_add _)
    · intro report succeeded
      rw [report_eq report succeeded]
      exact counts.segmented.trans (Nat.zero_add _)
    · intro i o here
      rw [apart honest _ (dataFileName_ne_document i).1 (dataFileName_ne_document i).2, ← begun]
      exact shelved i o here
    · intro name notData notDescriptor notMetadata
      rw [apart honest _ notDescriptor notMetadata, ← begun]
      exact unchanged name notData

/-! ## All runs -/

theorem engine_of_ofFormat {f : DataFormat} {shape? : Option OutputShape} {l : Loader}
    (made : Loader.ofFormat f shape? = .ok l) : l.engine = .empty := by
  unfold Loader.ofFormat at made
  split at made
  · obtain ⟨t, _, made⟩ := bind_eq_ok.mp made
    rw [← pure_eq_ok.mp made]
  · cases made

/-- The statistics of a loader count the records that all its runs stored, and the points of
these. -/
theorem Reachable.counts {l : Loader} {past : List Outcome} (h : Reachable l past) :
    l.engine.trajectories = total (·.lines.length) past
      ∧ l.engine.points = total (Outcome.points l.transformer) past := by
  induction h with
  | fresh _ made =>
    rw [engine_of_ofFormat made]
    exact ⟨rfl, rfl⟩
  | cancelled _ ih => exact ih
  | @loaded _ w l past outcomes root s _ honest journal ih =>
    obtain ⟨actual, found, accounts⟩ := run_accounts honest l root s
    -- what the history says of this run is what the run did
    obtain rfl := journal.unique found
    obtain ⟨trajectories, points⟩ := Statistics.Engine.addSamples_counts l.distance.between l.engine
      (outcomes.flatMap Outcome.samples)
    rw [accounts.engine, accounts.transformer, trajectories, points, ih.1, ih.2, journal.points,
      length_flatMap_samples, total_append, total_append]
    exact ⟨rfl, rfl⟩

/-- A run whose outcomes make the accounts of the loader come out even. -/
structure Balanced (w : World σ) (l : Loader) (root : Text) (s : σ) (past outcomes : List Outcome) :
    Prop where
  journal : Journal w l root s outcomes
  reachable : Reachable (w.run l root s).1.loader (past ++ outcomes)
  trajectories : (w.run l root s).1.loader.engine.trajectories
    = total (·.lines.length) (past ++ outcomes)
  points : (w.run l root s).1.loader.engine.points
    = total (Outcome.points l.transformer) (past ++ outcomes)
  accounts : Accounts w l s outcomes (w.run l root s)

/-- No record is lost or counted twice, whatever the runs before: after each run the statistics
count the lines that all runs have stored, the report counts the lines of this run, and the lines of
each file that did not fail are what is stored under its name. -/
theorem load_balanced {w : World σ} {l : Loader} {past : List Outcome}
    (reachable : Reachable l past) (honest : w.Honest) (root : Text) (s : σ) :
    ∃ outcomes, Balanced w l root s past outcomes := by
  obtain ⟨outcomes, journal, accounts⟩ := run_accounts honest l root s
  have next := Reachable.loaded reachable honest journal
  obtain ⟨trajectories, points⟩ := next.counts
  rw [accounts.transformer] at points
  exact ⟨outcomes, journal, next, trajectories, points, accounts⟩

/-! ## A world in memory -/

def Shelf.recordsOf (entries : List (Text × List Text)) (name : Text) : Option (List Text) :=
  (entries.find? (·.1 == name)).map (·.2)

/-- What is put under a name is found there, and what stands under other names is still found. -/
theorem Shelf.find?_put (entries : List (Text × α)) (name other : Text) (content : α) :
    ((put entries name content).find? (·.1 == other)).map (·.2)
      = Function.update (fun n => (entries.find? (·.1 == n)).map (·.2)) name
        (some content) other := by
  by_cases same : other = name
  · subst same
    have gone : (entries.filter (·.1 != other)).find? (·.1 == other) = none := by
      simp [List.find?_eq_none]
    rw [Function.update_self, put, List.find?_append, gone, List.find?_singleton]
    simp
  · have kept : (entries.filter (·.1 != name)).find? (·.1 == other)
        = entries.find? (·.1 == other) := by
      rw [List.find?_filter]
      congr 1
      funext entry
      by_cases here : entry.1 = other <;> simp [here, same]
    rw [Function.update_of_ne same, put, List.find?_append, kept, List.find?_singleton]
    simp [Ne.symm same]

theorem Shelf.recordsOf_put (entries : List (Text × List Text)) (name : Text)
    (records : List Text) :
    recordsOf (put entries name records)
      = Function.update (recordsOf entries) name (some records) :=
  funext fun other => find?_put entries name other records

/-- A folder and a shelf, and a cancellation once the shelf looks so. -/
def shelfWorld (folder : Folder) (rules : ShelfRules) (stop : Shelf → Bool) : World Shelf where
  source := folder.source
  store := Shelf.store rules
  asked := fun s => (stop s, s)
  contents s := Shelf.recordsOf s.records

theorem shelfWorld_honest (folder : Folder) (rules : ShelfRules) (stop : Shelf → Bool) :
    (shelfWorld folder rules stop).Honest where
  listFiles _ _ := rfl
  readLines _ _ := rfl
  asked _ := rfl
  taken := by
    intro name records s n s' h
    have answer : Shelf.takeRecords rules s name records = (.ok n, s') := h
    simp only [Shelf.takeRecords] at answer
    split at answer
    · cases answer
    · cases answer
      exact ⟨rfl, Shelf.recordsOf_put _ _ _⟩
  refused := by
    intro name records s e s' h
    have answer : Shelf.takeRecords rules s name records = (.error e, s') := h
    simp only [Shelf.takeRecords] at answer
    split at answer
    · cases answer
      exact ⟨.inl rfl, fun _ _ => rfl⟩
    · cases answer
  writeText := by
    intro name content s other _
    have answer : ((Shelf.takeText rules s name content).2).records = s.records := by
      unfold Shelf.takeText
      split <;> rfl
    exact congrArg (fun entries => Shelf.recordsOf entries other) answer

/-- Of these files the first can be stored but for one record, the second cannot be read, the third
is refused by the store, and a cancellation is asked for before the fifth. -/
def fiveFiles : Folder :=
  { files :=
      [("in/a", some ["p;1,2,3,4,5,6", "q;1,2"]), ("in/b", none),
        ("in/c", some ["r;1,1,1", "s;2,2,2"]), ("in/d", some ["u;7,8,9"]),
        ("in/e", some ["v;0,0,0"])] }

def oneLineThird : ShelfRules := { limit := some (dataFileName 2, 1) }

theorem load_balanced_fiveFiles :
    ∃ l outcomes, Loader.ofFormat Transformer.canonicalFormat none = .ok l ∧ Reachable l []
      ∧ (shelfWorld fiveFiles oneLineThird fun s => 2 ≤ s.records.length).Honest
      ∧ Balanced (shelfWorld fiveFiles oneLineThird fun s => 2 ≤ s.records.length) l "in" {} []
        outcomes := by
  obtain ⟨l, made⟩ : ∃ l, Loader.ofFormat Transformer.canonicalFormat none = .ok l :=
    exists_of_isOk (by decide +kernel)
  have reachable : Reachable l [] := .fresh Transformer.compile_canonicalDescription made
  have honest := shelfWorld_honest fiveFiles oneLineThird fun s => 2 ≤ s.records.length
  obtain ⟨outcomes, balanced⟩ := load_balanced reachable honest "in" {}
  exact ⟨l, outcomes, made, reachable, honest, balanced⟩

end TrajectoryFormat.Load
