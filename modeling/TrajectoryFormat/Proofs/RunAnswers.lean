import TrajectoryFormat.Proofs.LoadAccounts

/-!
# What a run answers

The calls of a store are noted in order, without a change to the run. A run that cannot list its
files calls the store for nothing. Otherwise it stores records file by file, and unless every listed
file failed it then writes the two generated documents, once each; its result names the first that
is refused. A file that was never begun has not failed, so a run that was cancelled early does not
report that all have.
-/

namespace TrajectoryFormat.Load

open Checked Record

variable {σ α β : Type}

/-- A call of a store, with what the store answered. -/
inductive StoreCall where
  | records (name : Text) (lines : List Text) (answer : Except Refusal Nat)
  | document (name content : Text) (answer : Except Refusal Unit)

def StoreCall.isRecords : StoreCall → Bool
  | records _ _ _ => true
  | document _ _ _ => false

/-! ## Noted calls -/

/-- A world with the calls of its store so far. -/
abbrev Noted (σ : Type) := σ × List StoreCall

/-- A step that calls no store. -/
def silent (x : StateM σ α) : StateM (Noted σ) α := fun s =>
  let (answer, after) := x.run s.1
  (answer, after, s.2)

/-- A step that is noted as a call. -/
def noted (call : α → StoreCall) (x : StateM σ α) : StateM (Noted σ) α := fun s =>
  let (answer, after) := x.run s.1
  (answer, after, s.2 ++ [call answer])

/-- The same world, the calls of its store noted. -/
def World.noting (w : World σ) : World (Noted σ) where
  source :=
    { listFiles := fun root => silent (w.source.listFiles root)
      readLines := fun path => silent (w.source.readLines path) }
  store :=
    { writeRecords := fun name lines =>
        noted (.records name lines) (w.store.writeRecords name lines)
      writeText := fun name content =>
        noted (.document name content) (w.store.writeText name content) }
  asked := silent w.asked
  contents s := w.contents s.1

/-- A step that does in the noting world what `x` does, and stores nothing but records. -/
def StoresRecords (y : StateM (Noted σ) α) (x : StateM σ α) : Prop :=
  ∀ s calls, ∃ more, y.run (s, calls) = ((x.run s).1, (x.run s).2, calls ++ more)
    ∧ ∀ c ∈ more, c.isRecords = true

namespace StoresRecords

theorem pure (a : α) : StoresRecords (σ := σ) (Pure.pure a) (Pure.pure a) :=
  fun s calls => ⟨[], by rw [List.append_nil]; rfl, by simp⟩

theorem silent (x : StateM σ α) : StoresRecords (Load.silent x) x :=
  fun s calls => ⟨[], by rw [List.append_nil]; rfl, by simp⟩

theorem noted {call : α → StoreCall} (records : ∀ a, (call a).isRecords = true) (x : StateM σ α) :
    StoresRecords (Load.noted call x) x :=
  fun s _ => ⟨[call (x.run s).1], rfl, by simp [records]⟩

theorem bind {y : StateM (Noted σ) α} {x : StateM σ α} {g : α → StateM (Noted σ) β}
    {f : α → StateM σ β} (first : StoresRecords y x) (next : ∀ a, StoresRecords (g a) (f a)) :
    StoresRecords (y >>= g) (x >>= f) := by
  intro s calls
  obtain ⟨more, ran, records⟩ := first s calls
  obtain ⟨later, reran, others⟩ := next (x.run s).1 (x.run s).2 (calls ++ more)
  refine ⟨more ++ later, ?_, ?_⟩
  · rw [run_bind, run_bind, ran, ← List.append_assoc]
    exact reran
  · intro c mem
    rcases List.mem_append.mp mem with mem | mem
    · exact records c mem
    · exact others c mem

end StoresRecords

theorem loadFile_storesRecords (w : World σ) (p : Progress) (path : Text) (index : Nat) :
    StoresRecords (Progress.loadFile w.noting.source w.noting.store p path index)
      (Progress.loadFile w.source w.store p path index) := by
  unfold Progress.loadFile
  apply StoresRecords.bind (.silent _)
  rintro (refusal | lines)
  · exact .pure _
  · apply StoresRecords.bind (.noted (fun _ => rfl) _)
    rintro (refusal | n) <;> exact .pure _

theorem loadFiles_storesRecords (w : World σ) (p : Progress) (index : Nat) (files : List Text) :
    StoresRecords (Progress.loadFiles w.noting.source w.noting.store w.noting.asked p index files)
      (Progress.loadFiles w.source w.store w.asked p index files) := by
  induction files generalizing p index with
  | nil => exact .pure _
  | cons path rest ih =>
    unfold Progress.loadFiles
    apply StoresRecords.bind (.silent _)
    intro asked
    dsimp only
    split
    · exact .pure _
    · exact .bind (loadFile_storesRecords w _ path index) fun q => ih q (index + 1)

/-! ## The end of a run -/

/-- The result of a run that comes to its documents: the first that is refused counts. -/
def verdict (report : LoadReport) :
    Except Refusal Unit → Except Refusal Unit → Except LoadError LoadReport
  | .error refusal, _ => .error (.outputWrite Output.descriptorName refusal)
  | .ok (), .error refusal => .error (.outputWrite Output.metadataName refusal)
  | .ok (), .ok () => .ok report

theorem verdict_eq_ok {report r : LoadReport} {descriptor metadata : Except Refusal Unit} :
    verdict report descriptor metadata = .ok r ↔ descriptor = .ok () ∧ metadata = .ok ()
      ∧ report = r := by
  rcases descriptor with _ | ⟨⟩ <;> rcases metadata with _ | ⟨⟩ <;> simp [verdict]

theorem verdict_ne_allFilesFailed (report : LoadReport) (descriptor metadata : Except Refusal Unit)
    (n : Nat) : verdict report descriptor metadata ≠ .error (.allFilesFailed n) := by
  rcases descriptor with _ | ⟨⟩ <;> rcases metadata with _ | ⟨⟩ <;> simp [verdict]

/-- A run of which every file failed ends without a call. -/
theorem finish_allFailed (store : Store (StateM σ)) {p : Progress} {files : Nat}
    (failed : p.failedFiles = files) (s : σ) :
    (Loader.finish store p files).run s
      = (⟨.error (.allFilesFailed files), p.loader, p.log⟩, s) := by
  unfold Loader.finish
  rw [if_pos failed]
  rfl

/-- The answers of a store to the descriptor and then to the metadata, and what it is after both. -/
def documentAnswers (store : Store (StateM σ)) (report : LoadReport) (s : σ) :
    Except Refusal Unit × Except Refusal Unit × σ :=
  let descriptor := (store.writeText Output.descriptorName report.descriptor).run s
  let metadata := (store.writeText Output.metadataName report.metadata).run descriptor.2
  (descriptor.1, metadata.1, metadata.2)

/-- The lines logged about the two documents. -/
def refusalLog (descriptor metadata : Except Refusal Unit) : List LogEntry :=
  Loader.documentLog (descriptor.mapError (.outputWrite Output.descriptorName))
    ++ Loader.documentLog (metadata.mapError (.outputWrite Output.metadataName))

/-- A run of which some file did not fail writes both documents, whatever the store answers. -/
theorem finish_documents (store : Store (StateM σ)) {p : Progress} {files : Nat}
    (notAll : p.failedFiles ≠ files) (s : σ) :
    (Loader.finish store p files).run s =
      let answers := documentAnswers store (Loader.reportOf p files) s
      (⟨verdict (Loader.reportOf p files) answers.1 answers.2.1, p.loader,
        p.log ++ refusalLog answers.1 answers.2.1⟩, answers.2.2) := by
  unfold Loader.finish documentAnswers
  rw [if_neg notAll]
  dsimp only
  simp only [run_bind, Loader.writeDocument]
  rcases (store.writeText Output.descriptorName (Loader.reportOf p files).descriptor).run s
    with ⟨_ | ⟨⟩, s₁⟩ <;>
  · dsimp only [StateT.run_pure]
    rcases (store.writeText Output.metadataName (Loader.reportOf p files).metadata).run s₁
      with ⟨_ | ⟨⟩, s₂⟩ <;>
    · rw [refusalLog, ← List.append_assoc]
      rfl

theorem documentAnswers_noting (w : World σ) (report : LoadReport) (s : σ)
    (calls : List StoreCall) :
    documentAnswers w.noting.store report (s, calls) =
      let answers := documentAnswers w.store report s
      (answers.1, answers.2.1, answers.2.2,
        calls ++ [.document Output.descriptorName report.descriptor answers.1,
          .document Output.metadataName report.metadata answers.2.1]) := by
  unfold documentAnswers
  dsimp only
  rw [List.append_cons]
  rfl

/-! ## The run -/

/-- What a text document is stored as. A store that takes one keeps it under its name. -/
def World.KeepsDocuments (w : World σ) (documents : σ → Text → Option Text) : Prop :=
  ∀ name content s s', (w.store.writeText name content).run s = (.ok (), s') →
    documents s' = Function.update (documents s) name (some content)

theorem stored_documents {w : World σ} {documents : σ → Text → Option Text}
    (keeps : w.KeepsDocuments documents) (report : LoadReport) (s : σ)
    (descriptor : (documentAnswers w.store report s).1 = .ok ())
    (metadata : (documentAnswers w.store report s).2.1 = .ok ()) :
    documents (documentAnswers w.store report s).2.2 Output.descriptorName = some report.descriptor
      ∧ documents (documentAnswers w.store report s).2.2 Output.metadataName
          = some report.metadata := by
  have first := keeps _ _ _ _ (Prod.ext descriptor rfl)
  have second := keeps _ _ _ _ (Prod.ext metadata rfl)
  have apart : Output.descriptorName ≠ Output.metadataName := by decide
  constructor
  · rw [documentAnswers, second, Function.update_of_ne apart, first, Function.update_self]
  · rw [documentAnswers, second, Function.update_self]

/-- How a run over listed files ends, given what became of those that it began. -/
structure Settled (documents : σ → Text → Option Text) (l : Loader) (files : List Text)
    (outcomes : List Outcome) (run : Run) (after : σ) (calls : List StoreCall) : Prop where
  engine : run.loader.engine
    = l.engine.addSamples l.distance.between (outcomes.flatMap Outcome.samples)
  allFailed : outcomes.countP Outcome.isFailed = files.length →
    run.result = .error (.allFilesFailed files.length) ∧ run.loader.engine = l.engine
      ∧ ∀ c ∈ calls, c.isRecords = true
  documented : outcomes.countP Outcome.isFailed ≠ files.length →
    ∃ earlier report descriptor metadata,
      calls = earlier ++ [.document Output.descriptorName report.descriptor descriptor,
          .document Output.metadataName report.metadata metadata]
        ∧ (∀ c ∈ earlier, c.isRecords = true)
        ∧ run.result = verdict report descriptor metadata
        ∧ report.files = files.length
        ∧ report.failedFiles = outcomes.countP Outcome.isFailed
        ∧ report.statistics = run.loader.engine.report
        ∧ (run.result = .ok report →
            documents after Output.descriptorName = some report.descriptor
              ∧ documents after Output.metadataName = some report.metadata)
  unbegun : outcomes.length < files.length → ∀ n, run.result ≠ .error (.allFilesFailed n)

/-- How a run ends. -/
structure Answered (w : World σ) (documents : σ → Text → Option Text) (l : Loader)
    (root : Text) (s : σ) (run : Run) (after : σ) (calls : List StoreCall) : Prop where
  unlisted : ∀ refusal s₁, (w.source.listFiles root).run s = (.error refusal, s₁) →
    run.result = .error (.discovery root refusal) ∧ run.loader = l ∧ calls = []
  listed : ∀ files s₁, (w.source.listFiles root).run s = (.ok files, s₁) →
    ∃ outcomes b, FilesTaken w l.transformer 0 files ⟨l.counter, l.cancelled, s₁⟩ outcomes b
      ∧ Settled documents l files outcomes run after calls

theorem FilesTaken.length_le {w : World σ} {t : Transformer} {index : Nat} {files : List Text}
    {a b : Stage σ} {outcomes : List Outcome} (h : FilesTaken w t index files a outcomes b) :
    outcomes.length ≤ files.length := by
  induction h with
  | finished => exact Nat.le_refl _
  | cancelled => exact Nat.zero_le _
  | begun _ _ _ ih => exact Nat.succ_le_succ ih

theorem samples_of_isFailed {o : Outcome} (failed : o.isFailed = true) : o.samples = [] := by
  cases o <;> simp_all [Outcome.isFailed, Outcome.samples]

/-- Where as many outcomes failed as there are files, nothing was counted. -/
theorem samples_of_allFailed {outcomes : List Outcome} {files : List Text}
    (begun : outcomes.length ≤ files.length)
    (failed : outcomes.countP Outcome.isFailed = files.length) :
    outcomes.flatMap Outcome.samples = [] := by
  have all : outcomes.countP Outcome.isFailed = outcomes.length :=
    Nat.le_antisymm List.countP_le_length (failed ▸ begun)
  rw [List.flatMap_eq_nil_iff]
  intro o mem
  exact samples_of_isFailed (List.countP_eq_length.mp all o mem)

/-- How the end of a run settles what has been counted. -/
theorem settled_finish {w : World σ} {documents : σ → Text → Option Text}
    (keeps : w.KeepsDocuments documents) {l : Loader} {files : List Text} {outcomes : List Outcome}
    {p : Progress} (counts : Progress.Counts { loader := l } outcomes p)
    (begun : outcomes.length ≤ files.length) {calls : List StoreCall}
    (records : ∀ c ∈ calls, c.isRecords = true) (s : σ) :
    ∃ run after later, (Loader.finish w.noting.store p files.length).run (s, calls)
        = (run, after, calls ++ later)
      ∧ (Loader.finish w.store p files.length).run s = (run, after)
      ∧ Settled documents l files outcomes run after (calls ++ later) := by
  have failedFiles : p.failedFiles = outcomes.countP Outcome.isFailed :=
    counts.failed.trans (Nat.zero_add _)
  by_cases failed : p.failedFiles = files.length
  · refine ⟨_, s, [], ?_, finish_allFailed w.store failed s, counts.engine, ?_, ?_, ?_⟩
    · rw [finish_allFailed w.noting.store failed, List.append_nil]
    · intro _
      refine ⟨rfl, ?_, ?_⟩
      · change p.loader.engine = l.engine
        rw [counts.engine, samples_of_allFailed begun (failedFiles ▸ failed)]
        rfl
      · rwa [List.append_nil]
    · intro notAll
      exact absurd (failedFiles ▸ failed) notAll
    · intro fewer
      have := List.countP_le_length (p := Outcome.isFailed) (l := outcomes)
      omega
  · have ran := finish_documents w.store failed s
    have reran := finish_documents w.noting.store failed (s, calls)
    rw [documentAnswers_noting] at reran
    have stored := stored_documents keeps (Loader.reportOf p files.length) s
    generalize documentAnswers w.store (Loader.reportOf p files.length) s = answers at *
    obtain ⟨descriptor, metadata, after⟩ := answers
    refine ⟨_, after, _, reran, ran, counts.engine, ?_, ?_, ?_⟩
    · intro all
      exact absurd (failedFiles.trans all) failed
    · intro _
      refine ⟨calls, Loader.reportOf p files.length, descriptor, metadata, rfl, records, rfl, rfl,
        failedFiles, rfl, ?_⟩
      intro succeeded
      obtain ⟨rfl, rfl, _⟩ := verdict_eq_ok.mp succeeded
      exact stored rfl rfl
    · intro _ n
      exact verdict_ne_allFilesFailed _ _ _ n

/-- Every outcome of a run is accounted for, whatever the loader did before. With the calls of the
store noted the run is the same, and its result is what the listing, the files that failed and the
answers to the two documents make it. -/
theorem run_answered {w : World σ} (honest : w.Honest) {documents : σ → Text → Option Text}
    (keeps : w.KeepsDocuments documents) (l : Loader) (root : Text) (s : σ) :
    ∃ run after calls, w.noting.run l root (s, []) = (run, after, calls)
      ∧ w.run l root s = (run, after) ∧ Answered w documents l root s run after calls := by
  unfold World.run Loader.loadUntil
  simp only [run_bind]
  have unlogged : ((w.noting.source.listFiles root).run (s, ([] : List StoreCall)))
      = (((w.source.listFiles root).run s).1, ((w.source.listFiles root).run s).2, []) := rfl
  rw [unlogged]
  rcases listing : (w.source.listFiles root).run s with ⟨refusal | files, s₁⟩
  · refine ⟨_, s₁, [], rfl, rfl, ?_, ?_⟩
    · intro refusal' s' same
      cases listing.symm.trans same
      exact ⟨rfl, rfl, rfl⟩
    · intro files s' same
      cases listing.symm.trans same
  · dsimp only
    obtain ⟨outcomes, p, s₂, ran, taken, counts⟩ :=
      loadFiles_taken honest { loader := l } 0 files s₁
    obtain ⟨calls, noted, records⟩ := loadFiles_storesRecords w { loader := l } 0 files s₁ []
    rw [ran, List.nil_append] at noted
    obtain ⟨run, after, later, finished, unnoted, settled⟩ :=
      settled_finish keeps counts taken.length_le records s₂
    refine ⟨run, after, calls ++ later, ?_, ?_, ?_, ?_⟩
    · rw [run_bind, noted]
      exact finished
    · rw [run_bind, ran]
      exact unnoted
    · intro refusal s' same
      cases listing.symm.trans same
    · intro files' s' same
      cases listing.symm.trans same
      exact ⟨outcomes, _, taken, settled⟩

/-- The text of a document on a shelf. -/
def Shelf.textOf (s : Shelf) (name : Text) : Option Text :=
  (s.documents.find? (·.1 == name)).map (·.2)

theorem shelfWorld_keepsDocuments (folder : Folder) (rules : ShelfRules) (stop : Shelf → Bool) :
    (shelfWorld folder rules stop).KeepsDocuments Shelf.textOf := by
  intro name content s s' taken
  have answer : Shelf.takeText rules s name content = (.ok (), s') := taken
  unfold Shelf.takeText at answer
  split at answer
  · cases answer
  · cases answer
    exact funext fun other => Shelf.find?_put s.documents name other content

/-- The third file is too long for this shelf, the fifth is never begun, and the metadata are
refused. -/
def crowdedShelf : World Shelf :=
  shelfWorld fiveFiles { oneLineThird with rejected := [Output.metadataName] }
    fun s => 2 ≤ s.records.length

theorem run_answered_crowdedShelf :
    ∃ l, Loader.ofFormat Transformer.canonicalFormat none = .ok l
      ∧ crowdedShelf.Honest ∧ crowdedShelf.KeepsDocuments Shelf.textOf
      ∧ ∃ run after calls, crowdedShelf.noting.run l "in" ({}, []) = (run, after, calls)
        ∧ crowdedShelf.run l "in" {} = (run, after)
        ∧ Answered crowdedShelf Shelf.textOf l "in" {} run after calls := by
  obtain ⟨l, made⟩ : ∃ l, Loader.ofFormat Transformer.canonicalFormat none = .ok l :=
    exists_of_isOk (by decide +kernel)
  have honest : crowdedShelf.Honest := shelfWorld_honest _ _ _
  have keeps : crowdedShelf.KeepsDocuments Shelf.textOf := shelfWorld_keepsDocuments _ _ _
  exact ⟨l, made, honest, keeps, run_answered honest keeps l "in" {}⟩

end TrajectoryFormat.Load
