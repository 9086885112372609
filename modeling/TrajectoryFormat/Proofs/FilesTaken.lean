import TrajectoryFormat.Proofs.Numerals
import TrajectoryFormat.Proofs.PreparedBatch

/-!
# The files of a run

What becomes of each file that a run begins: it cannot be read, its records are refused, or they are
stored. The run of the loader takes the files in just this way, its counts are those of the
outcomes, and where the store is honest the lines of each file are what is stored under the name of
the file. The number of a data file can be read off its name, however many digits it has, so no two
files share a name.
-/

namespace TrajectoryFormat.Load

open Record

/-! ## Names of data files -/

@[simp] theorem value_fiveDigits (n : Nat) : Number.value (fiveDigits n) = n := by
  unfold Number.value fiveDigits
  rw [Nat.ofDigitChars_append, Nat.ofDigitChars_replicate_zero, Nat.mul_zero]
  exact Number.value_ofNat n

theorem dataFileName_injective : Function.Injective dataFileName := by
  intro i j h
  have digits : fiveDigits i = fiveDigits j := List.append_cancel_left (List.append_cancel_right h)
  rw [← value_fiveDigits i, digits, value_fiveDigits]

theorem dataFileName_ne_document (i : Nat) :
    dataFileName i ≠ Output.descriptorName ∧ dataFileName i ≠ Output.metadataName := by
  have first : (dataFileName i).head? = some 'd' := rfl
  constructor <;>
  · intro h
    rw [h] at first
    exact absurd first (by decide)

variable {σ : Type}

/-- What surrounds a run: where its files come from and its documents go, when a cancellation is
asked for, and what is stored under a name. -/
structure World (σ : Type) where
  source : Source (StateM σ)
  store : Store (StateM σ)
  asked : StateM σ Bool
  contents : σ → Text → Option (List Text)

/-- Only the store changes what is stored. It takes a document whole or keeps nothing of it, and
leaves all other names alone. -/
structure World.Honest (w : World σ) : Prop where
  listFiles : ∀ root s, w.contents ((w.source.listFiles root).run s).2 = w.contents s
  readLines : ∀ path s, w.contents ((w.source.readLines path).run s).2 = w.contents s
  asked : ∀ s, w.contents (w.asked.run s).2 = w.contents s
  taken : ∀ {name records s n s'}, (w.store.writeRecords name records).run s = (.ok n, s') →
    n = (kept records).length
      ∧ w.contents s' = Function.update (w.contents s) name (some (kept records))
  refused : ∀ {name records s e s'}, (w.store.writeRecords name records).run s = (.error e, s') →
    (w.contents s' name = w.contents s name ∨ w.contents s' name = none)
      ∧ ∀ other, other ≠ name → w.contents s' other = w.contents s other
  writeText : ∀ name content s other, other ≠ name →
    w.contents ((w.store.writeText name content).run s).2 other = w.contents s other

/-! ## Outcomes -/

/-- What became of a file that was begun. -/
inductive Outcome where
  | unread
  | unstored
  | stored (records : List Text) (accepted : List (Text × Transformed))

namespace Outcome

def isFailed : Outcome → Bool
  | stored _ _ => false
  | _ => true

def records : Outcome → List Text
  | stored records _ => records
  | _ => []

def lines : Outcome → List Text
  | stored _ accepted => accepted.map (·.2.line)
  | _ => []

def samples : Outcome → List (Statistics.Sample Float)
  | stored _ accepted => accepted.map (·.2.sample)
  | _ => []

def points (t : Transformer) : Outcome → Nat
  | stored _ accepted => (accepted.map fun entry => t.pointCount entry.1).sum
  | _ => 0

@[simp] theorem length_samples (o : Outcome) : o.samples.length = o.lines.length := by
  cases o <;> simp [samples, lines]

/-- What is stored under the name of a file after it, given what was stored before. -/
def Shelved (o : Outcome) (before after : Option (List Text)) : Prop :=
  if o.isFailed then after = before ∨ after = none else after = some o.lines

end Outcome

def total (f : Outcome → Nat) (outcomes : List Outcome) : Nat := (outcomes.map f).sum

@[simp] theorem length_flatMap_samples (outcomes : List Outcome) :
    (outcomes.flatMap Outcome.samples).length = total (·.lines.length) outcomes := by
  rw [List.length_flatMap, total]
  simp only [Outcome.length_samples]

@[simp] theorem total_append (f : Outcome → Nat) (as bs : List Outcome) :
    total f (as ++ bs) = total f as + total f bs := by
  simp [total]

/-! ## Files taken one after the other -/

/-- What a run goes on from: the counter of IDs, whether it is cancelled, and the state of its
world. -/
structure Stage (σ : Type) where
  counter : Nat
  cancelled : Bool
  world : σ

def Stage.heed (w : World σ) (a : Stage σ) : Stage σ :=
  { a with cancelled := a.cancelled || (w.asked.run a.world).1, world := (w.asked.run a.world).2 }

/-- What can become of file number `index`. -/
inductive FileTaken (w : World σ) (t : Transformer) (index : Nat) (path : Text) :
    Stage σ → Outcome → Stage σ → Prop
  | unread {a : Stage σ} {e : Refusal} {s : σ}
      (read : (w.source.readLines path).run a.world = (.error e, s)) :
      FileTaken w t index path a .unread { a with world := s }
  | unstored {a : Stage σ} {lines records : List Text} {s₁ : σ} {e : Refusal} {s₂ : σ}
      (read : (w.source.readLines path).run a.world = (.ok lines, s₁))
      (segmented : segments t.format lines = records)
      (write : (w.store.writeRecords (dataFileName index)
        ((accepted t a.counter records).map (·.2.line))).run s₁ = (.error e, s₂)) :
      FileTaken w t index path a .unstored
        { a with counter := counterAfter t a.counter records, world := s₂ }
  | stored {a : Stage σ} {lines records : List Text} {s₁ : σ} {n : Nat} {s₂ : σ}
      (read : (w.source.readLines path).run a.world = (.ok lines, s₁))
      (segmented : segments t.format lines = records)
      (write : (w.store.writeRecords (dataFileName index)
        ((accepted t a.counter records).map (·.2.line))).run s₁ = (.ok n, s₂)) :
      FileTaken w t index path a (.stored records (accepted t a.counter records))
        { a with counter := counterAfter t a.counter records, world := s₂ }

/-- What can become of the files from number `index` on, up to a cancellation. -/
inductive FilesTaken (w : World σ) (t : Transformer) :
    Nat → List Text → Stage σ → List Outcome → Stage σ → Prop
  | finished {index : Nat} {a : Stage σ} : FilesTaken w t index [] a [] a
  | cancelled {index : Nat} {path : Text} {rest : List Text} {a : Stage σ}
      (stop : (a.heed w).cancelled = true) : FilesTaken w t index (path :: rest) a [] (a.heed w)
  | begun {index : Nat} {path : Text} {rest : List Text} {a b c : Stage σ} {o : Outcome}
      {outcomes : List Outcome} (go : (a.heed w).cancelled = false)
      (first : FileTaken w t index path (a.heed w) o b)
      (others : FilesTaken w t (index + 1) rest b outcomes c) :
      FilesTaken w t index (path :: rest) a (o :: outcomes) c

/-! ## Outcomes are determined -/

section Determined
variable {w : World σ} {t : Transformer}

theorem FileTaken.unique {index : Nat} {path : Text} {a b c : Stage σ} {o o' : Outcome}
    (h : FileTaken w t index path a o b) (h' : FileTaken w t index path a o' c) : o = o'
      ∧ b = c := by
  cases h with
  | unread read =>
    cases h' with
    | unread read' => cases read.symm.trans read'; exact ⟨rfl, rfl⟩
    | unstored read' _ _ => cases read.symm.trans read'
    | stored read' _ _ => cases read.symm.trans read'
  | unstored read segmented write =>
    cases h' with
    | unread read' => cases read.symm.trans read'
    | unstored read' segmented' write' =>
      cases read.symm.trans read'
      subst segmented segmented'
      cases write.symm.trans write'
      exact ⟨rfl, rfl⟩
    | stored read' segmented' write' =>
      cases read.symm.trans read'
      subst segmented segmented'
      cases write.symm.trans write'
  | stored read segmented write =>
    cases h' with
    | unread read' => cases read.symm.trans read'
    | unstored read' segmented' write' =>
      cases read.symm.trans read'
      subst segmented segmented'
      cases write.symm.trans write'
    | stored read' segmented' write' =>
      cases read.symm.trans read'
      subst segmented segmented'
      cases write.symm.trans write'
      exact ⟨rfl, rfl⟩

/-- A run can take its files in one way only. -/
theorem FilesTaken.unique {index : Nat} {files : List Text} {a b c : Stage σ}
    {os os' : List Outcome} (h : FilesTaken w t index files a os b)
    (h' : FilesTaken w t index files a os' c) :
    os = os' ∧ b = c := by
  induction h generalizing os' c with
  | finished =>
    cases h'
    exact ⟨rfl, rfl⟩
  | cancelled stop =>
    cases h' with
    | cancelled _ => exact ⟨rfl, rfl⟩
    | begun go _ _ => simp [stop] at go
  | begun go first _ ih =>
    cases h' with
    | cancelled stop => simp [stop] at go
    | begun _ first' others' =>
      obtain ⟨rfl, rfl⟩ := first.unique first'
      obtain ⟨rfl, rfl⟩ := ih others'
      exact ⟨rfl, rfl⟩

theorem FileTaken.points {index : Nat} {path : Text} {a b : Stage σ} {o : Outcome}
    (h : FileTaken w t index path a o b) :
    (o.samples.map fun s => s.points.length).sum = o.points t := by
  cases h with
  | unread => rfl
  | unstored => rfl
  | stored =>
    simp only [Outcome.samples, Outcome.points, List.map_map]
    congr 1
    apply List.map_congr_left
    intro entry mem
    obtain ⟨_, prepared⟩ := prepare_of_mem_accepted mem
    exact Transformer.length_sample_eq_pointCount prepared

theorem FilesTaken.points {index : Nat} {files : List Text} {a b : Stage σ}
    {outcomes : List Outcome} (h : FilesTaken w t index files a outcomes b) :
    ((outcomes.flatMap Outcome.samples).map fun s => s.points.length).sum
      = total (Outcome.points t) outcomes := by
  induction h with
  | finished => rfl
  | cancelled => rfl
  | begun _ first _ ih =>
    rw [List.flatMap_cons, List.map_append, List.sum_append, first.points, ih, total, total,
      List.map_cons, List.sum_cons]

end Determined

/-! ## What is counted -/

namespace Progress

def stage (p : Progress) (s : σ) : Stage σ := ⟨p.loader.counter, p.loader.cancelled, s⟩

/-- Progress that took just these outcomes into account. -/
structure Counts (p : Progress) (outcomes : List Outcome) (q : Progress) : Prop where
  transformer : q.loader.transformer = p.loader.transformer
  distance : q.loader.distance = p.loader.distance
  engine : q.loader.engine
    = p.loader.engine.addSamples p.loader.distance.between (outcomes.flatMap Outcome.samples)
  written : q.recordsWritten = p.recordsWritten + total (·.lines.length) outcomes
  segmented : q.recordsWritten + q.recordsDropped
    = p.recordsWritten + p.recordsDropped + total (·.records.length) outcomes
  failed : q.failedFiles = p.failedFiles + outcomes.countP Outcome.isFailed

namespace Counts

variable {p q r : Progress} {as bs : List Outcome}

theorem refl (p : Progress) : Counts p [] p :=
  ⟨rfl, rfl, rfl, rfl, rfl, rfl⟩

theorem trans (first : Counts p as q) (second : Counts q bs r) : Counts p (as ++ bs) r where
  transformer := second.transformer.trans first.transformer
  distance := second.distance.trans first.distance
  engine := by
    rw [second.engine, first.engine, first.distance, List.flatMap_append]
    simp only [Statistics.Engine.addSamples, List.map_append, List.foldl_append]
  written := by rw [second.written, first.written, total_append, Nat.add_assoc]
  segmented := by rw [second.segmented, first.segmented, total_append, Nat.add_assoc]
  failed := by rw [second.failed, first.failed, List.countP_append, Nat.add_assoc]

end Counts

theorem counts_heed (p : Progress) (asked : Bool) : Counts p [] (p.heed asked) := by
  cases asked <;> exact ⟨rfl, rfl, rfl, rfl, rfl, rfl⟩

theorem stage_heed (w : World σ) (p : Progress) (s : σ) :
    (p.heed (w.asked.run s).1).stage (w.asked.run s).2 = (p.stage s).heed w := by
  cases h : (w.asked.run s).1 <;> simp [heed, stage, Stage.heed, Loader.cancel, h]

theorem counts_failed (p : Progress) (e : FileError) {o : Outcome}
    (ho : o = .unread ∨ o = .unstored) :
    Counts p [o] (p.failed e) := by
  rcases ho with rfl | rfl <;> exact ⟨rfl, rfl, rfl, rfl, rfl, rfl⟩

theorem counts_transformed (p : Progress) (b : Batch) : Counts p [] (p.transformed b) :=
  ⟨rfl, rfl, rfl, rfl, rfl, rfl⟩

/-- Of the records of a stored file those that were accepted are written, and the others are
dropped. -/
theorem counts_stored (p : Progress) (t : Transformer) (counter : Nat) (records : List Text) :
    Counts p [.stored records (accepted t counter records)]
      (p.stored (Batch.ofRecords t counter records) records.length
        (accepted t counter records).length) where
  transformer := rfl
  distance := rfl
  engine := by
    have batch : (Batch.ofRecords t counter records).transformed.map Transformed.sample
        = (accepted t counter records).map (·.2.sample) := by
      rw [(ofRecords_eq t counter records).1, List.map_map]
      rfl
    simp only [stored, Loader.count, batch, List.flatMap_cons, List.flatMap_nil, List.append_nil,
      Outcome.samples]
  written := by simp [stored, total, Outcome.lines]
  segmented := by
    have bound := length_accepted_le t counter records
    simp only [stored, total, Outcome.records, List.map_cons, List.map_nil, List.sum_cons,
      List.sum_nil]
    omega
  failed := rfl

end Progress

/-! ## The run -/

theorem run_bind {α β : Type} (x : StateM σ α) (f : α → StateM σ β) (s : σ) :
    (x >>= f).run s = (f (x.run s).1).run (x.run s).2 := rfl

theorem loadFile_taken {w : World σ} (honest : w.Honest) (p : Progress) (path : Text) (index : Nat)
    (s : σ) :
    ∃ o q s', (Progress.loadFile w.source w.store p path index).run s = (q, s')
      ∧ FileTaken w p.loader.transformer index path (p.stage s) o (q.stage s')
      ∧ Progress.Counts p [o] q := by
  unfold Progress.loadFile
  rw [run_bind]
  rcases read : (w.source.readLines path).run s with ⟨refusal | lines, s₁⟩
  · exact ⟨.unread, _, _, rfl, .unread read, Progress.counts_failed p _ (.inl rfl)⟩
  · dsimp only
    generalize segmented : segments p.loader.transformer.format lines = records
    obtain ⟨batch, counter⟩ := ofRecords_eq p.loader.transformer p.loader.counter records
    have texts : (Batch.ofRecords p.loader.transformer p.loader.counter records).transformed.map
        Transformed.line
          = (accepted p.loader.transformer p.loader.counter records).map (·.2.line) := by
      rw [batch, List.map_map]
      rfl
    rw [texts, run_bind]
    have begun := Progress.counts_transformed p
      (Batch.ofRecords p.loader.transformer p.loader.counter records)
    rcases write : (w.store.writeRecords (dataFileName index)
        ((accepted p.loader.transformer p.loader.counter records).map (·.2.line))).run s₁
      with ⟨refusal | n, s₂⟩
    · rw [write]
      refine ⟨.unstored, _, _, rfl, ?_, begun.trans (Progress.counts_failed _ _ (.inr rfl))⟩
      have taken := FileTaken.unstored (a := p.stage s) read segmented write
      rw [Progress.stage, ← counter] at taken
      exact taken
    · -- no line is empty, so the store answers with the number of the accepted records
      obtain ⟨count, _⟩ := honest.taken write
      rw [kept_lines, List.length_map] at count
      subst count
      rw [write]
      refine ⟨.stored records (accepted p.loader.transformer p.loader.counter records),
        _, _, rfl, ?_, begun.trans (Progress.counts_stored _ _ _ _)⟩
      have taken := FileTaken.stored (a := p.stage s) read segmented write
      rw [Progress.stage, ← counter] at taken
      exact taken

/-- The loader takes the files of a run one after the other, and counts what becomes of each. -/
theorem loadFiles_taken {w : World σ} (honest : w.Honest) (p : Progress) (index : Nat)
    (files : List Text) (s : σ) :
    ∃ outcomes q s', (Progress.loadFiles w.source w.store w.asked p index files).run s = (q, s')
      ∧ FilesTaken w p.loader.transformer index files (p.stage s) outcomes (q.stage s')
      ∧ Progress.Counts p outcomes q := by
  induction files generalizing p index s with
  | nil => exact ⟨[], p, s, rfl, .finished, .refl p⟩
  | cons path rest ih =>
    unfold Progress.loadFiles
    rw [run_bind]
    have heeded := Progress.stage_heed w p s
    have looked := Progress.counts_heed p (w.asked.run s).1
    generalize w.asked.run s = answer at *
    generalize begun : p.heed answer.1 = p' at *
    by_cases stop : p'.loader.cancelled = true
    · refine ⟨[], p', answer.2, ?_, ?_, looked⟩
      · rw [if_pos stop]
        rfl
      · rw [heeded]
        exact .cancelled (by rw [← heeded]; exact stop)
    · obtain ⟨o, q, s₁, ran, first, counted⟩ := loadFile_taken honest p' path index answer.2
      obtain ⟨outcomes, r, s₂, rerun, others, recounted⟩ := ih q (index + 1) s₁
      rw [counted.transformer] at others
      rw [looked.transformer, heeded] at first
      rw [looked.transformer] at others
      refine ⟨o :: outcomes, r, s₂, ?_, .begun ?_ first others,
        (looked.trans counted).trans recounted⟩
      · rw [if_neg stop, run_bind, ran]
        exact rerun
      · rw [← heeded]
        exact Bool.eq_false_iff.mpr stop

/-! ## What is stored -/

section Stored
variable {w : World σ} {t : Transformer}

@[simp] theorem contents_heed (honest : w.Honest) (a : Stage σ) :
    w.contents (a.heed w).world = w.contents a.world := honest.asked a.world

/-- A file changes nothing but what is stored under its own name. -/
theorem FileTaken.contents (honest : w.Honest) {index : Nat} {path : Text} {a b : Stage σ}
    {o : Outcome} (h : FileTaken w t index path a o b) :
    o.Shelved (w.contents a.world (dataFileName index)) (w.contents b.world (dataFileName index))
      ∧ ∀ name, name ≠ dataFileName index → w.contents b.world name = w.contents a.world name := by
  cases h with
  | unread read =>
    have same := honest.readLines path a.world
    rw [read] at same
    rw [same]
    exact ⟨.inl rfl, fun _ _ => rfl⟩
  | unstored read _ write =>
    have same := honest.readLines path a.world
    rw [read] at same
    rw [← same]
    exact honest.refused write
  | stored read _ write =>
    have same := honest.readLines path a.world
    rw [read] at same
    rw [(honest.taken write).2, same, kept_lines]
    exact ⟨Function.update_self _ _ _, fun _ other => Function.update_of_ne other _ _⟩

/-- Every file that was begun has what was stored of it under its own name, and all other names are
as before. -/
theorem FilesTaken.contents (honest : w.Honest) {index : Nat} {files : List Text} {a b : Stage σ}
    {outcomes : List Outcome} (h : FilesTaken w t index files a outcomes b) :
    (∀ i (o : Outcome), outcomes[i]? = some o →
      o.Shelved (w.contents a.world (dataFileName (index + i)))
        (w.contents b.world (dataFileName (index + i))))
      ∧ ∀ name, (∀ i < outcomes.length, name ≠ dataFileName (index + i)) →
        w.contents b.world name = w.contents a.world name := by
  induction h with
  | finished => simp
  | cancelled stop => simp [contents_heed honest]
  | @begun index path rest a b c o outcomes go first others ih =>
    obtain ⟨own, kept⟩ := first.contents honest
    obtain ⟨shelved, unchanged⟩ := ih
    rw [contents_heed honest] at own kept
    constructor
    · intro i o' here
      cases i with
      | zero =>
        cases here
        -- the later files have other names, so what stands under this one is not written again
        rw [Nat.add_zero, unchanged (dataFileName index)]
        · exact own
        · intro j _ same
          have := dataFileName_injective same
          omega
      | succ i =>
        have apart : dataFileName (index + (i + 1)) ≠ dataFileName index := by
          intro same
          have := dataFileName_injective same
          omega
        have later := shelved i o' here
        rw [← kept _ apart]
        rwa [Nat.add_assoc, Nat.add_comm 1 i] at later
    · intro name apart
      rw [unchanged name, kept name]
      · exact apart 0 (Nat.succ_pos _)
      · intro i bound
        have := apart (i + 1) (Nat.succ_lt_succ bound)
        rwa [Nat.add_assoc, Nat.add_comm 1 i]

end Stored

end TrajectoryFormat.Load
