import Mathlib.Data.List.Nodup
import TrajectoryFormat.Proofs.AcceptedRecord
import TrajectoryFormat.Record.Session

/-!
# Generated IDs

A call of a session either fails before its ID, which leaves the counter as it is, or comes to its
ID, which moves the counter by one. So the IDs of the calls that succeed are consecutive from the
first one on. A numeric prefix is spent where its IDs would leave 64 bits, and nothing succeeds
after that.
-/

namespace TrajectoryFormat.Record

namespace Transformer

/-- The ID with number `n`, counted from zero: a numeric prefix plus `n`, or else the prefix with `n
+ 1` after a low line. -/
def idAt (idPrefix : Text) (n : Nat) : Text :=
  match Number.read? Number.limit64 idPrefix with
  | some base => Number.ofNat (base + n)
  | none => idPrefix ++ '_' :: Number.ofNat (n + 1)

/-- The ID with number `n` would leave 64 bits. -/
def Spent (idPrefix : Text) (n : Nat) : Prop :=
  ∃ base, Number.read? Number.limit64 idPrefix = some base ∧ Number.limit64 ≤ base + n

def spentError (idPrefix : Text) (n : Nat) : RecordError :=
  .overflow (idPrefix ++ '+' :: Number.ofNat n)

theorem idAt_injective (idPrefix : Text) : Function.Injective (idAt idPrefix) := by
  have digits : Function.Injective Number.ofNat := Function.LeftInverse.injective Number.value_ofNat
  intro m n same
  unfold idAt at same
  split at same
  · exact Nat.add_left_cancel (digits same)
  · have tails := List.append_cancel_left same
    rw [List.cons.injEq] at tails
    exact Nat.succ_injective (digits tails.2)

theorem Spent.mono {idPrefix : Text} {m n : Nat} (spent : Spent idPrefix m) (le : m ≤ n) :
    Spent idPrefix n := by
  obtain ⟨base, numeric, beyond⟩ := spent
  exact ⟨base, numeric, by omega⟩

theorem generatedId_of_spent {idPrefix : Text} {n : Nat} (spent : Spent idPrefix n) :
    generatedId idPrefix n = .error (spentError idPrefix n) := by
  obtain ⟨base, numeric, beyond⟩ := spent
  rw [generatedId, numeric]
  exact if_neg (by omega)

theorem generatedId_of_not_spent {idPrefix : Text} {n : Nat} (room : ¬Spent idPrefix n) :
    generatedId idPrefix n = .ok (idAt idPrefix n) := by
  unfold generatedId idAt
  cases numeric : Number.read? Number.limit64 idPrefix with
  | none => rfl
  | some base =>
    have inside : base + n < Number.limit64 := by
      by_contra beyond
      exact room ⟨base, numeric, by omega⟩
    exact if_pos inside

/-- Whether a record comes to its ID: all else has succeeded. -/
def reachesId (t : Transformer) (record : Text) : Bool :=
  (t.body (splitValues t.format record)).isOk

/-- The line that a record has under an ID, if it comes to its ID. -/
def lineUnder? (t : Transformer) (id record : Text) : Option Text :=
  let values := splitValues t.format record
  (t.body values).toOption.map fun (coordinates, _) =>
    Text.join ";" (id :: coordinates :: t.furtherFields values)

end Transformer

namespace Session

open Transformer

variable {s : Session} {idPrefix : Text}

/-- All that a call can be answered where IDs are generated, with the counter after it. -/
inductive Answered (t : Transformer) (idPrefix : Text) (counter : Nat) (record : Text) :
    Except RecordError Text → Nat → Prop
  | failed {e : RecordError} (body : t.body (splitValues t.format record) = .error e) :
      Answered t idPrefix counter record (.error e) counter
  | refused (reached : t.reachesId record = true) (spent : Spent idPrefix counter) :
      Answered t idPrefix counter record (.error (spentError idPrefix counter)) (counter + 1)
  | numbered {line : Text} (room : ¬Spent idPrefix counter)
      (under : t.lineUnder? (idAt idPrefix counter) record = some line) :
      Answered t idPrefix counter record (.ok line) (counter + 1)

theorem prepare_answered {t : Transformer} (auto : t.format.autoIdPrefix = some idPrefix)
    (counter : Nat) (record : Text) :
    Answered t idPrefix counter record ((t.prepare counter record).1.map Transformed.line)
      (t.prepare counter record).2 := by
  cases body : t.body (splitValues t.format record) with
  | error e =>
    have before : t.prepare counter record = (.error e, counter) := by
      simp only [Transformer.prepare, body]
    rw [before]
    exact .failed body
  | ok read =>
    obtain ⟨coordinates, sample⟩ := read
    have reached : t.prepare counter record =
        ((generatedId idPrefix counter).map fun id =>
          ⟨Text.join ";" (id :: coordinates :: t.furtherFields (splitValues t.format record)),
            sample⟩,
          counter + 1) := by
      simp only [Transformer.prepare, body, resolveId, auto]
    rw [reached]
    by_cases spent : Spent idPrefix counter
    · rw [generatedId_of_spent spent]
      exact .refused (by rw [reachesId, body]; rfl) spent
    · rw [generatedId_of_not_spent spent]
      exact .numbered spent (by rw [lineUnder?, body]; rfl)

/-- A call asks the transformer to prepare its record, whatever becomes of the sample. -/
theorem call_eq (s : Session) (call : Call) :
    (s.call call).1 = (s.transformer.prepare s.counter call.record).1.map Transformed.line
      ∧ (s.call call).2.counter = (s.transformer.prepare s.counter call.record).2
      ∧ (s.call call).2.transformer = s.transformer := by
  cases call with
  | prepare record => exact ⟨rfl, rfl, rfl⟩
  | transform record =>
    rcases prepared : s.transformer.prepare s.counter record with ⟨_ | done, counter⟩ <;>
      simp [Session.call, transform, prepare, Call.record, prepared, count, Except.map]

theorem call_answered (auto : s.transformer.format.autoIdPrefix = some idPrefix) (call : Call) :
    Answered s.transformer idPrefix s.counter call.record (s.call call).1
      (s.call call).2.counter := by
  obtain ⟨line, counter, _⟩ := s.call_eq call
  rw [line, counter]
  exact prepare_answered auto s.counter call.record

/-- A step of a run: the answer of the call, and the session from which the rest goes on. -/
theorem exists_step (auto : s.transformer.format.autoIdPrefix = some idPrefix) (call : Call)
    (rest : List Call) :
    ∃ (answer : Except RecordError Text) (next : Session),
      s.run (call :: rest) = (answer :: (next.run rest).1, (next.run rest).2)
      ∧ next.transformer = s.transformer
      ∧ Answered s.transformer idPrefix s.counter call.record answer next.counter :=
  ⟨_, _, rfl, (s.call_eq call).2.2, call_answered auto call⟩

variable {calls : List Call}

/-- How many of the calls come to their ID. -/
def idsUsed (t : Transformer) (calls : List Call) : Nat :=
  calls.countP fun call => t.reachesId call.record

@[simp] theorem idsUsed_cons (t : Transformer) (call : Call) (rest : List Call) :
    idsUsed t (call :: rest) = idsUsed t rest + if t.reachesId call.record then 1 else 0 :=
  List.countP_cons

@[simp] theorem length_run (s : Session) (calls : List Call) :
    (s.run calls).1.length = calls.length := by
  induction calls generalizing s with
  | nil => rfl
  | cons call rest ih => exact congrArg Nat.succ (ih (s.call call).2)

theorem reachesId_of_lineUnder? {t : Transformer} {id record line : Text}
    (under : t.lineUnder? id record = some line) :
    t.reachesId record = true := by
  unfold lineUnder? at under
  rw [reachesId]
  cases body : t.body (splitValues t.format record) with
  | error e => simp [body, Except.toOption] at under
  | ok read => rfl

/-- The counter tells how many of the calls have come to their ID. -/
theorem counter_run (auto : s.transformer.format.autoIdPrefix = some idPrefix) (calls : List Call) :
    (s.run calls).2.counter = s.counter + idsUsed s.transformer calls := by
  induction calls generalizing s with
  | nil => rfl
  | cons call rest ih =>
    obtain ⟨answer, next, step, same, answered⟩ := exists_step auto call rest
    rw [step, idsUsed_cons]
    have counted := ih (s := next) (same ▸ auto)
    rw [same] at counted
    generalize next.counter = counter at answered counted
    cases answered with
    | failed body =>
      have unreached : s.transformer.reachesId call.record = false := by
        rw [reachesId, body]
        rfl
      simp [counted, unreached]
    | refused reached =>
      simp only [counted, reached, if_true]
      omega
    | numbered _ under =>
      simp only [counted, reachesId_of_lineUnder? under, if_true]
      omega

/-- Nothing succeeds once the prefix is spent. -/
theorem no_success_of_spent (auto : s.transformer.format.autoIdPrefix = some idPrefix)
    (spent : Spent idPrefix s.counter) (calls : List Call) :
    ∀ answer ∈ (s.run calls).1, answer.isOk = false := by
  induction calls generalizing s with
  | nil => simp [run]
  | cons call rest ih =>
    obtain ⟨answer, next, step, same, answered⟩ := exists_step auto call rest
    have later := ih (s := next) (same ▸ auto)
    rw [step, List.forall_mem_cons]
    generalize next.counter = counter at answered later
    cases answered with
    | failed => exact ⟨rfl, later spent⟩
    | refused => exact ⟨rfl, later (spent.mono (Nat.le_succ _))⟩
    | numbered room => exact absurd spent room

/-- The records of the calls that succeed, each with its line, in the order of the calls. -/
def successes (calls : List Call) (answers : List (Except RecordError Text)) : List (Text × Text) :=
  (calls.zip answers).filterMap fun (call, answer) => answer.toOption.map (call.record, ·)

theorem successes_eq_nil (calls : List Call) {answers : List (Except RecordError Text)}
    (failed : ∀ answer ∈ answers, answer.isOk = false) : successes calls answers = [] := by
  rw [successes, List.filterMap_eq_nil_iff]
  rintro ⟨call, answer⟩ mem
  cases answer with
  | error e => rfl
  | ok line =>
    exact absurd (failed _ (List.of_mem_zip mem).2) (by simp [Except.isOk, Except.toBool])

/-- The calls that succeed have the IDs from the counter on, one after the other. -/
theorem successes_run (auto : s.transformer.format.autoIdPrefix = some idPrefix) {k : Nat}
    {record line : Text} (success : (successes calls (s.run calls).1)[k]? = some (record, line)) :
    s.transformer.lineUnder? (idAt idPrefix (s.counter + k)) record = some line := by
  induction calls generalizing s k with
  | nil => simp [successes, run] at success
  | cons call rest ih =>
    obtain ⟨answer, next, step, same, answered⟩ := exists_step auto call rest
    have nextAuto : next.transformer.format.autoIdPrefix = some idPrefix := same ▸ auto
    have later := fun {k} => ih (k := k) nextAuto
    have none := fun spent => successes_eq_nil rest (no_success_of_spent nextAuto spent rest)
    rw [step, successes, List.zip_cons_cons, List.filterMap_cons, ← successes] at success
    rw [same] at later
    generalize next.counter = counter at answered later none
    cases answered with
    | failed => exact later success
    | refused _ spent =>
      simp only [Except.toOption, Option.map_none] at success
      rw [none (spent.mono (Nat.le_succ _))] at success
      simp at success
    | numbered _ under =>
      simp only [Except.toOption, Option.map_some] at success
      cases k with
      | zero =>
        cases success
        exact under
      | succ k =>
        rw [List.getElem?_cons_succ] at success
        have found := later success
        rwa [Nat.add_assoc, Nat.add_comm 1 k] at found

/-- A call that comes to its ID and fails finds the prefix spent, so that nothing succeeds after
it. -/
theorem refused_run (auto : s.transformer.format.autoIdPrefix = some idPrefix) {i : Nat}
    {call : Call} {e : RecordError} (called : calls[i]? = some call)
    (reached : s.transformer.reachesId call.record = true)
    (failed : (s.run calls).1[i]? = some (.error e)) :
    Spent idPrefix (s.counter + idsUsed s.transformer (calls.take i))
      ∧ e = spentError idPrefix (s.counter + idsUsed s.transformer (calls.take i))
      ∧ ∀ answer ∈ (s.run calls).1.drop i, answer.isOk = false := by
  induction calls generalizing s i with
  | nil => simp at called
  | cons first rest ih =>
    obtain ⟨answer, next, step, same, answered⟩ := exists_step auto first rest
    have nextAuto : next.transformer.format.autoIdPrefix = some idPrefix := same ▸ auto
    rw [step] at failed ⊢
    cases i with
    | zero =>
      cases called
      cases failed
      have stopped := fun spent => no_success_of_spent nextAuto spent rest
      generalize next.counter = counter at answered stopped
      cases answered with
      | failed body =>
        rw [reachesId, body] at reached
        cases reached
      | refused _ spent =>
        exact ⟨spent, rfl, List.forall_mem_cons.mpr ⟨rfl, stopped (spent.mono (Nat.le_succ _))⟩⟩
    | succ i =>
      rw [List.getElem?_cons_succ] at called failed
      rw [List.take_succ_cons, idsUsed_cons, List.drop_succ_cons]
      have later := ih (s := next) nextAuto called (same ▸ reached) failed
      rw [same] at later
      generalize next.counter = counter at answered later
      cases answered with
      | failed body =>
        have unreached : s.transformer.reachesId first.record = false := by
          rw [reachesId, body]
          rfl
        simpa only [unreached, Bool.false_eq_true, if_false, Nat.add_zero] using later
      | refused moved =>
        simpa only [moved, if_true, Nat.add_assoc, Nat.add_comm 1] using later
      | numbered _ under =>
        simpa only [reachesId_of_lineUnder? under, if_true, Nat.add_assoc,
          Nat.add_comm 1] using later

/-- How the calls of a new session are answered where IDs are generated. -/
structure Numbering (t : Transformer) (idPrefix : Text) (calls : List Call)
    (answers : List (Except RecordError Text)) (after : Session) : Prop where
  length_eq : answers.length = calls.length
  numbered : ∀ k record line, (successes calls answers)[k]? = some (record, line) →
    t.lineUnder? (idAt idPrefix k) record = some line
  distinct : ((List.range (successes calls answers).length).map (idAt idPrefix)).Nodup
  consumed : after.counter = idsUsed t calls
  counter_lt : after.counter < Number.limit64
  refused : ∀ i call e, calls[i]? = some call → t.reachesId call.record = true →
    answers[i]? = some (.error e) →
      ∃ base n, Number.read? Number.limit64 idPrefix = some base ∧ Number.limit64 ≤ base + n
        ∧ n = idsUsed t (calls.take i)
        ∧ e = .overflow (idPrefix ++ '+' :: Number.ofNat n)
        ∧ ∀ j answer, i ≤ j → answers[j]? = some answer → answer.isOk = false

/-- Generated IDs are consecutive and never repeat, and a numeric prefix that is spent ends them.
The counter stays within 64 bits while there are fewer calls than that. -/
theorem run_numbered (auto : s.transformer.format.autoIdPrefix = some idPrefix)
    (new : s.counter = 0) (few : calls.length < Number.limit64) :
    Numbering s.transformer idPrefix calls (s.run calls).1 (s.run calls).2 := by
  have consumed := counter_run auto calls
  rw [new, Nat.zero_add] at consumed
  refine ⟨s.length_run calls, ?_, ?_, consumed, ?_, ?_⟩
  · intro k record line success
    have under := successes_run auto success
    rwa [new, Nat.zero_add] at under
  · exact List.Nodup.map (idAt_injective idPrefix) List.nodup_range
  · rw [consumed]
    exact Nat.lt_of_le_of_lt List.countP_le_length few
  · intro i call e called reached failed
    obtain ⟨⟨base, numeric, beyond⟩, told, stopped⟩ := refused_run auto called reached failed
    rw [new, Nat.zero_add] at beyond told
    refine ⟨base, _, numeric, beyond, rfl, told, fun j answer later there => ?_⟩
    apply stopped
    rw [List.mem_iff_getElem?]
    exact ⟨j - i, by rwa [List.getElem?_drop, Nat.add_sub_cancel' later]⟩

/-- A fleet whose ships are numbered up to the end of 64 bits. -/
def fleetDescription : Text :=
  Text.join "\n"
    ["_AUTO_ID 18446744073709551614",
      "_COORDINATES ARRAY(_X INTEGER , _Y INTEGER , _TIME INTEGER ,) EOF"]

/-- Five calls, of which the second has no number and the last two have no ID left. -/
def fleetCalls : List Call :=
  [.transform "0,0,10", .prepare "0,north,10", .prepare "1,1,20", .transform "2,2,30",
    .prepare "3,3,40"]

theorem run_numbered_fleet :
    ∃ f t, (compile fleetDescription).result = .ok f ∧ ofFormat f .spatial = .ok t
      ∧ t.format.autoIdPrefix = some "18446744073709551614"
      ∧ fleetCalls.length < Number.limit64
      ∧ ((⟨t, .euclidean, 0, .empty⟩ : Session).run fleetCalls).1
        = [.ok "18446744073709551614;0,0", .error (.invalidNumber "north"),
          .ok "18446744073709551615;1,1", .error (.overflow "18446744073709551614+2"),
          .error (.overflow "18446744073709551614+3")]
      ∧ Numbering t "18446744073709551614" fleetCalls
        ((⟨t, .euclidean, 0, .empty⟩ : Session).run fleetCalls).1
        ((⟨t, .euclidean, 0, .empty⟩ : Session).run fleetCalls).2 := by
  have run : ((compile fleetDescription).result >>= fun f => ofFormat f .spatial).map
      (fun t => (t.format.autoIdPrefix, ((⟨t, .euclidean, 0, .empty⟩ : Session).run fleetCalls).1))
      = .ok (some "18446744073709551614",
          [.ok "18446744073709551614;0,0", .error (.invalidNumber "north"),
            .ok "18446744073709551615;1,1", .error (.overflow "18446744073709551614+2"),
            .error (.overflow "18446744073709551614+3")]) := by
    decide +kernel
  obtain ⟨t, transformer, outcome⟩ := Checked.map_eq_ok.mp run
  obtain ⟨f, compiled, made⟩ := Checked.bind_eq_ok.mp transformer
  obtain ⟨auto, answers⟩ := Prod.mk.inj outcome
  have few : fleetCalls.length < Number.limit64 := by decide
  exact ⟨f, t, compiled, made, auto, few, answers,
    run_numbered (s := ⟨t, .euclidean, 0, .empty⟩) auto rfl few⟩

end Session

end TrajectoryFormat.Record
