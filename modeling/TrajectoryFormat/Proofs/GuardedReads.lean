import TrajectoryFormat.Proofs.DeltaCoding
import TrajectoryFormat.Proofs.LineFields

/-!
# Guarded reads

The same computations by places: a value is read at its place, a text is cut from place to place,
and a column is combined in place, up or down. Each read and each division says what it would break,
so a computation that comes to its result has broken nothing.
-/

namespace TrajectoryFormat

/-- What a read or a division breaks. -/
inductive Fault where
  | outOfRange (place length : Nat)
  | zeroDivisor
deriving DecidableEq

namespace Guarded

variable {α β : Type}

def item (xs : List α) (i : Nat) : Except Fault α :=
  match xs[i]? with
  | some x => .ok x
  | none => .error (.outOfRange i xs.length)

def write (xs : List α) (i : Nat) (x : α) : Except Fault (List α) :=
  if i < xs.length then .ok (xs.set i x) else .error (.outOfRange i xs.length)

def upTo (xs : List α) (i : Nat) : Except Fault (List α) :=
  if i ≤ xs.length then .ok (xs.take i) else .error (.outOfRange i xs.length)

def onFrom (xs : List α) (i : Nat) : Except Fault (List α) :=
  if i ≤ xs.length then .ok (xs.drop i) else .error (.outOfRange i xs.length)

/-- A number that another may be divided by. -/
def divisor (n : Nat) : Except Fault Nat :=
  if n = 0 then .error .zeroDivisor else .ok n

theorem item_eq {xs : List α} {i : Nat} {x : α} (here : xs[i]? = some x) : item xs i = .ok x := by
  rw [item, here]

theorem divisor_eq {n : Nat} (positive : 0 < n) : divisor n = .ok n := if_neg positive.ne'

@[simp] theorem write_mid (front : List α) (old new : α) (back : List α) :
    write (front ++ old :: back) front.length new = .ok (front ++ new :: back) := by
  rw [write, if_pos (by simp), List.set_append_right _ _ le_rfl, Nat.sub_self, List.set_cons_zero]

theorem mapM_eq {ε : Type} {f : α → Except ε β} {g : α → β} {xs : List α}
    (h : ∀ x ∈ xs, f x = .ok (g x)) : xs.mapM f = .ok (xs.map g) := by
  rw [Checked.mapM_eq_ok, List.forall₂_map_right_iff, List.forall₂_same]
  exact h

/-! ## Columns combined in place -/

/-- Goes up a column for a number of steps from place `i`. Each value is replaced by what it gives
with the value before, and the error is the column as far as this succeeds. -/
def sweepUp (combine : α → α → Option α) (values : List α) (i : Nat) :
    Nat → Except Fault (Except (List α) (List α))
  | 0 => .ok (.ok values)
  | steps + 1 => do
    let previous ← item values (i - 1)
    let current ← item values i
    match combine current previous with
    | none => pure (.error values)
    | some v =>
      let values ← write values i v
      sweepUp combine values (i + 1) steps

/-- Goes down a column from place `i` to the second. Each value is replaced by what it gives with
the value before. -/
def sweepDown (combine : α → α → Option α) (values : List α) :
    Nat → Except Fault (Option (List α))
  | 0 => .ok (some values)
  | i + 1 => do
    let previous ← item values i
    let current ← item values (i + 1)
    match combine current previous with
    | none => pure none
    | some v =>
      let values ← write values (i + 1) v
      sweepDown combine values i

def sweep (combine : α → α → Option α) (values : List α) :
    Except Fault (Except (List α) (List α)) :=
  sweepUp combine values 1 (values.length - 1)

def sweepBack (combine : α → α → Option α) (values : List α) : Except Fault (Option (List α)) :=
  sweepDown combine values (values.length - 1)

/-- A sweep that nothing stops. -/
def sweepAll (combine : α → α → α) (values : List α) : Except Fault (List α) := do
  match ← sweep (fun v previous => some (combine v previous)) values with
  | .ok swept | .error swept => pure swept

@[simp] theorem foldr_prepend_ok (front values : List α) :
    front.foldr Delta.prepend (.ok values) = .ok (front ++ values) := by
  induction front with
  | nil => rfl
  | cons v front ih => rw [List.foldr_cons, ih, Delta.prepend, List.cons_append]

@[simp] theorem foldr_prepend_error (front values : List α) :
    front.foldr Delta.prepend (.error values) = .error (front ++ values) := by
  induction front with
  | nil => rfl
  | cons v front ih => rw [List.foldr_cons, ih, Delta.prepend, List.cons_append]

section Sweeps
variable (combine : α → α → Option α)

/-- What is before the place of a sweep stays, and the rest is decoded by running combinations. -/
theorem sweepUp_eq (front : List α) (previous : α) (rest : List α) :
    sweepUp combine (front ++ previous :: rest) (front.length + 1) rest.length
      = .ok ((front ++ [previous]).foldr Delta.prepend
        (Delta.checkedSums combine previous rest)) := by
  induction rest generalizing front previous with
  | nil => rw [List.length_nil, sweepUp, Delta.checkedSums, foldr_prepend_ok, List.append_nil]
  | cons d rest ih =>
    have before : item (front ++ previous :: d :: rest) (front.length + 1 - 1) = .ok previous :=
      item_eq (by simp)
    have here : item (front ++ previous :: d :: rest) (front.length + 1) = .ok d :=
      item_eq (by simp)
    rw [List.length_cons, sweepUp, before, here, Delta.checkedSums]
    simp only [bind, Except.bind]
    cases combine d previous with
    | none =>
      simp only [foldr_prepend_error, List.append_assoc, List.cons_append, List.nil_append]
      rfl
    | some v =>
      have written := write_mid (front ++ [previous]) d v rest
      have next := ih (front ++ [previous]) v
      simp only [List.append_assoc, List.cons_append, List.nil_append, List.length_append,
        List.length_cons, List.length_nil, Nat.zero_add, List.foldr_append, List.foldr_cons,
        List.foldr_nil] at written next ⊢
      rw [written]
      exact next

/-- A sweep stays in its column and does what decoding does. -/
theorem sweep_eq (values : List α) :
    sweep combine values = .ok (Delta.checkedDecode combine values) := by
  cases values with
  | nil => rfl
  | cons v rest => exact sweepUp_eq combine [] v rest

theorem differences?_concat (first : α) (front : List α) (previous current : α) :
    Delta.differences? combine first (front ++ [previous, current])
      = (Delta.differences? combine first (front ++ [previous])).bind fun ds =>
          (combine current previous).map fun d => ds ++ [d] := by
  induction front generalizing first with
  | nil =>
    simp only [List.nil_append, Delta.differences?]
    cases combine previous first <;> cases combine current previous <;> rfl
  | cons v front ih =>
    simp only [List.cons_append, Delta.differences?, ih]
    cases combine v first with
    | none => rfl
    | some d =>
      cases Delta.differences? combine v (front ++ [previous]) <;>
        cases combine current previous <;> rfl

/-- The last difference of a column is made of its last two values, and leaves the others alone. -/
theorem encode?_concat (front : List α) (previous current : α) :
    Delta.encode? combine (front ++ [previous, current])
      = (Delta.encode? combine (front ++ [previous])).bind fun coded =>
          (combine current previous).map fun d => coded ++ [d] := by
  cases front with
  | nil =>
    simp only [List.nil_append, Delta.encode?, Delta.differences?]
    cases combine current previous <;> rfl
  | cons v front =>
    simp only [List.cons_append, Delta.encode?, differences?_concat]
    cases Delta.differences? combine v (front ++ [previous]) <;>
      cases combine current previous <;> rfl

/-- What is after the place of a sweep stays, and what is up to it is coded by differences. -/
theorem sweepDown_eq {i : Nat} {front : List α} (length : front.length = i + 1) (back : List α) :
    sweepDown combine (front ++ back) i
      = .ok ((Delta.encode? combine front).map (· ++ back)) := by
  induction i generalizing front back with
  | zero =>
    obtain ⟨v, rfl⟩ := List.length_eq_one_iff.mp length
    rfl
  | succ i ih =>
    obtain ⟨init, current, rfl⟩ :=
      (List.eq_nil_or_concat' front).resolve_left (List.ne_nil_of_length_eq_add_one length)
    rw [List.length_append, List.length_singleton, Nat.add_right_cancel_iff] at length
    obtain ⟨init, previous, rfl⟩ :=
      (List.eq_nil_or_concat' init).resolve_left (List.ne_nil_of_length_eq_add_one length)
    have place : init.length = i := by simpa using length
    have before : item (init ++ [previous] ++ [current] ++ back) i = .ok previous :=
      item_eq (by simp [← place])
    have here : item (init ++ [previous] ++ [current] ++ back) (i + 1) = .ok current :=
      item_eq (by simp [← place])
    have written := write_mid (init ++ [previous]) current
    simp only [List.append_assoc, List.cons_append, List.nil_append, length] at before here written
    simp only [List.append_assoc, List.cons_append, List.nil_append, encode?_concat]
    rw [sweepDown, before, here]
    simp only [bind, Except.bind]
    cases combine current previous with
    | none =>
      cases Delta.encode? combine (init ++ [previous]) <;> rfl
    | some v =>
      have next := ih length (v :: back)
      simp only [List.append_assoc, List.cons_append, List.nil_append] at next
      simp only [written, next]
      cases Delta.encode? combine (init ++ [previous]) with
      | none => rfl
      | some coded => simp

theorem sweepBack_eq (values : List α) :
    sweepBack combine values = .ok (Delta.encode? combine values) := by
  cases values with
  | nil => rfl
  | cons v rest =>
    have swept := sweepDown_eq combine (@List.length_cons _ v rest) []
    rw [List.append_nil] at swept
    rw [sweepBack, List.length_cons, Nat.add_sub_cancel, swept]
    cases Delta.encode? combine (v :: rest) with
    | none => rfl
    | some coded => rw [Option.map_some, List.append_nil]

end Sweeps

theorem checkedSums_some (combine : α → α → α) (previous : α) (rest : List α) :
    Delta.checkedSums (fun v before => some (combine v before)) previous rest
      = .ok (Delta.sums combine previous rest) := by
  induction rest generalizing previous with
  | nil => rfl
  | cons d rest ih =>
    simp only [Delta.checkedSums, ih]
    rfl

theorem sweepAll_eq (combine : α → α → α) (values : List α) :
    sweepAll combine values = .ok (Delta.decode combine values) := by
  rw [sweepAll, sweep_eq]
  cases values with
  | nil => rfl
  | cons v rest =>
    rw [Delta.checkedDecode, checkedSums_some]
    rfl

end Guarded

end TrajectoryFormat
