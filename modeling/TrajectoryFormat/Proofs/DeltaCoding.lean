import Mathlib.Algebra.Order.Field.Rat
import Mathlib.Algebra.Order.Ring.Abs
import Mathlib.Data.List.Forall2
import Mathlib.Tactic.Linarith
import Mathlib.Tactic.Ring
import TrajectoryFormat.Delta

/-!
# Laws of delta coding

Coding keeps the length of a column, and exact decoding undoes exact coding. Where every difference
is replaced by a number less than one away, the running sums drift apart by less than one for each
value that has been summed. A checked coding that is exact at every step gives the exact coding.
-/

namespace TrajectoryFormat.Delta

variable {α β : Type}

@[simp] theorem length_sums (add : α → α → α) (previous : α) (values : List α) :
    (sums add previous values).length = values.length := by
  induction values generalizing previous with
  | nil => rfl
  | cons d rest ih => simp only [sums, List.length_cons, ih]

@[simp] theorem length_decode (add : α → α → α) (values : List α) :
    (decode add values).length = values.length := by
  cases values with
  | nil => rfl
  | cons v rest => simp only [decode, List.length_cons, length_sums]

theorem map_sums {add : α → α → α} {add' : β → β → β} {f : α → β}
    (hf : ∀ a b, f (add a b) = add' (f a) (f b)) (previous : α) (values : List α) :
    (sums add previous values).map f = sums add' (f previous) (values.map f) := by
  induction values generalizing previous with
  | nil => rfl
  | cons d rest ih => simp only [sums, List.map_cons, ih, hf]

theorem map_decode {add : α → α → α} {add' : β → β → β} {f : α → β}
    (hf : ∀ a b, f (add a b) = add' (f a) (f b)) (values : List α) :
    (decode add values).map f = decode add' (values.map f) := by
  cases values with
  | nil => rfl
  | cons v rest => simp only [decode, List.map_cons, map_sums hf]

/-- A running sum is what its values add up to from the left. -/
theorem getElem?_sums_eq_foldl (add : α → α → α) (previous : α) {values : List α} {k : Nat}
    (bound : k < values.length) :
    (sums add previous values)[k]? = some ((values.take (k + 1)).foldl (flip add) previous) := by
  induction values generalizing previous k with
  | nil => exact absurd bound (Nat.not_lt_zero k)
  | cons d rest ih =>
    cases k with
    | zero => rfl
    | succ k =>
      rw [List.length_cons, Nat.add_lt_add_iff_right] at bound
      rw [sums, List.getElem?_cons_succ, ih _ bound, List.take_succ_cons, List.foldl_cons, flip]

theorem getElem?_decode_eq_foldl (add : α → α → α) (first : α) {rest : List α} {k : Nat}
    (bound : k ≤ rest.length) :
    (decode add (first :: rest))[k]? = some ((rest.take k).foldl (flip add) first) := by
  cases k with
  | zero => rfl
  | succ k => rw [decode, List.getElem?_cons_succ, getElem?_sums_eq_foldl add first bound]

section Exact
variable [AddCommGroup α]

@[simp] theorem sums_differences (previous : α) (values : List α) :
    sums (· + ·) previous (differences (· - ·) previous values) = values := by
  induction values generalizing previous with
  | nil => rfl
  | cons v rest ih =>
    have back : v - previous + previous = v := sub_add_cancel v previous
    simp only [differences, sums, back, ih]

/-- The running sums of the differences of a column are the column. -/
@[simp] theorem decode_encode (values : List α) :
    decode (· + ·) (encode (· - ·) values) = values := by
  cases values with
  | nil => rfl
  | cons v rest => simp only [encode, decode, sums_differences]

@[simp] theorem differences_sums (previous : α) (values : List α) :
    differences (· - ·) previous (sums (· + ·) previous values) = values := by
  induction values generalizing previous with
  | nil => rfl
  | cons d rest ih =>
    have back : d + previous - previous = d := add_sub_cancel_right d previous
    simp only [sums, differences, back, ih]

/-- The differences of the running sums of a column are the column. -/
@[simp] theorem encode_decode (values : List α) :
    encode (· - ·) (decode (· + ·) values) = values := by
  cases values with
  | nil => rfl
  | cons v rest => simp only [decode, encode, differences_sums]

@[simp] theorem foldl_flip_add (first : α) (rest : List α) :
    rest.foldl (flip (· + ·)) first = first + rest.sum := by
  induction rest generalizing first with
  | nil => simp
  | cons d rest ih => rw [List.foldl_cons, ih, flip, List.sum_cons, add_comm d, add_assoc]

/-- The running sum at a place is the sum of the values up to it. -/
theorem getElem?_decode {values : List α} {k : Nat} (bound : k < values.length) :
    (decode (· + ·) values)[k]? = some (values.take (k + 1)).sum := by
  cases values with
  | nil => exact absurd bound (Nat.not_lt_zero k)
  | cons v rest =>
    rw [getElem?_decode_eq_foldl _ _ (Nat.le_of_lt_succ bound), foldl_flip_add, List.take_succ_cons,
      List.sum_cons]

theorem forall_mem_decode_iff {P : α → Prop} {values : List α} :
    (∀ s ∈ decode (· + ·) values, P s) ↔ ∀ k < values.length, P (values.take (k + 1)).sum := by
  constructor
  · intro holds k bound
    exact holds _ (List.mem_of_getElem? (getElem?_decode bound))
  · intro holds s mem
    obtain ⟨k, here⟩ := List.getElem?_of_mem mem
    have bound : k < values.length := by
      rw [← length_decode (· + ·) values]
      exact (List.getElem?_eq_some_iff.mp here).1
    rw [getElem?_decode bound, Option.some.injEq] at here
    exact here ▸ holds k bound

end Exact

/-! ## Properties of all values -/

section Closed
variable {P : α → Prop}

theorem forall_mem_sums {add : α → α → α} (closed : ∀ a b, P a → P b → P (add a b)) {previous : α}
    {values : List α} (hp : P previous) (h : ∀ v ∈ values, P v) :
    ∀ v ∈ sums add previous values, P v := by
  induction values generalizing previous with
  | nil => simp [sums]
  | cons d rest ih =>
    have first := closed _ _ (h d List.mem_cons_self) hp
    simp only [sums, List.forall_mem_cons]
    exact ⟨first, ih first fun v hv => h v (List.mem_cons_of_mem d hv)⟩

theorem forall_mem_decode {add : α → α → α} (closed : ∀ a b, P a → P b → P (add a b))
    {values : List α} (h : ∀ v ∈ values, P v) : ∀ v ∈ decode add values, P v := by
  cases values with
  | nil => simp [decode]
  | cons v rest =>
    rw [List.forall_mem_cons] at h
    simp only [decode, List.forall_mem_cons]
    exact ⟨h.1, forall_mem_sums closed h.1 h.2⟩

theorem forall_mem_differences {sub : α → α → α} (closed : ∀ a b, P a → P b → P (sub a b))
    {previous : α} {values : List α} (hp : P previous) (h : ∀ v ∈ values, P v) :
    ∀ v ∈ differences sub previous values, P v := by
  induction values generalizing previous with
  | nil => simp [differences]
  | cons v rest ih =>
    rw [List.forall_mem_cons] at h
    simp only [differences, List.forall_mem_cons]
    exact ⟨closed _ _ h.1 hp, ih h.1 h.2⟩

theorem forall_mem_encode {sub : α → α → α} (closed : ∀ a b, P a → P b → P (sub a b))
    {values : List α} (h : ∀ v ∈ values, P v) : ∀ v ∈ encode sub values, P v := by
  cases values with
  | nil => simp [encode]
  | cons v rest =>
    rw [List.forall_mem_cons] at h
    simp only [encode, List.forall_mem_cons]
    exact ⟨h.1, forall_mem_differences closed h.1 h.2⟩

end Closed

/-! ## Drift -/

/-- A difference that stands for a scaled one is less than one away from it. -/
def Near (scale n d : ℚ) : Prop := |n - d * scale| < 1

theorem sums_drift {scale e a bound : ℚ} {ns ds : List ℚ} (h : List.Forall₂ (Near scale) ns ds)
    (start : |e - a * scale| < bound) {k : Nat} {e' a' : ℚ}
    (he : (sums (· + ·) e ns)[k]? = some e') (ha : (sums (· + ·) a ds)[k]? = some a') :
    |e' - a' * scale| < bound + (k + 1) := by
  induction h generalizing e a bound k with
  | nil => simp [sums] at he
  | @cons n d ns ds near _ ih =>
    have next : |n + e - (d + a) * scale| < bound + 1 := by
      have split : n + e - (d + a) * scale = (n - d * scale) + (e - a * scale) := by ring
      rw [split]
      have := abs_add_le (n - d * scale) (e - a * scale)
      unfold Near at near
      linarith
    cases k with
    | zero =>
      simp only [sums, List.getElem?_cons_zero, Option.some.injEq] at he ha
      subst he ha
      simpa using next
    | succ k =>
      simp only [sums, List.getElem?_cons_succ] at he ha
      have := ih next he ha
      push_cast
      linarith

/-- Running sums of near differences are within one for each value that has been summed. -/
theorem decode_drift {scale : ℚ} {ns ds : List ℚ} (h : List.Forall₂ (Near scale) ns ds) {k : Nat}
    {e a : ℚ} (he : (decode (· + ·) ns)[k]? = some e) (ha : (decode (· + ·) ds)[k]? = some a) :
    |e - a * scale| < k + 1 := by
  cases h with
  | nil => simp [decode] at he
  | @cons n d ns ds near rest =>
    cases k with
    | zero =>
      simp only [decode, List.getElem?_cons_zero, Option.some.injEq] at he ha
      subst he ha
      simpa [Near] using near
    | succ k =>
      simp only [decode, List.getElem?_cons_succ] at he ha
      have := sums_drift rest near he ha
      push_cast
      linarith

/-! ## Checked coding -/

section Checked
variable {sub? add? : α → α → Option α}

theorem encode?_cons_eq_some {v : α} {rest coded : List α} :
    encode? sub? (v :: rest) = some coded ↔
      ∃ ds, differences? sub? v rest = some ds ∧ coded = v :: ds := by
  simp only [encode?, Option.map_eq_some_iff]
  exact exists_congr fun ds => and_congr_right fun _ => eq_comm

theorem differences?_cons_eq_some {previous v : α} {rest coded : List α} :
    differences? sub? previous (v :: rest) = some coded ↔
      ∃ d ds, sub? v previous = some d ∧ differences? sub? v rest = some ds ∧ coded = d :: ds := by
  simp only [differences?, Option.bind_eq_bind, Option.bind_eq_some_iff, Option.pure_def,
    Option.some.injEq]
  constructor
  · rintro ⟨d, hd, ds, hds, rfl⟩
    exact ⟨d, ds, hd, hds, rfl⟩
  · rintro ⟨d, ds, hd, hds, rfl⟩
    exact ⟨d, hd, ds, hds, rfl⟩

theorem length_differences? {previous : α} {values coded : List α}
    (h : differences? sub? previous values = some coded) : coded.length = values.length := by
  induction values generalizing previous coded with
  | nil => cases h; rfl
  | cons v rest ih =>
    obtain ⟨d, ds, _, hds, rfl⟩ := differences?_cons_eq_some.mp h
    simp only [List.length_cons, ih hds]

theorem length_encode? {values coded : List α} (h : encode? sub? values = some coded) :
    coded.length = values.length := by
  cases values with
  | nil => cases h; rfl
  | cons v rest =>
    obtain ⟨ds, hds, rfl⟩ := encode?_cons_eq_some.mp h
    simp only [List.length_cons, length_differences? hds]

/-- What every checked difference of neighbours satisfies, all differences of the column satisfy. -/
theorem forall_mem_differences? {P : α → Prop} {previous : α} {values coded : List α}
    (h : differences? sub? previous values = some coded)
    (step : (previous :: values).IsChain fun a b => ∀ d, sub? b a = some d → P d) :
    ∀ d ∈ coded, P d := by
  induction values generalizing previous coded with
  | nil => cases h; simp
  | cons v rest ih =>
    obtain ⟨d, ds, hd, hds, rfl⟩ := differences?_cons_eq_some.mp h
    rw [List.isChain_cons_cons] at step
    rw [List.forall_mem_cons]
    exact ⟨step.1 d hd, ih hds step.2⟩

/-- Checked differences are the exact differences just where they are exact at every pair of
neighbours. -/
theorem map_differences?_iff {f : α → β} {sub : β → β → β} {previous : α} {values coded : List α}
    (h : differences? sub? previous values = some coded) :
    coded.map f = differences sub (f previous) (values.map f) ↔
      (previous :: values).IsChain fun a b => ∀ d, sub? b a = some d → f d = sub (f b) (f a) := by
  induction values generalizing previous coded with
  | nil =>
    cases h
    simp [differences]
  | cons v rest ih =>
    obtain ⟨d, ds, hd, hds, rfl⟩ := differences?_cons_eq_some.mp h
    simp only [List.isChain_cons_cons, List.map_cons, differences, List.cons.injEq, ih hds, hd,
      Option.some.injEq, forall_eq']

theorem map_encode?_iff {f : α → β} {sub : β → β → β} {values coded : List α}
    (h : encode? sub? values = some coded) :
    coded.map f = encode sub (values.map f) ↔
      values.IsChain fun a b => ∀ d, sub? b a = some d → f d = sub (f b) (f a) := by
  cases values with
  | nil =>
    cases h
    simp [encode]
  | cons v rest =>
    obtain ⟨ds, hds, rfl⟩ := encode?_cons_eq_some.mp h
    rw [← map_differences?_iff hds, List.map_cons, List.map_cons, encode, List.cons.injEq]
    exact and_iff_right rfl

theorem map_encode? {f : α → β} {sub : β → β → β} {values coded : List α}
    (h : encode? sub? values = some coded)
    (step : values.IsChain fun a b => ∀ d, sub? b a = some d → f d = sub (f b) (f a)) :
    coded.map f = encode sub (values.map f) :=
  (map_encode?_iff h).mpr step

theorem prepend_eq_ok {v : α} {r : Except (List α) (List α)} {out : List α} :
    prepend v r = .ok out ↔ ∃ vs, r = .ok vs ∧ out = v :: vs := by
  cases r <;> simp [prepend, eq_comm]

theorem checkedSums_cons_eq_ok {previous d : α} {rest out : List α} :
    checkedSums add? previous (d :: rest) = .ok out ↔
      ∃ v vs, add? d previous = some v ∧ checkedSums add? v rest = .ok vs ∧ out = v :: vs := by
  rw [checkedSums]
  cases sum : add? d previous with
  | none => simp
  | some v => simp [prepend_eq_ok]

theorem length_checkedSums {previous : α} {values out : List α}
    (h : checkedSums add? previous values = .ok out) : out.length = values.length := by
  induction values generalizing previous out with
  | nil => cases h; rfl
  | cons d rest ih =>
    obtain ⟨v, vs, _, hvs, rfl⟩ := checkedSums_cons_eq_ok.mp h
    simp only [List.length_cons, ih hvs]

theorem length_checkedDecode {values out : List α} (h : checkedDecode add? values = .ok out) :
    out.length = values.length := by
  cases values with
  | nil => cases h; rfl
  | cons v rest =>
    obtain ⟨vs, hvs, rfl⟩ := prepend_eq_ok.mp h
    simp only [List.length_cons, length_checkedSums hvs]

/-- Checked sums that are exact at every step are the exact running sums. -/
theorem map_checkedSums {f : α → β} {add : β → β → β}
    (step : ∀ d previous v, add? d previous = some v → f v = add (f d) (f previous)) {previous : α}
    {values out : List α} (h : checkedSums add? previous values = .ok out) :
    out.map f = sums add (f previous) (values.map f) := by
  induction values generalizing previous out with
  | nil => cases h; rfl
  | cons d rest ih =>
    obtain ⟨v, vs, hv, hvs, rfl⟩ := checkedSums_cons_eq_ok.mp h
    simp only [List.map_cons, sums, ← step d previous v hv, ih hvs]

theorem map_checkedDecode {f : α → β} {add : β → β → β}
    (step : ∀ d previous v, add? d previous = some v → f v = add (f d) (f previous))
    {values out : List α} (h : checkedDecode add? values = .ok out) :
    out.map f = decode add (values.map f) := by
  cases values with
  | nil => cases h; rfl
  | cons v rest =>
    obtain ⟨vs, hvs, rfl⟩ := prepend_eq_ok.mp h
    simp only [List.map_cons, decode, map_checkedSums step hvs]

/-- A column is coded where every difference of neighbours is in range. -/
theorem exists_differences?_iff {previous : α} {values : List α} :
    (∃ coded, differences? sub? previous values = some coded) ↔
      (previous :: values).IsChain fun a b => ∃ d, sub? b a = some d := by
  induction values generalizing previous with
  | nil => simp [differences?]
  | cons v rest ih =>
    rw [List.isChain_cons_cons, ← ih]
    simp only [differences?_cons_eq_some]
    constructor
    · intro ⟨coded, d, ds, hd, hds, _⟩
      exact ⟨⟨d, hd⟩, ds, hds⟩
    · intro ⟨⟨d, hd⟩, ds, hds⟩
      exact ⟨d :: ds, d, ds, hd, hds, rfl⟩

theorem exists_encode?_iff {values : List α} :
    (∃ coded, encode? sub? values = some coded) ↔
      values.IsChain fun a b => ∃ d, sub? b a = some d := by
  cases values with
  | nil => simp [encode?]
  | cons v rest =>
    rw [← exists_differences?_iff]
    simp only [encode?_cons_eq_some]
    constructor
    · intro ⟨coded, ds, hds, _⟩
      exact ⟨ds, hds⟩
    · intro ⟨ds, hds⟩
      exact ⟨v :: ds, ds, hds, rfl⟩

section Inverse
variable (inverse : ∀ v previous d, sub? v previous = some d ↔ add? d previous = some v)

include inverse

theorem differences?_eq_some_iff {previous : α} {values coded : List α} :
    differences? sub? previous values = some coded ↔
      checkedSums add? previous coded = .ok values := by
  induction values generalizing previous coded with
  | nil =>
    cases coded with
    | nil => simp [differences?, checkedSums]
    | cons d ds => simp [differences?, checkedSums_cons_eq_ok]
  | cons v rest ih =>
    cases coded with
    | nil => simp [differences?_cons_eq_some, checkedSums]
    | cons d ds =>
      simp only [differences?_cons_eq_some, checkedSums_cons_eq_ok, List.cons.injEq]
      constructor
      · intro ⟨_, _, hd, hds, rfl, rfl⟩
        exact ⟨v, rest, (inverse v previous d).mp hd, ih.mp hds, rfl, rfl⟩
      · intro ⟨_, _, hv, hvs, rfl, rfl⟩
        exact ⟨d, ds, (inverse v previous d).mpr hv, ih.mpr hvs, rfl, rfl⟩

/-- Where each checked sum undoes its checked difference and the other way round, a column is coded
as another just where the other is decoded as it. -/
theorem encode?_eq_some_iff {values coded : List α} :
    encode? sub? values = some coded ↔ checkedDecode add? coded = .ok values := by
  cases values with
  | nil =>
    cases coded with
    | nil => simp [encode?, checkedDecode]
    | cons d ds => simp [encode?, checkedDecode, prepend_eq_ok]
  | cons v rest =>
    cases coded with
    | nil => simp [encode?_cons_eq_some, checkedDecode]
    | cons d ds =>
      simp only [encode?_cons_eq_some, checkedDecode, prepend_eq_ok, List.cons.injEq]
      constructor
      · rintro ⟨_, hds, rfl, rfl⟩
        exact ⟨rest, (differences?_eq_some_iff inverse).mp hds, rfl, rfl⟩
      · rintro ⟨_, hvs, rfl, rfl⟩
        exact ⟨ds, (differences?_eq_some_iff inverse).mpr hvs, rfl, rfl⟩

end Inverse

end Checked

end TrajectoryFormat.Delta
