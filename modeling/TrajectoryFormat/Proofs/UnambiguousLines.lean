import TrajectoryFormat.Proofs.ItemsInTurn
import TrajectoryFormat.Proofs.LineFields

/-!
# Lines that can be read back

Fields are joined with semicolons, and the items of the coordinates with commas, without any escape.
A line says which fields it was made from where no item has a comma and at most one field has a
semicolon. Values that are cut at a semicolon, in arrays that are cut at commas, are of this kind.
-/

namespace TrajectoryFormat

/-! ## Parts that come back from their join -/

namespace Text

variable {c : Char} {p q x y : Text} {ps qs : List Text}

theorem eq_of_append_cons (absent : c ∉ p) (absent' : c ∉ q) (same : p ++ c :: x = q ++ c :: y) :
    p = q ∧ x = y := by
  have cut : cut? [c] (p ++ c :: x) = cut? [c] (q ++ c :: y) := by rw [same]
  rw [cut?_at p x absent, cut?_at q y absent', Option.some.injEq, Prod.mk.injEq] at cut
  exact cut

/-- Parts without the mark come back from the end of a text, whatever is before them. -/
theorem eq_of_append_flatMap (length : ps.length = qs.length) (absent : ∀ s ∈ ps ++ qs, c ∉ s)
    (same : x ++ ps.flatMap (c :: ·) = y ++ qs.flatMap (c :: ·)) : x = y ∧ ps = qs := by
  induction ps using List.reverseRecOn generalizing qs with
  | nil =>
    obtain rfl : qs = [] := List.length_eq_zero_iff.mp length.symm
    exact ⟨by simpa using same, rfl⟩
  | append_singleton ps p ih =>
    obtain ⟨qs, q, rfl⟩ : ∃ qs' q, qs = qs' ++ [q] := by
      refine (List.eq_nil_or_concat' qs).resolve_left ?_
      rintro rfl
      simp at length
    rw [List.length_append, List.length_append] at length
    have reversed : p.reverse ++ c :: (x ++ ps.flatMap (c :: ·)).reverse
        = q.reverse ++ c :: (y ++ qs.flatMap (c :: ·)).reverse := by
      have := congrArg List.reverse same
      simpa [List.flatMap_append] using this
    have last : c ∉ p.reverse ∧ c ∉ q.reverse := by
      simp only [List.mem_reverse]
      exact ⟨absent p (by simp), absent q (by simp)⟩
    obtain ⟨first, rest⟩ := eq_of_append_cons last.1 last.2 reversed
    obtain ⟨rfl, rfl⟩ := ih (Nat.add_right_cancel length) (fun s mem => absent s (by
      rcases List.mem_append.mp mem with mem | mem <;> simp [mem])) (List.reverse_injective rest)
    exact ⟨rfl, by rw [List.reverse_injective first]⟩

/-- As many parts come back from their join where at most one of them has the mark. -/
theorem join_inj_except (j : Nat) (length : ps.length = qs.length)
    (absent : ∀ i ≠ j, ∀ s, ps[i]? = some s ∨ qs[i]? = some s → c ∉ s)
    (same : join [c] ps = join [c] qs) : ps = qs := by
  induction ps generalizing qs j with
  | nil => exact (List.length_eq_zero_iff.mp length.symm).symm
  | cons p ps ih =>
    obtain ⟨q, qs, rfl⟩ := List.exists_cons_of_ne_nil (show qs ≠ [] by
      rintro rfl
      cases length)
    rw [List.length_cons, List.length_cons, Nat.add_right_cancel_iff] at length
    cases j with
    | zero =>
      rw [join_cons, join_cons] at same
      have rest : ∀ s ∈ ps ++ qs, c ∉ s := by
        intro s mem
        rcases List.mem_append.mp mem with mem | mem
        · obtain ⟨i, here⟩ := List.mem_iff_getElem?.mp mem
          exact absent (i + 1) (Nat.succ_ne_zero i) s (.inl here)
        · obtain ⟨i, here⟩ := List.mem_iff_getElem?.mp mem
          exact absent (i + 1) (Nat.succ_ne_zero i) s (.inr here)
      obtain ⟨rfl, rfl⟩ := eq_of_append_flatMap length rest same
      rfl
    | succ j =>
      have first : c ∉ p ∧ c ∉ q :=
        ⟨absent 0 (Nat.succ_ne_zero j).symm p (.inl rfl),
          absent 0 (Nat.succ_ne_zero j).symm q (.inr rfl)⟩
      have others : ∀ i ≠ j, ∀ s, ps[i]? = some s ∨ qs[i]? = some s → c ∉ s := by
        intro i other s here
        exact absent (i + 1) (by omega) s (by simpa using here)
      cases ps with
      | nil =>
        obtain rfl : qs = [] := List.length_eq_zero_iff.mp length.symm
        rw [join_singleton, join_singleton] at same
        rw [same]
      | cons p' ps =>
        obtain ⟨q', qs, rfl⟩ := List.exists_cons_of_ne_nil (show qs ≠ [] by
          rintro rfl
          cases length)
        rw [join_cons_cons, join_cons_cons, List.append_assoc, List.append_assoc] at same
        obtain ⟨rfl, rest⟩ := eq_of_append_cons first.1 first.2 same
        rw [ih j length others rest]

/-- Parts without the mark come back from their join. -/
theorem join_inj (nonempty : ps ≠ [] ∧ qs ≠ []) (absent : ∀ s ∈ ps ++ qs, c ∉ s)
    (same : join [c] ps = join [c] qs) : ps = qs := by
  have back : ∀ {ps : List Text}, ps ≠ [] → (∀ s ∈ ps, c ∉ s) →
      Record.itemsFrom [[c]] 0 (join [c] ps) = ps :=
    fun some free => Record.itemsFrom_join (fun k => by simp [Record.delimiterAt,
      Nat.mod_one]) some free 0
  rw [List.forall_mem_append] at absent
  rw [← back nonempty.1 absent.1, same, back nonempty.2 absent.2]

end Text

namespace Record.Transformer

open Checked Description

variable {f : DataFormat} {shape : OutputShape} {t : Transformer} {counter counter' : Nat}
  {record record' : Text} {done done' : Transformed}

/-! ## What a line says -/

/-- What a line is made from: the ID, the items of every point, and the further values. -/
structure Emission where
  id : Text
  rows : List (List Text)
  further : List Text
deriving DecidableEq

namespace Emission

/-- The fields of a line. -/
def fields (e : Emission) : List Text := e.id :: Text.join "," e.rows.flatten :: e.further

/-- Nothing in two lines can be taken for a separator: no item of a point has a comma, and at most
one field, the same in both lines, has a semicolon. -/
structure Separable (e e' : Emission) : Prop where
  items : ∀ s ∈ e.rows.flatten ++ e'.rows.flatten, ',' ∉ s
  texts : ∃ j : Nat, ∀ s ∈ e.fields.zipIdx ++ e'.fields.zipIdx, s.2 ≠ j → ';' ∉ s.1

/-- Rows of items, all of the same size. -/
structure Framed (size : Nat) (e : Emission) : Prop where
  nonempty : e.rows ≠ []
  rows : ∀ row ∈ e.rows, row.length = size

theorem Framed.items_ne_nil {size : Nat} {e : Emission} (framed : Framed size e)
    (positive : 0 < size) :
    e.rows.flatten ≠ [] := by
  obtain ⟨row, rest, split⟩ := List.exists_cons_of_ne_nil framed.nonempty
  have length := framed.rows row (by rw [split]; exact List.mem_cons_self)
  rw [split, List.flatten_cons]
  intro none
  rw [(List.append_eq_nil_iff.mp none).1, List.length_nil] at length
  exact absurd positive (by rw [← length]; exact Nat.lt_irrefl 0)

/-- Lines with as many fields, and rows of the same size, tell their emissions apart. -/
theorem eq_of_line_eq {size : Nat} (positive : 0 < size) {e e' : Emission} (framed : Framed size e)
    (framed' : Framed size e') (count : e.further.length = e'.further.length)
    (separable : e.Separable e') (same : Text.join ";" e.fields = Text.join ";" e'.fields) :
    e = e' := by
  obtain ⟨j, absent⟩ := separable.texts
  have same_fields : e.fields = e'.fields := by
    refine Text.join_inj_except j (by simp [fields, count]) (fun i other s here => ?_) same
    refine absent (s, i) ?_ other
    rw [List.mem_append, List.mk_mem_zipIdx_iff_getElem?, List.mk_mem_zipIdx_iff_getElem?]
    exact here
  obtain ⟨id, rows, further⟩ := e
  obtain ⟨id', rows', further'⟩ := e'
  simp only [fields, List.cons.injEq] at same_fields
  obtain ⟨rfl, coordinates, rfl⟩ := same_fields
  have items : rows.flatten = rows'.flatten :=
    Text.join_inj ⟨framed.items_ne_nil positive, framed'.items_ne_nil positive⟩
      separable.items coordinates
  have grouped : groupsOf size rows.flatten = rows := groupsOf_flatten positive framed.rows
  have grouped' : groupsOf size rows'.flatten = rows' := groupsOf_flatten positive framed'.rows
  rw [← grouped, items, grouped']

end Emission

/-- What the line of a record is made from. -/
def emission (t : Transformer) (counter : Nat) (record : Text) : Except RecordError Emission := do
  let values := splitValues t.format record
  let points ← t.points values
  let axes ← t.readAxes points
  let xs ← axes.x.compressed t.scale
  let ys ← axes.y.compressed t.scale
  let times ← axes.time.compressed t.scale
  let id ← (t.resolveId values counter).1
  let rows := (points.zip (xs.zip (ys.zip times))).map fun (point, x, y, time) =>
    t.pointFields x y time point
  pure ⟨id, rows, t.furtherFields values⟩

theorem pointColumns_pos (t : Transformer) : 0 < t.pointColumns.length := by
  rw [pointColumns, List.length_append, List.length_map]
  cases t.shape <;> exact Nat.lt_add_right _ (by decide)

section Accounts
variable (a : t.Account counter record done)

def Account.emission : Emission := ⟨a.id, a.rows, t.furtherFields (splitValues t.format record)⟩

theorem Account.emission_eq : t.emission counter record = .ok a.emission := by
  have axes : t.readAxes a.points = .ok ⟨a.raw.x, a.raw.y, a.time⟩ :=
    readAxes_eq_ok.mpr ⟨a.raw, a.time, a.raw_eq, a.time_eq, rfl⟩
  simp only [Transformer.emission, bind_eq_ok, pure_eq_ok]
  exact ⟨_, a.points_eq, _, axes, _, a.columns_eq .x, _, a.columns_eq .y, _, a.columns_eq .time, _,
    a.id_eq, rfl⟩

theorem Account.line_eq_fields : done.line = Text.join ";" a.emission.fields := by
  rw [a.line_eq, a.coordinateFields_eq]
  rfl

theorem Account.framed (made : ofFormat f shape = .ok t) :
    a.emission.Framed t.pointColumns.length := by
  constructor
  · intro none
    have count := a.length_rows
    rw [show a.rows = [] from none] at count
    exact points_ne_nil a.points_eq (List.length_eq_zero_iff.mp count.symm)
  · intro row mem
    rw [show row ∈ a.emission.rows ↔ row ∈ a.rows from Iff.rfl, a.rows_eq made] at mem
    obtain ⟨k, _, rfl⟩ := List.mem_map.mp mem
    rw [List.length_map]

@[simp] theorem Account.length_further : a.emission.further.length = t.furtherColumns.length := by
  rw [emission, furtherFields_eq t (length_splitValues _ _), List.length_map]

end Accounts

/-- Accepted records with the same line are made from the same where nothing can be taken for a
separator. -/
theorem Account.emission_eq_of_line_eq (made : ofFormat f shape = .ok t)
    (a : t.Account counter record done) (a' : t.Account counter' record' done')
    (same : done.line = done'.line) (separable : a.emission.Separable a'.emission) :
    a.emission = a'.emission := by
  rw [a.line_eq_fields, a'.line_eq_fields] at same
  exact Emission.eq_of_line_eq t.pointColumns_pos (a.framed made) (a'.framed made)
    (a.length_further.trans a'.length_further.symm) separable same

/-- Records with the same line have the same ID, the same items for every point, and the same
further values, where nothing in them can be taken for a separator. -/
theorem line_unambiguous (made : ofFormat f shape = .ok t)
    (accepted : (t.prepare counter record).1 = .ok done)
    (accepted' : (t.prepare counter' record').1 = .ok done') (same : done.line = done'.line) :
    ∃ e e', t.emission counter record = .ok e ∧ t.emission counter' record' = .ok e'
      ∧ done.line = Text.join ";" e.fields ∧ (e.Separable e' → e = e') := by
  obtain ⟨a⟩ := exists_account accepted
  obtain ⟨a'⟩ := exists_account accepted'
  exact ⟨a.emission, a'.emission, a.emission_eq, a'.emission_eq, a.line_eq_fields,
    a.emission_eq_of_line_eq made a' same⟩

/-- A description with a value that goes on to the end of the record. -/
def notesDescription : Text :=
  Text.join "\n"
    ["_ID STRING ;", "_COORDINATES ARRAY(_X DECIMAL , _Y DECIMAL , _TIME INTEGER ,) ;",
      "name STRING ,", "note STRING EOF"]

/-- The line of a record, and what it is made from. -/
def outcome (t : Transformer) (record : Text) :
    Except RecordError Text × Except RecordError Emission :=
  ((t.prepare 0 record).1.map Transformed.line, t.emission 0 record)

theorem outcome_eq_ok {t : Transformer} {record line : Text} {e : Emission}
    (reached : t.outcome record = (.ok line, .ok e)) :
    ∃ done, (t.prepare 0 record).1 = .ok done ∧ done.line = line ∧ t.emission 0 record = .ok e := by
  obtain ⟨lines, emitted⟩ := Prod.mk.inj reached
  obtain ⟨done, accepted, text⟩ := map_eq_ok.mp lines
  exact ⟨done, accepted, text, emitted⟩

theorem line_unambiguous_notes :
    ∃ f t done done' e e', (compile notesDescription).result = .ok f ∧ ofFormat f .all = .ok t
      ∧ (t.prepare 0 "t;0,0,1;a,b;c").1 = .ok done ∧ (t.prepare 0 "t;0.00,0,1;a,b;c").1 = .ok done'
      ∧ done.line = done'.line ∧ t.emission 0 "t;0,0,1;a,b;c" = .ok e
      ∧ t.emission 0 "t;0.00,0,1;a,b;c" = .ok e'
      ∧ e.Separable e' ∧ e = e' := by
  have run : ((compile notesDescription).result >>= fun f => ofFormat f .all).map
      (fun t => (t.outcome "t;0,0,1;a,b;c", t.outcome "t;0.00,0,1;a,b;c"))
      = .ok ((.ok "t;0,0,1;a;b;c", .ok ⟨"t", [["0", "0", "1"]], ["a", "b;c"]⟩),
          (.ok "t;0,0,1;a;b;c", .ok ⟨"t", [["0", "0", "1"]], ["a", "b;c"]⟩)) := by
    decide +kernel
  obtain ⟨t, transformer, outcomes⟩ := map_eq_ok.mp run
  obtain ⟨f, compiled, made⟩ := bind_eq_ok.mp transformer
  obtain ⟨reached, reached'⟩ := Prod.mk.inj outcomes
  obtain ⟨done, accepted, text, emitted⟩ := outcome_eq_ok reached
  obtain ⟨done', accepted', text', emitted'⟩ := outcome_eq_ok reached'
  have same : done.line = done'.line := text.trans text'.symm
  have separable : Emission.Separable ⟨"t", [["0", "0", "1"]], ["a", "b;c"]⟩
      ⟨"t", [["0", "0", "1"]], ["a", "b;c"]⟩ := ⟨by decide, 3, by decide⟩
  obtain ⟨e, e', made_from, made_from', _, back⟩ := line_unambiguous made accepted accepted' same
  obtain rfl := Except.ok.inj (emitted.symm.trans made_from)
  obtain rfl := Except.ok.inj (emitted'.symm.trans made_from')
  exact ⟨f, t, done, done', _, _, compiled, made, accepted, accepted', same, emitted,
    emitted', separable, back separable⟩

/-- Values are not escaped, so a semicolon in one of two values shifts what the line says. -/
theorem line_ambiguous :
    ∃ f t done done' e e', (compile notesDescription).result = .ok f ∧ f.autoIdPrefix = none
      ∧ ofFormat f .all = .ok t ∧ (t.prepare 0 "t;0,0,1;a;b,c").1 = .ok done
      ∧ (t.prepare 0 "t;0,0,1;a,b;c").1 = .ok done' ∧ done.line = done'.line
      ∧ t.emission 0 "t;0,0,1;a;b,c" = .ok e ∧ t.emission 0 "t;0,0,1;a,b;c" = .ok e'
      ∧ e.further ≠ e'.further := by
  have run : ((compile notesDescription).result >>= fun f => ofFormat f .all).map
      (fun t => (t.format.autoIdPrefix, (["t;0,0,1;a;b,c",
        "t;0,0,1;a,b;c"] : List Text).map t.outcome))
      = .ok (none, [(.ok "t;0,0,1;a;b;c", .ok ⟨"t", [["0", "0", "1"]], ["a;b", "c"]⟩),
          (.ok "t;0,0,1;a;b;c", .ok ⟨"t", [["0", "0", "1"]], ["a", "b;c"]⟩)]) := by
    decide +kernel
  obtain ⟨t, transformer, outcomes⟩ := map_eq_ok.mp run
  obtain ⟨f, compiled, made⟩ := bind_eq_ok.mp transformer
  simp only [List.map_cons, List.cons.injEq, Prod.mk.injEq t.format.autoIdPrefix] at outcomes
  obtain ⟨declared, reached, reached', _⟩ := outcomes
  obtain ⟨done, accepted, text, emitted⟩ := outcome_eq_ok reached
  obtain ⟨done', accepted', text', emitted'⟩ := outcome_eq_ok reached'
  obtain ⟨_, rfl, _⟩ := ofFormat_eq_ok.mp made
  exact ⟨_, t, done, done', _, _, compiled, declared, made, accepted, accepted',
    text.trans text'.symm, emitted, emitted', by decide⟩

end Record.Transformer

end TrajectoryFormat
