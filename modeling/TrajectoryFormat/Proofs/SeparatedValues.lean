import TrajectoryFormat.Proofs.DescribedLines
import TrajectoryFormat.Proofs.UnambiguousLines

/-!
# Values without separators

A value that is cut at a semicolon has none, and no item that is cut at a comma has one. What is
written for a value has the characters of the value, apart from whole numbers and the commas between
the items of an array. So a description whose attributes end at semicolons, all but one of them, and
whose points are cut at commas has lines that say what they are made from.
-/

namespace TrajectoryFormat

namespace Text

variable {c : Char} {s before rest : Text}

/-- A character that neither the text nor the new text has is not written. -/
theorem notMem_replaceFrom {mark new : Text} (absent : c ∉ new) (skip : Nat) (h : c ∉ s) :
    c ∉ replaceFrom mark new skip s := by
  induction s generalizing skip with
  | nil =>
    rw [replaceFrom]
    exact List.not_mem_nil
  | cons d s ih =>
    rw [List.mem_cons, not_or] at h
    cases skip with
    | zero =>
      rw [replaceFrom]
      split
      · rw [List.mem_append, not_or]
        exact ⟨absent, ih _ h.2⟩
      · rw [List.mem_cons, not_or]
        exact ⟨h.1, ih _ h.2⟩
    | succ skip =>
      rw [replaceFrom]
      exact ih skip h.2

end Text

namespace Record

open Checked Description Text

variable {c : Char} {text item value : Text} {delimiters items : List Text}
  {attributes : List Attribute} {a : Attribute} {i : Nat}

/-! ## Values and items -/

theorem notMem_rawValues (here : attributes[i]? = some a) (ends : a.delimiter = [c])
    (text? : Option Text) (found : (rawValues text? attributes)[i]? = some value) : c ∉ value := by
  induction attributes generalizing text? i with
  | nil => cases here
  | cons b attributes ih =>
    cases text? with
    | none =>
      rw [rawValues] at found
      cases i with
      | zero =>
        cases found
        exact List.not_mem_nil
      | succ i => exact ih here _ found
    | some text =>
      rw [rawValues] at found
      cases cut : cutAt? b.delimiter text with
      | none =>
        rw [cut] at found
        cases i with
        | zero =>
          cases here
          cases found
          exact notMem_of_cutAt?_none (ends ▸ cut)
        | succ i => exact ih here _ found
      | some parts =>
        rw [cut] at found
        cases i with
        | zero =>
          cases here
          cases found
          exact notMem_of_cutAt? (ends ▸ cut)
        | succ i => exact ih here _ found

/-- The value of an attribute that ends at a character has no such character. -/
theorem notMem_splitValues {f : DataFormat} {record : Text} (here : f.attributes[i]? = some a)
    (ends : a.delimiter = [c]) (found : (splitValues f record)[i]? = some value) : c ∉ value := by
  rw [splitValues, List.getElem?_zipWith, here] at found
  cases raw : (rawValues (some record) f.attributes)[i]? with
  | none =>
    rw [raw] at found
    cases found
  | some v =>
    rw [raw] at found
    simp only [Option.some.injEq] at found
    rw [← found]
    split
    · exact List.not_mem_nil
    · exact notMem_rawValues here ends _ raw

theorem notMem_itemsFrom (marks : ∀ k : Nat, (delimiters[k % delimiters.length]?).getD [] = [c])
    (k : Nat) :
    ∀ item ∈ itemsFrom delimiters k text, c ∉ item := by
  induction k, text using itemsFrom.induct delimiters with
  | case1 k text item rest found ih =>
    rw [itemsFrom_cut found, List.forall_mem_cons]
    exact ⟨notMem_of_cutAt? (marks k ▸ found), ih⟩
  | case2 k text missing =>
    rw [itemsFrom_last missing, List.forall_mem_singleton]
    exact notMem_of_cutAt?_none (marks k ▸ missing)

/-- Items have the characters of their text. -/
theorem subset_itemsFrom (k : Nat) : ∀ item ∈ itemsFrom delimiters k text, item ⊆ text := by
  induction k, text using itemsFrom.induct delimiters with
  | case1 k text item rest found ih =>
    rw [itemsFrom_cut found, List.forall_mem_cons]
    rw [(cutAt?_eq_some found).1]
    exact ⟨fun d mem => by simp [mem], fun later mem d here => by simp [ih later mem here]⟩
  | case2 k text missing =>
    rw [itemsFrom_last missing, List.forall_mem_singleton]
    exact List.Subset.refl _

theorem subset_dropEmptyLast (items : List Text) : dropEmptyLast items ⊆ items := by
  rw [dropEmptyLast]
  split
  · exact List.dropLast_subset items
  · exact List.Subset.refl _

/-- The commas that arrays are written with apart, a written value has the characters of the
value. -/
theorem notMem_furtherValue (other : c ≠ ',') (h : c ∉ value) :
    c ∉ Transformer.furtherValue a value := by
  rw [Transformer.furtherValue]
  split
  · rw [flatten]
    refine List.foldlRecOn (motive := fun flat => c ∉ flat) _ _ h fun flat h delimiter _ => ?_
    split
    · exact h
    · exact notMem_replaceFrom (by simpa using other) 0 h
  · exact h

/-! ## Columns -/

/-- A column is written in whole numbers, or as it is read. -/
theorem Series.mem_compressed {scale : Decimal} {s : Series} {texts : List Text}
    (written : s.compressed scale = .ok texts) :
    ∀ text ∈ texts, (∃ n, text = Number.ofInt n) ∨ ∃ values, s = .text values ∧ text ∈ values := by
  cases s with
  | numeric values isDelta isDecimal =>
    obtain ⟨_, _, _, _, rfl⟩ := compressed_numeric_eq_ok.mp written
    intro text mem
    obtain ⟨n, _, rfl⟩ := List.mem_map.mp mem
    exact .inl ⟨n, rfl⟩
  | text values =>
    cases written
    exact fun text mem => .inr ⟨_, rfl, mem⟩

theorem Series.eq_of_ofItems {type : Text} {items values : List Text}
    (read : ofItems type items = .ok (.text values)) : values = items := by
  rw [ofItems] at read
  split at read
  · simp only [bind_eq_ok, pure_eq_ok] at read
    obtain ⟨_, _, other⟩ := read
    cases other
  · cases read
    rfl

theorem Series.eq_of_repaired {s : Series} {values : List Text}
    (h : s.repaired = .ok (.text values)) :
    s = .text values := by
  cases s with
  | numeric numbers isDelta isDecimal =>
    obtain ⟨_, _, other⟩ := repaired_numeric_eq_ok.mp h
    cases other
  | text values' =>
    cases h
    rfl

namespace Transformer

variable {f : DataFormat} {shape : OutputShape} {t : Transformer} {counter counter' : Nat}
  {record record' description : Text} {done done' : Transformed} {lines : List (List Token)}

section Accounts
variable (acc : t.Account counter record done)

theorem Account.mem_columns (d : Dimension) :
    ∀ text ∈ acc.columns d, (∃ n, text = Number.ofInt n) ∨ text ∈ column (t.axis d) acc.points := by
  intro text mem
  obtain ⟨hx, hy, htime⟩ := rawAxes_eq_ok.mp acc.raw_eq
  rcases Series.mem_compressed (acc.columns_eq d) text mem with number | ⟨values, texts, here⟩
  · exact .inl number
  · refine .inr ?_
    cases d with
    | x =>
      rw [show acc.raw.x = .text values from texts] at hx
      exact Series.eq_of_ofItems hx ▸ here
    | y =>
      rw [show acc.raw.y = .text values from texts] at hy
      exact Series.eq_of_ofItems hy ▸ here
    | time =>
      have repaired := acc.time_eq
      rw [show acc.time = .text values from texts] at repaired
      rw [Series.eq_of_repaired repaired, rawTime] at htime
      split at htime
      · obtain ⟨_, _, other⟩ := Series.ofDates_eq_ok.mp htime
        cases other
      · exact Series.eq_of_ofItems htime ▸ here

theorem mem_pointFields {x y time text : Text} {point : List Text}
    (mem : text ∈ t.pointFields x y time point) :
    text ∈ [x, y, time] ∨ text ∈ point := by
  unfold pointFields at mem
  split at mem
  · exact .inl (List.mem_append_left [time] mem)
  · exact .inl mem
  · rw [List.mem_append] at mem
    exact mem.imp_right fun mem => subset_filter_zipIdx _ _ mem

/-- An item that is written for a point is a whole number, or an item of the point. -/
theorem Account.notMem_rows (digit : c.isDigit = false) (hyphen : c ≠ '-')
    (absent : ∀ point ∈ acc.points, ∀ item ∈ point, c ∉ item) : ∀ s ∈ acc.rows.flatten, c ∉ s := by
  have written : ∀ d, ∀ text ∈ acc.columns d, c ∉ text := by
    intro d text mem
    rcases acc.mem_columns d text mem with ⟨n, rfl⟩ | item
    · exact Number.notMem_ofInt digit hyphen
    · obtain ⟨point, inside, rfl⟩ := List.mem_map.mp item
      cases here : point[(t.axis d).index]? with
      | none => exact List.not_mem_nil
      | some text => exact absent point inside text (List.mem_of_getElem? here)
  intro s mem
  obtain ⟨row, inside, mem⟩ := List.mem_flatten.mp mem
  obtain ⟨⟨point, x, y, time⟩, zipped, rfl⟩ := List.mem_map.mp inside
  obtain ⟨ofPoint, zipped⟩ := List.of_mem_zip zipped
  obtain ⟨ofX, zipped⟩ := List.of_mem_zip zipped
  obtain ⟨ofY, ofTime⟩ := List.of_mem_zip zipped
  rcases mem_pointFields mem with axis | item
  · simp only [List.mem_cons, List.not_mem_nil, or_false] at axis
    rcases axis with rfl | rfl | rfl
    · exact written .x _ ofX
    · exact written .y _ ofY
    · exact written .time _ ofTime
  · exact absent point ofPoint s item

end Accounts

/-! ## Separators in a description -/

/-- Every attribute of a description, but the one at place `j`, ends at a semicolon, and every
attribute of its points at a comma. -/
structure Delimited (f : DataFormat) (j : Nat) : Prop where
  items : ∀ array ∈ f.coordinates, ∀ a ∈ array.attributes, a.delimiter = [',']
  values : ∀ i ≠ j, ∀ a, f.attributes[i]? = some a → a.isIgnored = false → a.delimiter = [';']

/-- The places of the attributes that the fields of a line are made from. -/
def fieldPlaces (t : Transformer) : List Nat :=
  t.format.idIndex?.toList ++ t.format.coordinatesIndex?.toList ++ t.furtherColumns.map Column.place

theorem mem_furtherPlaces {i : Nat} (mem : i ∈ t.furtherColumns.map Column.place) :
    i < t.format.attributes.length
      ∧ (t.format.attributes[i]?).any (t.format.isFurther i) = true := by
  rw [furtherPlaces_eq] at mem
  split at mem
  · rwa [List.mem_filter, List.mem_range] at mem
  · cases mem

theorem nodup_fieldPlaces (h : Compiled t.format lines) : t.fieldPlaces.Nodup := by
  refine List.nodup_append.mpr ⟨nodup_reservedPlaces h, ?_, fun i reserved j further same => ?_⟩
  · rw [furtherPlaces_eq]
    split
    · exact List.nodup_range.filter _
    · exact List.nodup_nil
  · have other := isFurther_of_reserved reserved
    rw [same, (mem_furtherPlaces further).2] at other
    cases other

/-- The attributes of the fields are not left out. -/
theorem kept_of_mem_fieldPlaces (h : Compiled t.format lines) {i : Nat} (mem : i ∈ t.fieldPlaces) :
    ∃ a, t.format.attributes[i]? = some a ∧ a.isIgnored = false := by
  have kept := (h.kept_iff i).mpr ((List.mem_append.mp mem).symm.imp_left mem_furtherPlaces)
  rw [List.getElem?_eq_getElem kept.1, Option.any_some, Bool.not_eq_true'] at kept
  exact ⟨_, List.getElem?_eq_getElem kept.1, kept.2⟩

section Accounts
variable (acc : t.Account counter record done)

/-- The items of the points are cut from the value of the coordinates. -/
theorem Account.exists_coordinates : ∃ text,
    t.format.coordinatesIndex?.bind ((splitValues t.format record)[·]?) = some text ∧
      t.coordinates.attributes ≠ [] ∧ ∀ point ∈ acc.points, ∀ item ∈ point,
        item ∈ itemsFrom (t.coordinates.attributes.map Attribute.delimiter) 0 text := by
  obtain ⟨text, value, some_item, _, groups⟩ := points_eq_ok.mp acc.points_eq
  rw [splitItems] at some_item groups
  split at some_item
  · exact absurd rfl some_item
  · next some =>
    rw [if_neg some] at groups
    refine ⟨text, value, by simpa using some, fun point inside item mem => ?_⟩
    rw [← groups] at inside
    exact subset_dropEmptyLast _ (subset_groupsOf _ _ point inside mem)

variable {j : Nat} (delimited : Delimited t.format j)
include delimited

theorem Account.notMem_items (made : ofFormat f shape = .ok t) :
    ∀ s ∈ acc.rows.flatten, ',' ∉ s := by
  obtain ⟨array, rfl, _⟩ := ofFormat_eq_ok.mp made
  obtain ⟨text, _, some, items⟩ := acc.exists_coordinates
  refine acc.notMem_rows (by decide) (by decide) fun point inside item mem => ?_
  refine notMem_itemsFrom (fun k => ?_) 0 item (items point inside item mem)
  have bound : k % (t.coordinates.attributes.map Attribute.delimiter).length
      < t.coordinates.attributes.length := by
    rw [List.length_map]
    exact Nat.mod_lt _ (List.length_pos_iff.mpr some)
  rw [List.getElem?_map, List.getElem?_eq_getElem bound, Option.map_some, Option.getD_some]
  exact delimited.items _ array _ (List.getElem_mem bound)

/-- A field has no semicolon where the attribute at its place ends at one. -/
theorem Account.notMem_field (compiled : (compile description).result = .ok t.format)
    (declared : t.format.autoIdPrefix = none) {k p : Nat} (place : t.fieldPlaces[k]? = some p)
    (other : p ≠ j) {s : Text} (field : acc.emission.fields[k]? = some s) : ';' ∉ s := by
  obtain ⟨_, _, h⟩ := compiled_of_compile compiled
  obtain ⟨a, here, kept⟩ := kept_of_mem_fieldPlaces h (List.mem_of_getElem? place)
  have value : ∀ v, (splitValues t.format record)[p]? = some v → ';' ∉ v := fun v found =>
    notMem_splitValues here (delimited.values p other a here kept) found
  obtain ⟨i, isId, id⟩ := acc.id_of_declared (invariants_of_compile compiled) declared
  obtain ⟨text, coordinates, _, items⟩ := acc.exists_coordinates
  obtain ⟨c, isCoordinates, text_eq⟩ := Option.bind_eq_some_iff.mp coordinates
  rw [fieldPlaces, isId, isCoordinates] at place
  match k with
  | 0 =>
    cases place
    cases field
    exact value _ id
  | 1 =>
    cases place
    cases field
    have row := acc.notMem_rows (c := ';') (by decide) (by decide) fun point inside item mem here =>
      value text text_eq (subset_itemsFrom 0 item (items point inside item mem) here)
    exact Text.notMem_join (by decide) row
  | k + 2 =>
    obtain ⟨column, found, rfl⟩ := Option.map_eq_some_iff.mp (List.getElem?_map.symm.trans place)
    have further : (t.furtherFields (splitValues t.format record))[k]? = some s := field
    rw [furtherFields_eq t (length_splitValues _ _), List.getElem?_map, found, Option.map_some,
      Option.some.injEq, fieldValue, here] at further
    rw [← further]
    refine notMem_furtherValue (by decide) ?_
    cases written : (splitValues t.format record)[column.place]? with
    | none => exact List.not_mem_nil
    | some v => exact value v written

end Accounts

theorem Account.length_fields (acc : t.Account counter record done)
    (compiled : (compile description).result = .ok t.format)
    (declared : t.format.autoIdPrefix = none) :
    acc.emission.fields.length = t.fieldPlaces.length := by
  obtain ⟨_, _, h⟩ := compiled_of_compile compiled
  obtain ⟨i, isId, _⟩ := acc.id_of_declared (invariants_of_compile compiled) declared
  obtain ⟨c, _, isCoordinates, _⟩ := h.coordinatesIndex?
  simp [Emission.fields, fieldPlaces, isId, isCoordinates, acc.length_further, Nat.add_comm]

/-- The emissions of delimited records are separable. -/
theorem Account.separable (compiled : (compile description).result = .ok t.format)
    (declared : t.format.autoIdPrefix = none) {j : Nat} (delimited : Delimited t.format j)
    (made : ofFormat f shape = .ok t) (acc : t.Account counter record done)
    (acc' : t.Account counter' record' done') : acc.emission.Separable acc'.emission := by
  obtain ⟨_, _, h⟩ := compiled_of_compile compiled
  refine ⟨?_, t.fieldPlaces.idxOf j, ?_⟩
  · rw [List.forall_mem_append]
    exact ⟨acc.notMem_items delimited made, acc'.notMem_items delimited made⟩
  · have apart : ∀ {counter : Nat} {record : Text} {done : Transformed}
        (acc : t.Account counter record done),
        ∀ s ∈ acc.emission.fields.zipIdx, s.2 ≠ t.fieldPlaces.idxOf j → ';' ∉ s.1 := by
      intro counter record done acc s mem other
      have field := List.mem_zipIdx_iff_getElem?.mp mem
      have bound : s.2 < t.fieldPlaces.length := by
        rw [← acc.length_fields compiled declared]
        exact (List.getElem?_eq_some_iff.mp field).1
      refine acc.notMem_field delimited compiled declared (List.getElem?_eq_getElem bound)
        (fun same => ?_) field
      exact other (by rw [← same, (nodup_fieldPlaces h).idxOf_getElem])
    rw [List.forall_mem_append]
    exact ⟨apart acc, apart acc'⟩

/-- Where every attribute but one ends at a semicolon, and those of the points at commas, accepted
records with the same line have the same ID, the same items for every point, and the same further
values. -/
theorem emission_eq_of_delimited (compiled : (compile description).result = .ok f)
    (made : ofFormat f shape = .ok t) (declared : f.autoIdPrefix = none) {j : Nat}
    (delimited : Delimited f j) (accepted : (t.prepare counter record).1 = .ok done)
    (accepted' : (t.prepare counter' record').1 = .ok done') (same : done.line = done'.line) :
    ∃ e, t.emission counter record = .ok e ∧ t.emission counter' record' = .ok e := by
  obtain ⟨acc⟩ := exists_account accepted
  obtain ⟨acc'⟩ := exists_account accepted'
  obtain ⟨_, rfl, _⟩ := ofFormat_eq_ok.mp made
  have emission := acc.emission_eq_of_line_eq made acc' same
    (acc.separable compiled declared delimited made acc')
  exact ⟨acc.emission, acc.emission_eq, emission ▸ acc'.emission_eq⟩

end Transformer

end Record

end TrajectoryFormat
