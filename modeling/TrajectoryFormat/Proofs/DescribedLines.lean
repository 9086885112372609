import Mathlib.Data.List.Nodup
import TrajectoryFormat.Output.Metadata
import TrajectoryFormat.Proofs.LineFields
import TrajectoryFormat.Proofs.Numerals

/-!
# Lines, descriptor and metadata

Three parts of a data set are made apart: the lines of records, the descriptor, and the counts in
the metadata. They agree on the columns of a point and on the fields after the coordinates, for each
shape, with declared and with generated IDs, and wherever attributes are left out.
-/

namespace TrajectoryFormat

open Checked Description Output Record

/-! ## Attributes that are left out -/

@[simp] theorem classOf_ignoredName (first : Bool) :
    classOf Attribute.ignoredName first = .command := by
  cases first <;> decide

/-- A type of another class than the commands is not the one of a field that is left out. -/
theorem isIgnored_of_classOf {a : Attribute} {first : Bool} {classes : List LexicalClass}
    (mem : classOf a.declaredType first ∈ classes) (others : LexicalClass.command ∉ classes) :
    a.isIgnored = false := by
  rw [Attribute.isIgnored, beq_eq_false_iff_ne]
  intro left_out
  rw [left_out, classOf_ignoredName] at mem
  exact others mem

/-- No attribute inside the coordinates array is left out. -/
theorem isIgnored_of_allowed {a : Attribute} (allowed : Allowed a) : a.isIgnored = false := by
  obtain ⟨first, mem⟩ := allowed
  refine isIgnored_of_classOf mem ?_
  unfold arrayTypes
  split <;> decide

/-- An attribute of a reserved name has a type of a class that its name allows. -/
theorem Compiled.exists_class_of_named {f : DataFormat} {lines : List (List Token)}
    (h : Compiled f lines) {a : Attribute} (mem : a ∈ f.attributes) {k : Keyword}
    (named : a.name = k.name) (other : k ≠ .ignoreAttribute) :
    ∃ first, classOf a.declaredType first ∈ attributeTypes a.name := by
  rw [h.format, DataFormat.readOff] at mem
  obtain ⟨line, here, added⟩ := List.mem_filterMap.mp mem
  have written := declared?_of_named added named other
  cases h.accepted line here with
  | setting kind legal => simp [declared?] at written
  | @declared name type delimiter kind _ _ typed _ _ =>
    simp only [declared?, Token.isKind, kind] at written
    obtain ⟨first, ofClass⟩ := h.classified _ here type (by simp)
    cases written
    exact ⟨first, ofClass ▸ typed⟩

/-- An attribute of a reserved name is not left out. -/
theorem Compiled.isIgnored_of_named {f : DataFormat} {lines : List (List Token)}
    (h : Compiled f lines) {a : Attribute} (mem : a ∈ f.attributes) {k : Keyword}
    (named : a.name = k.name) (other : k ≠ .ignoreAttribute) : a.isIgnored = false := by
  obtain ⟨first, typed⟩ := h.exists_class_of_named mem named other
  refine isIgnored_of_classOf typed ?_
  unfold attributeTypes
  split <;> decide

/-- An attribute that is not left out is the ID, the coordinates, or written after them. -/
theorem Compiled.kept_iff {f : DataFormat} {lines : List (List Token)}
    (h : Compiled f lines) (i : Nat) :
    (i < f.attributes.length ∧ (f.attributes[i]?).any (!·.isIgnored) = true) ↔
      (i < f.attributes.length ∧ (f.attributes[i]?).any (f.isFurther i) = true)
        ∨ i ∈ f.idIndex?.toList ++ f.coordinatesIndex?.toList := by
  have reserved : ∀ k : Keyword, k ≠ .ignoreAttribute → position? f.attributes [k] = some i →
      i < f.attributes.length ∧ (f.attributes[i]?).any (!·.isIgnored) = true := by
    intro k other place
    obtain ⟨a, here, l, only, named⟩ := position?_eq_some place
    rw [List.mem_singleton.mp only] at named
    have kept := h.isIgnored_of_named (List.mem_of_getElem? here) named other
    exact ⟨position?_lt place, by rw [here, Option.any_some, kept]; rfl⟩
  rw [List.mem_append, Option.mem_toList, Option.mem_toList]
  constructor
  · rintro ⟨bound, kept⟩
    rw [List.getElem?_eq_getElem bound, Option.any_some] at kept ⊢
    by_cases isId : f.idIndex? = some i
    · exact .inr (.inl isId)
    · by_cases isCoordinates : f.coordinatesIndex? = some i
      · exact .inr (.inr isCoordinates)
      · exact .inl ⟨bound, by simp [DataFormat.isFurther, isId, isCoordinates, kept]⟩
  · rintro (⟨bound, further⟩ | isId | isCoordinates)
    · refine ⟨bound, ?_⟩
      rw [List.getElem?_eq_getElem bound, Option.any_some, DataFormat.isFurther,
        Bool.and_eq_true] at further
      rw [List.getElem?_eq_getElem bound, Option.any_some, further.2]
    · exact reserved .id (by decide) isId
    · exact reserved .coordinates (by decide) isCoordinates

namespace Record.Transformer

variable {f : DataFormat} {shape : OutputShape} {t : Transformer} {counter : Nat} {record : Text}
  {done : Transformed} {lines : List (List Token)}

/-! ## Counts -/

/-- The places of the axes. -/
def axisPlaces (t : Transformer) : List Nat :=
  (Dimension.ofShape .all).map fun d => (t.axis d).index

theorem mem_axisPlaces (made : ofFormat f shape = .ok t) {i : Nat} :
    i ∈ t.axisPlaces ↔ t.coordinates.isSemantic i = false := by
  have every : ∀ d, d ∈ Dimension.ofShape .all := by
    intro d
    cases d <;> decide
  rw [axisPlaces, List.mem_map, ← Bool.not_eq_true, isSemantic_iff made, ← ne_eq,
    Option.ne_none_iff_exists']
  constructor
  · rintro ⟨d, _, here⟩
    exact ⟨d, (dimensionAt?_eq_some made).mpr here⟩
  · rintro ⟨d, found⟩
    exact ⟨d, every d, (dimensionAt?_eq_some made).mp found⟩

/-- The axes and the other attributes of the coordinates array are all of its attributes. -/
theorem length_semanticColumns (made : ofFormat f shape = .ok t) :
    t.semanticColumns.length + 3 = t.coordinates.attributes.length := by
  have length : t.semanticColumns.length
      = ((List.range t.coordinates.attributes.length).filter t.coordinates.isSemantic).length := by
    rw [semanticColumns, List.length_map,
      length_filter_zipIdx t.coordinates.isSemantic fun _ _ _ => rfl]
  have nodup : t.axisPlaces.Nodup := by
    apply List.Nodup.map fun d e same => axis_injective made same
    decide
  have inside : ∀ i ∈ t.axisPlaces, i < t.coordinates.attributes.length := by
    intro i mem
    obtain ⟨d, _, rfl⟩ := List.mem_map.mp mem
    exact position?_lt (axis_eq made d).1
  have count := length_filter_range (n := t.coordinates.attributes.length)
    (p := t.coordinates.isSemantic)
    (q := fun _ => true) nodup (fun i mem => (mem_axisPlaces made).mp mem) (by
      intro i
      rw [mem_axisPlaces made]
      constructor
      · rintro ⟨bound, _⟩
        cases semantic : t.coordinates.isSemantic i with
        | true => exact .inl ⟨bound, rfl⟩
        | false => exact .inr rfl
      · rintro (⟨bound, _⟩ | axis)
        · exact ⟨bound, rfl⟩
        · exact ⟨inside i ((mem_axisPlaces made).mpr axis), rfl⟩)
  rw [length]
  simpa [axisPlaces, Dimension.ofShape] using count

theorem length_pointColumns (made : ofFormat f shape = .ok t)
    (heeded : ∀ a ∈ t.coordinates.attributes, a.isIgnored = false) :
    t.pointColumns.length = coordinateCount f shape := by
  have semantic := length_semanticColumns made
  have hx : t.coordinates.xIndex? = some t.x.index := (axis_eq made .x).1
  have hy : t.coordinates.yIndex? = some t.y.index := (axis_eq made .y).1
  obtain ⟨array, rfl, rfl, _⟩ := ofFormat_eq_ok.mp made
  have space : dimensions t.format = 2 := by
    rw [dimensions, array, Option.elim_some, ArrayFormat.spatialDimensions, hx, hy]
    rfl
  rw [pointColumns, List.length_append, List.length_map]
  cases t.shape with
  | spatial => rw [coordinateCount, space]; rfl
  | spatialTemporal => rw [coordinateCount, space]; rfl
  | all =>
    have whole : t.coordinates.attributes.countP (!·.isIgnored) = t.coordinates.attributes.length :=
      List.countP_eq_length.mpr fun a mem => by simp [heeded a mem]
    rw [coordinateCount, array, Option.elim_some, whole, ← semantic, if_pos rfl, Nat.add_comm]
    rfl

/-- The ID and the coordinates have places of their own. -/
theorem nodup_reservedPlaces (h : Compiled f lines) :
    (f.idIndex?.toList ++ f.coordinatesIndex?.toList).Nodup := by
  obtain ⟨c, _, coordinates, _⟩ := h.coordinatesIndex?
  rw [coordinates]
  cases id : f.idIndex? with
  | none => simp
  | some i =>
    have apart : i ≠ c := by
      rintro rfl
      exact position?_ne (by decide) id coordinates
    simpa using apart

theorem isFurther_of_reserved {i : Nat}
    (mem : i ∈ f.idIndex?.toList ++ f.coordinatesIndex?.toList) :
    (f.attributes[i]?).any (f.isFurther i) = false := by
  rw [List.mem_append, Option.mem_toList, Option.mem_toList] at mem
  cases f.attributes[i]? with
  | none => rfl
  | some a =>
    rcases mem with isId | isCoordinates
    · simp [DataFormat.isFurther, isId]
    · simp [DataFormat.isFurther, isCoordinates]

/-- The attributes that are written after the coordinates, the ID and the coordinates are all
fields. -/
theorem length_furtherPlaces (h : Compiled f lines) :
    ((List.range f.attributes.length).filter fun i => (f.attributes[i]?).any (f.isFurther i)).length
      + 2
      = attributeCount f .all := by
  obtain ⟨c, _, coordinates, _⟩ := h.coordinatesIndex?
  have identity := h.idIndex?_isSome
  have count :=
    length_filter_range (nodup_reservedPlaces h) (fun i => isFurther_of_reserved) h.kept_iff
  rw [← countP_eq_length_filter_range, List.length_append, coordinates] at count
  rw [attributeCount, DataFormat.validAttributes, ← count]
  cases generated : f.autoIdPrefix with
  | none =>
    rw [generated] at identity
    obtain ⟨i, isId⟩ := Option.isSome_iff_exists.mp identity
    rw [isId]
    rfl
  | some p =>
    rw [generated] at identity
    have noId : f.idIndex? = none := by simpa using identity
    rw [noId]
    rfl

theorem length_furtherColumns (h : Compiled f lines) (made : ofFormat f shape = .ok t) :
    t.furtherColumns.length + 2 = attributeCount f shape := by
  obtain ⟨_, rfl, rfl, _⟩ := ofFormat_eq_ok.mp made
  rw [← List.length_map Column.place, furtherPlaces_eq]
  cases t.shape with
  | spatial => rfl
  | spatialTemporal => rfl
  | all => exact length_furtherPlaces h

/-! ## Generated IDs -/

@[simp] theorem isDigits_ofNat (n : Nat) : Number.isDigits (Number.ofNat n) = true := by
  rw [Number.isDigits, Bool.and_eq_true, List.all_eq_true]
  refine ⟨?_, fun c mem => Number.isDigit_of_mem_ofNat mem⟩
  simp [Number.ofNat_ne_nil]

/-- The descriptor has an integer for generated IDs just where these are numbers that continue the
prefix. -/
theorem idType?_integer_iff {idPrefix : Text} (generated : f.autoIdPrefix = some idPrefix) :
    idType? f = some Keyword.integer.name ↔
      ∀ n id, generatedId idPrefix n = .ok id → Number.isDigits id = true ∧
        ∃ base, Number.read? Number.limit64 idPrefix = some base
          ∧ id = Number.ofNat (base + n) := by
  have numeric : f.isNumericAutoId = (Number.read? Number.limit64 idPrefix).isSome := by
    rw [DataFormat.isNumericAutoId, DataFormat.numericAutoId?, generated, Option.bind_some]
  rw [idType?, generated]
  cases read : Number.read? Number.limit64 idPrefix with
  | none =>
    have other : Keyword.string.name ≠ Keyword.integer.name := by decide
    rw [numeric, read]
    constructor
    · intro integer
      exact absurd (Option.some.inj integer) other
    · intro numbered
      obtain ⟨_, base, found, _⟩ :=
        numbered 0 (idPrefix ++ '_' :: Number.ofNat 1) (by rw [generatedId, read])
      cases found
  | some base =>
    rw [numeric, read]
    refine ⟨fun _ n id made => ?_, fun _ => rfl⟩
    rw [generatedId, read] at made
    simp only at made
    split at made
    · cases made
      exact ⟨isDigits_ofNat _, base, rfl, rfl⟩
    · cases made

/-! ## Agreement -/

/-- The names of the attributes that are not left out differ. -/
theorem place_unique (invariants : f.Invariants) {i j : Nat} {a b : Attribute}
    (ha : f.attributes[i]? = some a) (hb : f.attributes[j]? = some b) (kept : a.isIgnored = false)
    (kept' : b.isIgnored = false) (same : a.name = b.name) : i = j := by
  have differs : ∀ {i j : Nat} {a b : Attribute}, f.attributes[i]? = some a →
      f.attributes[j]? = some b →
      a.isIgnored = false → b.isIgnored = false → a.name = b.name → ¬ i < j := by
    intro i j a b ha hb kept kept' same before
    obtain ⟨hi, rfl⟩ := List.getElem?_eq_some_iff.mp ha
    obtain ⟨hj, rfl⟩ := List.getElem?_eq_some_iff.mp hb
    have apart := List.pairwise_iff_getElem.mp invariants.names i j hi hj before kept kept'
    rw [same, Text.sameIgnoringCase_self] at apart
    cases apart
  rcases Nat.lt_trichotomy i j with before | here | after
  · exact absurd before (differs ha hb kept kept' same)
  · exact here
  · exact absurd after (differs hb ha kept' kept same.symm)

/-- The lines of a descriptor before the one of the ID. -/
def settingLines (f : DataFormat) (shape : OutputShape) : List Text :=
  [Output.line Keyword.outputFormat.name shape.name,
   Output.line Keyword.coordinateSystem.name (systemName f),
   Output.line Keyword.decimalPrecision.name (Number.ofNat f.decimalPrecision),
   Output.line Keyword.spatialDimensions.name (Number.ofNat (dimensions f))]

/-- The line of a record, the descriptor and the metadata agree on `columns` for each point and on
`fields` after the coordinates. -/
structure Agreement (f : DataFormat) (shape : OutputShape) (a : t.Account counter record done)
    (columns fields : List Column) : Prop where
  points : done.sample.points.length = a.points.length
  line : done.line = Text.join ";" (a.id
    :: Text.join "," ((List.range a.points.length).flatMap fun k => columns.map fun c =>
      a.value k c.place)
    :: fields.map fun c => t.fieldValue (splitValues f record) c.place)
  items : ((List.range a.points.length).flatMap fun k => columns.map fun c =>
    a.value k c.place).length
    = a.points.length * columns.length
  metadata : ∀ files statistics, metadata f shape files statistics = Text.join "\n"
    [Output.line "NUM_FILES" (Number.ofNat files),
     Output.line "NUM_ATTRIBUTES" (Number.ofNat (fields.length + 2)),
     Output.line "NUM_COORD_ATTRIBUTES" (Number.ofNat columns.length), statistics.render]
  descriptor : ∃ idType, idType? f = some idType ∧ descriptor f shape = Text.join "\n"
    (settingLines f shape ++ [Output.line Keyword.id.name idType,
      Output.line Keyword.coordinates.name
      (arrayOpening ++ Text.join " " (columns.map fun c => item c.name c.type) ++ [')'])]
      ++ fields.map fun c => Output.line c.name c.type)
  columnNames : ∀ c ∈ columns, ∃ b, t.coordinates.attributes[c.place]? = some b ∧
    c.name = (t.dimensionAt? c.place).elim b.name Dimension.name
  axisNames : ∀ d, ∃ b, t.coordinates.attributes[(t.axis d).index]? = some b ∧
    ∃ k ∈ d.keywords, b.name = k.name
  fieldNames : ∀ c ∈ fields, ∃ b, f.attributes[c.place]? = some b ∧ b.isIgnored = false
    ∧ c.name = b.name ∧
    ∀ i b', f.attributes[i]? = some b' → b'.isIgnored = false → b'.name = c.name → i = c.place
  declaredId : f.autoIdPrefix = none →
    ∃ i, f.idIndex? = some i ∧ (splitValues f record)[i]? = some a.id
  generatedId : ∀ idPrefix, f.autoIdPrefix = some idPrefix →
    generatedId idPrefix counter = .ok a.id ∧
    (idType? f = some Keyword.integer.name ↔ ∀ n id, generatedId idPrefix n = .ok id →
      Number.isDigits id = true ∧
        ∃ base, Number.read? Number.limit64 idPrefix = some base ∧ id = Number.ofNat (base + n))

theorem columnNames (made : ofFormat f shape = .ok t) : ∀ c ∈ t.pointColumns,
    ∃ b, t.coordinates.attributes[c.place]? = some b ∧
      c.name = (t.dimensionAt? c.place).elim b.name Dimension.name := by
  intro c mem
  rcases List.mem_append.mp mem with axis | other
  · obtain ⟨d, _, rfl⟩ := List.mem_map.mp axis
    obtain ⟨b, here, _⟩ := (axis_eq made d).2
    have place : t.dimensionAt? (t.axisColumn d).place = some d :=
      (dimensionAt?_eq_some made).mpr rfl
    exact ⟨b, here, by rw [place]; rfl⟩
  · split at other
    · obtain ⟨⟨b, i⟩, selected, rfl⟩ := List.mem_map.mp other
      obtain ⟨here, semantic⟩ := List.mem_filter.mp selected
      have place : t.dimensionAt? (Column.ofAttribute b i).place = none :=
        (isSemantic_iff made i).mp semantic
      exact ⟨b, List.mem_zipIdx_iff_getElem?.mp here, by rw [place]; rfl⟩
    · cases other

theorem fieldNames (invariants : t.format.Invariants) : ∀ c ∈ t.furtherColumns,
    ∃ b, t.format.attributes[c.place]? = some b ∧ b.isIgnored = false ∧ c.name = b.name ∧
      ∀ i b', t.format.attributes[i]? = some b' → b'.isIgnored = false → b'.name = c.name →
        i = c.place := by
  intro c mem
  unfold furtherColumns at mem
  split at mem
  · obtain ⟨⟨b, i⟩, selected, rfl⟩ := List.mem_map.mp mem
    obtain ⟨member, further⟩ := List.mem_filter.mp selected
    have here : t.format.attributes[i]? = some b := List.mem_zipIdx_iff_getElem?.mp member
    have kept : b.isIgnored = false := by
      simp only [DataFormat.isFurther, Bool.and_eq_true, Bool.not_eq_true'] at further
      exact further.2
    exact ⟨b, here, kept, rfl, fun j b' there kept' same =>
      place_unique invariants there here kept' kept same⟩
  · cases mem

/-- The ID of an accepted record is the value of the ID attribute, or it is generated. -/
theorem Account.id_of_declared (invariants : t.format.Invariants)
    (a : t.Account counter record done) (declared : t.format.autoIdPrefix = none) :
    ∃ i, t.format.idIndex? = some i ∧ (splitValues t.format record)[i]? = some a.id := by
  have identity := invariants.identity
  rw [declared] at identity
  obtain ⟨i, place⟩ := Option.isSome_iff_exists.mp identity
  have bound : i < (splitValues t.format record).length := by
    rw [length_splitValues]
    exact (invariants.idIndex i place).1
  have resolved := a.id_eq
  rw [resolveId, declared] at resolved
  simp only [place, Option.bind_some, List.getElem?_eq_getElem bound, Option.getD_some,
    Except.ok.injEq] at resolved
  exact ⟨i, place, by rw [List.getElem?_eq_getElem bound, resolved]⟩

theorem Account.id_of_generated (a : t.Account counter record done) {idPrefix : Text}
    (generated : t.format.autoIdPrefix = some idPrefix) :
    Record.Transformer.generatedId idPrefix counter = .ok a.id := by
  have resolved := a.id_eq
  rwa [resolveId, generated] at resolved

theorem exists_idType (invariants : f.Invariants) : ∃ type, idType? f = some type := by
  rw [idType?]
  cases generated : f.autoIdPrefix with
  | some idPrefix => exact ⟨_, rfl⟩
  | none =>
    have identity := invariants.identity
    rw [generated] at identity
    obtain ⟨i, place⟩ := Option.isSome_iff_exists.mp identity
    rw [place, Option.bind_some, List.getElem?_eq_getElem (invariants.idIndex i place).1]
    exact ⟨_, rfl⟩

/-- For every accepted description and shape, and every record that is accepted, the line, the
descriptor and the metadata agree. -/
theorem emitted_as_described {description : Text} (compiled : (compile description).result = .ok f)
    (made : ofFormat f shape = .ok t) (accepted : (t.prepare counter record).1 = .ok done) :
    ∃ (a : t.Account counter record done) (columns fields : List Column),
      Agreement f shape a columns fields := by
  have invariants := invariants_of_compile compiled
  obtain ⟨_, _, h⟩ := compiled_of_compile compiled
  obtain ⟨array, rfl, rfl, _⟩ := ofFormat_eq_ok.mp made
  have heeded : ∀ a ∈ t.coordinates.attributes, a.isIgnored = false := fun a mem =>
    isIgnored_of_allowed (allowed_of_compile compiled array a mem)
  have columns := length_pointColumns made heeded
  have fields := length_furtherColumns h made
  obtain ⟨a⟩ := exists_account accepted
  have flat : t.coordinateFields a.points (a.columns .x) (a.columns .y) (a.columns .time)
      = (List.range a.points.length).flatMap fun k => t.pointColumns.map fun c =>
        a.value k c.place := by
    rw [a.coordinateFields_eq, a.rows_eq made, List.flatMap_def]
  refine ⟨a, t.pointColumns, t.furtherColumns, ?_⟩
  constructor
  case points => exact a.length_sample
  case line => rw [a.line_eq, flat, furtherFields_eq t (length_splitValues _ _)]
  case items => simp [List.length_flatMap]
  case metadata =>
    intro files statistics
    rw [metadata, columns, fields]
  case descriptor =>
    obtain ⟨type, described⟩ := exists_idType invariants
    refine ⟨type, described, ?_⟩
    rw [descriptor, described, array, furtherLines_eq, Option.toList_some, Option.toList_some,
      List.map_singleton, List.map_singleton, coordinatesLine, pointItems_eq, settingLines]
    rfl
  case columnNames => exact columnNames made
  case axisNames => exact axis_named made
  case fieldNames => exact fieldNames invariants
  case declaredId => exact a.id_of_declared invariants
  case generatedId => exact fun idPrefix generated =>
    ⟨a.id_of_generated generated, idType?_integer_iff generated⟩

/-- A description with generated IDs, a field that is left out, times in the first place, and an
attribute of points that is no axis. -/
def voyagesDescription : Text :=
  Text.join "\n"
    ["_AUTO_ID 40", "_IGNORE_ATTR ;", "port STRING ;",
      "_COORDINATES ARRAY(_TIME DATETIME[\"yyyy-MM-dd\"] , crew INTEGER , _LAT DECIMAL , _LON DECIMAL ,) ;",
      "stops ARRAY(name STRING / days INTEGER ,) EOF"]

def voyage : Text := "flag;Kiel;2020-03-01,12,54.3,10.1,2020-03-02,11,54.4,10.2;a/1,b/2"

theorem emitted_as_described_voyage :
    ∃ f t done, (compile voyagesDescription).result = .ok f ∧ ofFormat f .all = .ok t
      ∧ (t.prepare 2 voyage).1 = .ok done
      ∧ done.line
        = ("42;1010000,5430000,1583020800000,12,10000,10000,86400000,11;Kiel;a,1,b,2" : Text)
      ∧ ∃ (a : t.Account 2 voyage done) (columns fields : List Column),
        Agreement f .all a columns fields := by
  have run : ((compile voyagesDescription).result >>= fun f => ofFormat f .all).map
      (fun t => (t.prepare 2 voyage).1.map Transformed.line)
      = .ok (.ok "42;1010000,5430000,1583020800000,12,10000,10000,86400000,11;Kiel;a,1,b,2") := by
    decide +kernel
  obtain ⟨t, transformer, lines⟩ := map_eq_ok.mp run
  obtain ⟨f, compiled, made⟩ := bind_eq_ok.mp transformer
  obtain ⟨done, accepted, line⟩ := map_eq_ok.mp lines
  exact ⟨f, t, done, compiled, made, accepted, line, emitted_as_described compiled made accepted⟩

end Record.Transformer

end TrajectoryFormat
