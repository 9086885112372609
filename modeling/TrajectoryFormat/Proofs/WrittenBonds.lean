import TrajectoryFormat.Proofs.CopiedValues
import TrajectoryFormat.Proofs.DescribedBonds
import TrajectoryFormat.Proofs.DescriptionCharacters
import TrajectoryFormat.Proofs.RecordGroups

/-!
# Bonds that are written

Bonds are put into descriptions and records while these are read, and nothing takes them out again
where a declared type or a value is written as it is kept. The descriptor shows the date bonds of
the attributes that it describes by their own types. A line shows the date bonds of the prefix of
its ID, and the line bonds inside of values that are copied into it. All other parts of both are
free of bonds.
-/

namespace TrajectoryFormat

open Checked Description Output Text

variable {c : Char} {description : Text} {f : DataFormat} {shape : OutputShape} {a : Attribute}

namespace Record

open Transformer

variable {t : Transformer} {counter : Nat} {record : Text} {done : Transformed}

/-! ## Bonds in records -/

theorem subset_keptLines (f : DataFormat) (lines : List Text) : keptLines f lines ⊆ lines :=
  subset_filter_zipIdx lines _

/-- But for line bonds a record has the characters of its lines. -/
theorem exists_line_of_mem {lines : List Text} (other : c ≠ lineBond)
    (among : record ∈ segments f lines) (mem : c ∈ record) : ∃ line ∈ lines, c ∈ line := by
  have apart : c ∉ ([lineBond] : Text) := by simpa using other
  have made := (List.mem_filter.mp among).1
  unfold grouped at made
  split at made
  · exact ⟨record, subset_keptLines _ _ made, mem⟩
  · rw [List.mem_singleton.mp made, mem_join_iff apart] at mem
    obtain ⟨line, kept, here⟩ := mem
    exact ⟨line, subset_keptLines _ _ kept, here⟩
  · next mark _ =>
    rw [openedBy_eq] at made
    obtain ⟨group, inside, rfl⟩ := List.mem_map.mp made
    rw [recordOf, mem_join_iff apart] at mem
    obtain ⟨part, within, here⟩ := mem
    obtain ⟨line, grouped, rfl⟩ := List.mem_map.mp ((List.dropWhile_sublist _).subset within)
    have kept : line ∈ keptLines f lines := by
      rw [← List.flatten_splitBy (fun _ line => !mark.isPrefixOf line) (keptLines f lines)]
      exact List.mem_flatten_of_mem inside grouped
    refine ⟨line, subset_keptLines _ _ kept, ?_⟩
    unfold unmarked at here
    split at here
    · exact List.mem_of_mem_drop here
    · exact here

/-- Where every line is a record, no record has several. -/
theorem mem_of_mem_segments {lines : List Text} (single : f.recordDelimiter = .lineBreak)
    (among : record ∈ segments f lines) : record ∈ lines := by
  have made := (List.mem_filter.mp among).1
  rw [single] at made
  exact subset_keptLines _ _ made

/-! ## Bonds in lines -/

/-- An array is written without the line bonds that it is cut at, and any other value with all of
its own. -/
theorem mem_furtherValue_iff (absent : lineBond ∉ a.declaredType) (value : Text) :
    lineBond ∈ furtherValue a value ↔ lineBond ∈ value
      ∧ (DeclaredType.isArray a.declaredType = true →
      ∀ b ∈ (ArrayFormat.ofDeclaration a.declaredType).attributes, b.delimiter ≠ [lineBond]) := by
  rw [furtherValue]
  split
  · next isArray =>
    have lacks := lacks_ofDeclaration (by decide) absent
    rw [mem_flatten_iff (by decide) fun b mem => (lacks b mem).delimiter]
    simp [isArray]
  · next other => simp [other]

/-- A generated ID has the bonds of its prefix. -/
theorem mem_generatedId_iff (bond : IsBond c) {idPrefix id : Text} {n : Nat}
    (generated : generatedId idPrefix n = .ok id) : c ∈ id ↔ c ∈ idPrefix := by
  have low_line : c ∉ (['_'] : Text) := bond.notMem (by decide)
  rw [generatedId] at generated
  split at generated
  · next base read =>
    split at generated
    · cases generated
      exact iff_of_false (bond.notMem_ofNat _) (bond.notMem_of_read? read)
    · cases generated
  · cases generated
    rw [List.mem_append, List.mem_cons, or_iff_left]
    rw [not_or]
    exact ⟨List.ne_of_not_mem_cons low_line, bond.notMem_ofNat _⟩

/-- A line bond of a record that comes into the line: in the ID, in an item of a point that is
copied, or in a further value where it is no delimiter of items. -/
inductive Transformer.ShowsLineBond (t : Transformer) (record : Text) : Prop
  | id {place : Nat} {value : Text} (declared : t.format.idIndex? = some place)
      (here : (splitValues t.format record)[place]? = some value) (bonded : lineBond ∈ value)
  | item {points : List (List Text)} {point : List Text} {column : Column} {value : Text}
      (cut : t.points (splitValues t.format record) = .ok points) (among : point ∈ points)
      (written : column ∈ t.pointColumns) (copied : t.Copies column.place)
      (here : point[column.place]? = some value) (bonded : lineBond ∈ value)
  | further {column : Column} {a : Attribute} {value : Text} (written : column ∈ t.furtherColumns)
      (declared : t.format.attributes[column.place]? = some a)
      (here : (splitValues t.format record)[column.place]? = some value) (bonded : lineBond ∈ value)
      (kept : DeclaredType.isArray a.declaredType = true →
        ∀ b ∈ (ArrayFormat.ofDeclaration a.declaredType).attributes, b.delimiter ≠ [lineBond])

namespace Transformer

/-- A line bond that is shown is one of the record. -/
theorem ShowsLineBond.mem_record (shown : t.ShowsLineBond record) : lineBond ∈ record := by
  have values : ∀ {i : Nat} {v : Text}, (splitValues t.format record)[i]? = some v → v ⊆ record :=
    fun here =>
    subset_splitValues (List.mem_of_getElem? here)
  rcases shown with ⟨_, here, bonded⟩ | ⟨cut, among, _, _, here, bonded⟩ | ⟨_, _, here, bonded, _⟩
  · exact values here bonded
  · obtain ⟨text, coordinates, _, _, rfl⟩ := points_eq_ok.mp cut
    obtain ⟨i, _, found⟩ := Option.bind_eq_some_iff.mp coordinates
    have item := subset_groupsOf _ _ _ among (List.mem_of_getElem? here)
    rw [splitItems] at item
    split at item
    · cases item
    · exact values found (subset_itemsFrom 0 _ (subset_dropEmptyLast _ item) bonded)
  · exact values here bonded

/-- A line has a line bond just where it is in a part of the record that is copied. -/
theorem lineBond_mem_iff (compiled : (compile description).result = .ok f)
    (made : ofFormat f shape = .ok t) (lacks : f.Lacks lineBond)
    (accepted : (t.prepare counter record).1 = .ok done) :
    lineBond ∈ done.line ↔ t.ShowsLineBond record := by
  have invariants := invariants_of_compile compiled
  obtain ⟨acc⟩ := exists_account accepted
  obtain ⟨_, rfl, _⟩ := ofFormat_eq_ok.mp made
  have id : lineBond ∈ acc.id ↔ ∃ i value, t.format.idIndex? = some i ∧
      (splitValues t.format record)[i]? = some value ∧ lineBond ∈ value := by
    cases identity : t.format.autoIdPrefix with
    | some idPrefix =>
      have undeclared : t.format.idIndex? = none := by
        simpa [identity] using invariants.identity
      rw [mem_generatedId_iff (.inl rfl) (acc.id_of_generated identity), undeclared]
      exact iff_of_false (lacks.idPrefix idPrefix identity) (by simp)
    | none =>
      obtain ⟨i, place, here⟩ := acc.id_of_declared invariants identity
      simp [place, here]
  have further : (∃ s ∈ t.furtherFields (splitValues t.format record), lineBond ∈ s) ↔
      ∃ column ∈ t.furtherColumns, ∃ a, t.format.attributes[column.place]? = some a ∧
        lineBond ∈ furtherValue a ((splitValues t.format record)[column.place]?.getD []) := by
    rw [furtherFields_eq t (length_splitValues _ _)]
    simp only [List.mem_map, exists_exists_and_eq_and, fieldValue]
    refine exists_congr fun column => and_congr_right fun _ => ?_
    cases t.format.attributes[column.place]? <;> simp
  rw [acc.mem_line_iff (by decide) (by decide), id,
    acc.mem_rows_iff made (by decide) (by decide), further]
  constructor
  · rintro (⟨i, value, place, here, bonded⟩ | ⟨point, among, column, written, copied, item,
      here, bonded⟩
      | ⟨column, written, a, declared, bonded⟩)
    · exact .id place here bonded
    · exact .item acc.points_eq among written copied here bonded
    · have absent := (lacks.attributes a (List.mem_of_getElem? declared)).declaredType
      obtain ⟨bonded, kept⟩ := (mem_furtherValue_iff absent _).mp bonded
      cases here : (splitValues t.format record)[column.place]? with
      | none => simp [here] at bonded
      | some value =>
        rw [here] at bonded
        exact .further written declared here bonded kept
  · rintro (⟨place, here, bonded⟩ | ⟨cut, among, written, copied, here, bonded⟩
      | ⟨written, declared, here, bonded, kept⟩)
    · exact .inl ⟨_, _, place, here, bonded⟩
    · obtain rfl := Except.ok.inj (cut.symm.trans acc.points_eq)
      exact .inr (.inl ⟨_, among, _, written, copied, _, here, bonded⟩)
    · have absent := (lacks.attributes _ (List.mem_of_getElem? declared)).declaredType
      refine .inr (.inr ⟨_, written, _, declared, ?_⟩)
      rw [mem_furtherValue_iff absent, here]
      exact ⟨bonded, kept⟩

/-- A line has a date bond just where the prefix of its ID has one. -/
theorem dateBond_mem_iff (compiled : (compile description).result = .ok f)
    (made : ofFormat f shape = .ok t) (clean : dateBond ∉ record)
    (accepted : (t.prepare counter record).1 = .ok done) :
    dateBond ∈ done.line ↔ ∃ idPrefix ∈ f.autoIdPrefix, dateBond ∈ idPrefix := by
  have invariants := invariants_of_compile compiled
  obtain ⟨acc⟩ := exists_account accepted
  obtain ⟨_, rfl, _⟩ := ofFormat_eq_ok.mp made
  have values : ∀ value ∈ splitValues t.format record, dateBond ∉ value := fun value mem bonded =>
    clean (subset_splitValues mem bonded)
  have rows : ¬∃ s ∈ acc.rows.flatten, dateBond ∈ s := by
    obtain ⟨text, coordinates, _, items⟩ := acc.exists_coordinates
    obtain ⟨i, _, here⟩ := Option.bind_eq_some_iff.mp coordinates
    have absent : ∀ point ∈ acc.points, ∀ item ∈ point, dateBond ∉ item :=
      fun point among item mem bonded =>
      values text (List.mem_of_getElem? here)
        (subset_itemsFrom 0 item (items point among item mem) bonded)
    rintro ⟨s, mem, bonded⟩
    exact acc.notMem_rows (by decide) (by decide) absent s mem bonded
  have further : ¬∃ s ∈ t.furtherFields (splitValues t.format record), dateBond ∈ s := by
    rintro ⟨s, mem, bonded⟩
    rw [furtherFields_eq t (length_splitValues _ _)] at mem
    obtain ⟨column, _, rfl⟩ := List.mem_map.mp mem
    have absent : dateBond ∉ (splitValues t.format record)[column.place]?.getD [] := by
      cases here : (splitValues t.format record)[column.place]? with
      | none => exact List.not_mem_nil
      | some value => exact values value (List.mem_of_getElem? here)
    rw [fieldValue] at bonded
    cases declared : t.format.attributes[column.place]? with
    | none => simp [declared] at bonded
    | some a =>
      rw [declared] at bonded
      exact notMem_furtherValue (by decide) absent bonded
  rw [acc.mem_line_iff (by decide) (by decide), or_iff_left (not_or.mpr ⟨rows, further⟩)]
  cases identity : t.format.autoIdPrefix with
  | some idPrefix =>
    rw [mem_generatedId_iff (.inr rfl) (acc.id_of_generated identity)]
    simp
  | none =>
    obtain ⟨i, _, here⟩ := acc.id_of_declared invariants identity
    exact iff_of_false (values acc.id (List.mem_of_getElem? here)) (by simp)

end Transformer

/-! ## Bonds in what is written -/

/-- A record of the lines of a file that is accepted, and its line. -/
structure Emits (f : DataFormat) (shape : OutputShape) (lines : List Text) (t : Transformer)
    (record line : Text) :
    Prop where
  made : ofFormat f shape = .ok t
  among : record ∈ segments f lines
  accepted : ∃ counter done, (t.prepare counter record).1 = .ok done ∧ done.line = line

/-- No line of a description has a blank inside a date pattern. -/
def Unbonded (description : Text) : Prop :=
  ∀ line ∈ Text.lines description, bondPatterns (trim line) = trim line

/-- The bonds in the descriptor and in the lines that are written for a file: date bonds with the
declarations that are repeated and with the prefix of IDs, line bonds inside of values on several
lines. There are no date bonds where date patterns have no blanks, and no line bonds where every
line is a record. -/
structure BondsWritten (description : Text) (f : DataFormat) (shape : OutputShape)
    (lines : List Text) :
    Prop where
  descriptor_line : lineBond ∉ descriptor f shape
  descriptor_date : dateBond ∈ descriptor f shape ↔
    ∃ a ∈ describedAttributes f shape, dateBond ∈ a.name ++ a.declaredType
  line : ∀ t record line, Emits f shape lines t record line →
    (lineBond ∈ line ↔ t.ShowsLineBond record)
  date : ∀ t record line, Emits f shape lines t record line →
    (dateBond ∈ line ↔ ∃ idPrefix ∈ f.autoIdPrefix, dateBond ∈ idPrefix)
  joined : ∀ t record line, Emits f shape lines t record line → lineBond ∈ line →
    lineBond ∈ record ∧ f.recordDelimiter ≠ .lineBreak
  unbonded : Unbonded description → dateBond ∉ descriptor f shape ∧
    ∀ t record line, Emits f shape lines t record line → dateBond ∉ line

theorem notMem_of_describedAttributes (lacks : f.Lacks c) :
    ∀ a ∈ describedAttributes f shape, c ∉ a.name ++ a.declaredType := by
  intro a mem
  have own : a.Lacks c := by
    cases shape with
    | spatial => cases mem
    | spatialTemporal => cases mem
    | all =>
      rcases List.mem_append.mp mem with semantic | further
      · cases array : f.coordinates with
        | none =>
          rw [array] at semantic
          cases semantic
        | some coordinates =>
          rw [array] at semantic
          exact lacks.items _ array a (subset_filter_zipIdx _ _ semantic)
      · exact lacks.attributes a (subset_filter_zipIdx _ _ further)
  rw [List.mem_append, not_or]
  exact ⟨own.name, own.declaredType⟩

/-- Where the bonds come out that are put into a description and a file without any. -/
theorem bonds_written {lines : List Text} (compiled : (compile description).result = .ok f)
    (described : ∀ c, IsBond c → c ∉ description) (clean : ∀ line ∈ lines, ∀ c, IsBond c → c ∉ line)
    (shape : OutputShape) : BondsWritten description f shape lines := by
  have whole : ∀ {c}, IsBond c → ∀ line ∈ Text.lines description, c ∉ trim line :=
    fun bond line mem here =>
    described _ bond (subset_of_mem_lines mem (subset_trim line here))
  have lacks : f.Lacks lineBond := lacks_of_compile compiled (by decide) fun line mem =>
    notMem_bondPatterns (whole (.inl rfl) line mem) (by decide)
  have date : ∀ t record line, Emits f shape lines t record line →
      (dateBond ∈ line ↔ ∃ idPrefix ∈ f.autoIdPrefix, dateBond ∈ idPrefix) := by
    rintro t record _ ⟨made, among, counter, done, accepted, rfl⟩
    refine dateBond_mem_iff compiled made (fun bonded => ?_) accepted
    obtain ⟨line, mem, here⟩ := exists_line_of_mem (by decide) among bonded
    exact clean line mem _ (.inr rfl) here
  constructor
  case descriptor_line =>
    rw [mem_descriptor_iff (.inl rfl) compiled]
    rintro ⟨a, mem, bonded⟩
    exact notMem_of_describedAttributes lacks a mem bonded
  case descriptor_date => exact mem_descriptor_iff (.inr rfl) compiled shape
  case line =>
    rintro t record _ ⟨made, _, counter, done, accepted, rfl⟩
    exact lineBond_mem_iff compiled made lacks accepted
  case date => exact date
  case joined =>
    rintro t record _ ⟨made, among, counter, done, accepted, rfl⟩ bonded
    have inside := ((lineBond_mem_iff compiled made lacks accepted).mp bonded).mem_record
    exact ⟨inside, fun single => clean record (mem_of_mem_segments single among)
      _ (.inl rfl) inside⟩
  case unbonded =>
    intro unbonded
    have free : f.Lacks dateBond := lacks_of_compile compiled (by decide) fun line mem =>
      (unbonded line mem).symm ▸ whole (.inr rfl) line mem
    rw [mem_descriptor_iff (.inr rfl) compiled]
    refine ⟨fun ⟨a, mem, bonded⟩ => notMem_of_describedAttributes free a mem bonded, ?_⟩
    intro t record line emitted
    rw [date t record line emitted]
    rintro ⟨idPrefix, generated, bonded⟩
    exact free.idPrefix idPrefix generated bonded

/-- A description with records that have several lines, and a date pattern with a blank. -/
def logbookDescription : Text :=
  Text.join "\n"
    ["_RECORDS_DELIM EOF", "_ID STRING ;",
      "_COORDINATES ARRAY(_X DECIMAL , _Y DECIMAL , _TIME INTEGER ,) ;",
      "seen DATETIME[\"yyyy-MM-dd HH:mm\"] EOF"]

def logbook : List Text := ["kite;0,0,1;2024-01-02 03:04", "calm"]

theorem logbook_private : (∀ c, IsBond c → c ∉ logbookDescription) ∧ ∀ line ∈ logbook, ∀ c,
    IsBond c → c ∉ line := by
  refine ⟨fun c bond => bond.notMem (by decide +kernel), fun line mem c bond => bond.notMem ?_⟩
  revert line
  decide +kernel

/-- The whole logbook is one record, which is accepted. Whether there are bonds in the descriptor
and in the line. -/
theorem logbook_reached : ((compile logbookDescription).result >>= fun f => ofFormat f .all).map
    (fun t => (decide (dateBond ∈ descriptor t.format .all), segments t.format logbook,
      (t.prepare 0 (join [lineBond] logbook)).1.map fun done => decide (lineBond ∈ done.line)))
    = .ok (true, [join [lineBond] logbook], .ok true) := by
  decide +kernel

theorem bonds_written_logbook :
    ∃ f, (compile logbookDescription).result = .ok f ∧ (∀ c, IsBond c → c ∉ logbookDescription)
      ∧ (∀ line ∈ logbook, ∀ c, IsBond c → c ∉ line)
      ∧ BondsWritten logbookDescription f .all logbook := by
  obtain ⟨described, clean⟩ := logbook_private
  obtain ⟨_, transformer, _⟩ := map_eq_ok.mp logbook_reached
  obtain ⟨f, compiled, _⟩ := bind_eq_ok.mp transformer
  exact ⟨f, compiled, described, clean, bonds_written compiled described clean .all⟩

/-- The blank of the date pattern comes out as a date bond in the descriptor, and the end of the
first line as a line bond in the line of the record. -/
theorem bonds_escape :
    ∃ f t record done, (compile logbookDescription).result = .ok f ∧ ofFormat f .all = .ok t
      ∧ (∀ c, IsBond c → c ∉ logbookDescription) ∧ (∀ line ∈ logbook, ∀ c, IsBond c → c ∉ line)
      ∧ dateBond ∈ descriptor f .all ∧ record ∈ segments f logbook
      ∧ (t.prepare 0 record).1 = .ok done
      ∧ lineBond ∈ done.line := by
  obtain ⟨described, clean⟩ := logbook_private
  obtain ⟨t, transformer, outcome⟩ := map_eq_ok.mp logbook_reached
  obtain ⟨f, compiled, made⟩ := bind_eq_ok.mp transformer
  obtain ⟨inDescriptor, records⟩ := Prod.mk.inj outcome
  obtain ⟨record, prepared⟩ := Prod.mk.inj records
  obtain ⟨done, accepted, inLine⟩ := map_eq_ok.mp prepared
  obtain ⟨_, rfl, _⟩ := ofFormat_eq_ok.mp made
  exact ⟨_, t, _, done, compiled, made, described, clean, of_decide_eq_true inDescriptor,
    record ▸ List.mem_singleton_self _, accepted, of_decide_eq_true inLine⟩

end Record

end TrajectoryFormat
