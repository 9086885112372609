import TrajectoryFormat.Command.Work
import TrajectoryFormat.Proofs.AcceptedRecord
import TrajectoryFormat.Proofs.CompiledModel

/-!
# The gate of compilation

What is compiled can be used. A transformer and a loader can be made for every compiled format, no
line of its description was passed over, its coordinates array is read in full, and no value of a
setting that was accepted is left unused.
-/

namespace TrajectoryFormat

open Checked Description Record

/-! ## The coordinates array -/

@[simp] theorem length_attributesOf (tokens : List Token) :
    (ArrayFormat.attributesOf tokens).length = tokens.length / 3 := by
  fun_induction ArrayFormat.attributesOf tokens with
  | case1 name type delimiter rest ih =>
    rw [List.length_cons, ih]
    simp only [List.length_cons]
    omega
  | case2 tokens short =>
    rcases tokens with _ | ⟨a, _ | ⟨b, _ | ⟨c, rest⟩⟩⟩
    · simp
    · simp
    · simp
    · exact absurd rfl (short a b c rest)

/-- A checked array has no words left over after its triples. -/
theorem length_of_checkArray {declaration : Text} (checked : checkArray declaration = .ok ()) :
    3 * (ArrayFormat.ofDeclaration declaration).attributes.length
      = (arrayTokens declaration).length := by
  simp only [checkArray, guarded_eq_ok] at checked
  have triples : (arrayTokens declaration).length % 3 = 0 := by
    have := checked.2.1
    simp only [Bool.or_eq_true, not_or, bne_iff_ne, ne_eq, not_not] at this
    exact this.2
  rw [ArrayFormat.ofDeclaration, length_attributesOf]
  omega

/-- No array stands inside an array. -/
theorem arrayType_notMem_arrayTypes (name : Text) : LexicalClass.arrayType ∉ arrayTypes name := by
  unfold arrayTypes
  split <;> decide

/-- The date patterns inside a checked array are read. -/
theorem datePattern_of_checkTriples {declaration : Text} {tokens : List Token}
    (classified : Classified tokens) (h : checkTriples declaration tokens = .ok ()) :
    ∀ a ∈ ArrayFormat.attributesOf tokens, DeclaredType.isDatetime a.declaredType = true →
      ∃ pattern, datePattern a.declaredType = .ok pattern := by
  fun_induction ArrayFormat.attributesOf tokens with
  | case1 name type delimiter rest ih =>
    obtain ⟨⟨_, allowed, _, read⟩, others⟩ := checkTriples_cons_eq_ok.mp h
    rw [List.forall_mem_cons]
    constructor
    · intro dated
      obtain ⟨first, kind⟩ := classified type (by simp)
      have dateOrArray : classOf type.value first ∈ [LexicalClass.arrayType, .dateType] :=
        classOf_of_isDatetime dated first
      rw [← kind] at dateOrArray
      apply read
      rcases List.mem_cons.mp dateOrArray with array | date
      · exact absurd (array ▸ allowed) (arrayType_notMem_arrayTypes _)
      · exact List.mem_singleton.mp date
    · exact ih (fun token mem => classified token (by simp [mem])) others
  | case2 => simp

/-! ## Making a transformer -/

theorem exists_scale {precision : Nat} (bound : precision ≤ 28) :
    ∃ scale, Transformer.scaleOf precision = .ok scale := by
  have all : ∀ n < 29, (Decimal.powerOfTen? n).isSome = true := by decide
  obtain ⟨scale, found⟩ := Option.isSome_iff_exists.mp (all precision (Nat.lt_succ_of_le bound))
  exact ⟨scale, by rw [Transformer.scaleOf, found]⟩

theorem exists_axis {array : ArrayFormat} {place : Nat} (bound : place < array.attributes.length) :
    ∃ a ∈ array.attributes, axis? array (some place) = some ⟨place, a.declaredType⟩ := by
  refine ⟨array.attributes[place], List.getElem_mem bound, ?_⟩
  simp [axis?, bound]

namespace Compiled

variable {f : DataFormat} {lines : List (List Token)}

theorem exists_transformer (h : Compiled f lines) (shape : OutputShape) :
    ∃ t, Transformer.ofFormat f shape = .ok t := by
  obtain ⟨_, _, a, _, _, declared, checked, complete⟩ := h.exists_coordinates
  obtain ⟨⟨x, y, time, hx, hy, htime, xBound, yBound, timeBound, _⟩, _⟩ :=
    ArrayFormat.hasAxes_of_missingAxes complete
  obtain ⟨_, _, xAxis⟩ := exists_axis xBound
  obtain ⟨_, _, yAxis⟩ := exists_axis yBound
  obtain ⟨b, mem, timeAxis⟩ := exists_axis timeBound
  obtain ⟨scale, scaled⟩ := exists_scale h.precision_le
  obtain ⟨pattern, dates⟩ : ∃ pattern, Transformer.patternOf b.declaredType = .ok pattern := by
    have reads := datePattern_of_checkTriples (classified_arrayTokens _)
      (checkTriples_of_checkArray checked) b mem
    unfold Transformer.patternOf
    split
    · next dated =>
      obtain ⟨pattern, read⟩ := reads dated
      exact ⟨some pattern, by rw [read]; rfl⟩
    · exact ⟨none, rfl⟩
  exact ⟨⟨f, _, _, _, _, pattern, scale, shape⟩, Transformer.ofFormat_eq_ok.mpr
    ⟨declared, rfl, rfl, hx ▸ xAxis, hy ▸ yAxis, htime ▸ timeAxis, dates, scaled⟩⟩

theorem exists_loader (h : Compiled f lines) (shape? : Option OutputShape) :
    ∃ l, Load.Loader.ofFormat f shape? = .ok l := by
  obtain ⟨system, known⟩ := h.exists_system
  obtain ⟨t, made⟩ := h.exists_transformer (shape?.getD f.outputShape)
  exact ⟨⟨t, .ofSystem system, 0, .empty, false⟩, by rw [Load.Loader.ofFormat, known, made]; rfl⟩

end Compiled

/-! ## Settings -/

/-- A value that changes a format in the way that its setting says, whatever the format was
before. -/
def Heeded (name value : Text) : Prop :=
  ∀ g : DataFormat,
    (name = Keyword.coordinateSystem.name → ∃ system, CoordinateSystem.ofName? value = some system
      ∧ (g.set name value).coordinateSystem? = some system)
    ∧ (name = Keyword.outputFormat.name → ∃ shape, OutputShape.ofName? value = some shape
      ∧ (g.set name value).outputShape = shape)
    ∧ (name = Keyword.decimalPrecision.name → Number.isDigits value = true
      ∧ (g.set name value).decimalPrecision = Number.value value)

theorem heeded_of_accepted {name value : Token} (accepted : Accepted [name, value])
    (classified : Classified [name, value]) : Heeded name.value value.value := by
  have given : ∀ {k : Keyword}, name.value = k.name →
      setting? k [name, value] = some value.value := by
    intro k named
    cases accepted with
    | setting kind => simp [setting?, Token.isKind, kind, named, Keyword.lookup?_name]
  intro g
  refine ⟨?_, ?_, ?_⟩
  · intro named
    obtain ⟨system, known⟩ := accepted.exists_system classified (given named)
    refine ⟨system, known, ?_⟩
    simp [DataFormat.set, named, Keyword.lookup?_name, DataFormat.coordinateSystem?, known]
  · intro named
    obtain ⟨shape, known⟩ := accepted.exists_shape classified (given named)
    refine ⟨shape, known, ?_⟩
    simp [DataFormat.set, named, Keyword.lookup?_name, known]
  · intro named
    obtain ⟨digits, _, known⟩ := accepted.precision (given named)
    refine ⟨digits, ?_⟩
    simp [DataFormat.set, named, Keyword.lookup?_name, known]

/-- A format that has the last value given for each setting, whatever stands before it. -/
structure HasLast (f : DataFormat) (lines : List (List Token)) : Prop where
  system : ∀ {value}, latest (setting? .coordinateSystem) lines = some value →
    ∃ system, CoordinateSystem.ofName? value = some system ∧ f.coordinateSystem? = some system
  shape : ∀ {value}, latest (setting? .outputFormat) lines = some value →
    ∃ shape, OutputShape.ofName? value = some shape ∧ f.outputShape = shape
  precision : ∀ {value}, latest (setting? .decimalPrecision) lines = some value →
    Number.isDigits value = true ∧ f.decimalPrecision = Number.value value
  delimiter : ∀ {value}, latest (setting? .recordsDelimiter) lines = some value →
    f.recordDelimiter = RecordDelimiter.ofValue value
  autoId : f.autoIdPrefix = latest (setting? .autoId) lines

theorem Compiled.hasLast {f : DataFormat} {lines : List (List Token)} (h : Compiled f lines) :
    HasLast f lines where
  system := by
    intro value last
    obtain ⟨line, mem, given⟩ := exists_of_latest last
    obtain ⟨system, known⟩ := (h.accepted line mem).exists_system (h.classified line mem) given
    refine ⟨system, known, ?_⟩
    rw [h.format, DataFormat.coordinateSystem?, DataFormat.readOff, last, Option.getD_some, known]
  shape := by
    intro value last
    have read : ∀ line ∈ lines, ∀ v, setting? .outputFormat line = some v →
        ∃ shape, OutputShape.ofName? v = some shape :=
      fun line mem v => (h.accepted line mem).exists_shape (h.classified line mem)
    obtain ⟨line, mem, given⟩ := exists_of_latest last
    obtain ⟨shape, known⟩ := read line mem value given
    refine ⟨shape, known, ?_⟩
    rw [h.format, DataFormat.readOff, latest_bind read, last, Option.bind_some, known,
      Option.getD_some]
  precision := by
    intro value last
    have read : ∀ line ∈ lines, ∀ v, setting? .decimalPrecision line = some v →
        ∃ n, Number.read? Number.limit32 v = some n :=
      fun line mem v given => ⟨_, ((h.accepted line mem).precision given).2.2⟩
    obtain ⟨line, mem, given⟩ := exists_of_latest last
    obtain ⟨digits, _, known⟩ := (h.accepted line mem).precision given
    refine ⟨digits, ?_⟩
    rw [h.format, DataFormat.readOff, latest_bind read, last, Option.bind_some, known,
      Option.getD_some]
  delimiter := by
    intro value last
    rw [h.format, DataFormat.readOff, ← map_latest, last, Option.map_some, Option.getD_some]
  autoId := by rw [h.format, DataFormat.readOff]

/-- What is compiled can be used, whatever the shape of the output: a transformer is made, and a
loader. No line of the description has the form of those that change no format, no word of its
coordinates array is left over, and every value of the coordinate system, the output shape and the
precision is heeded. The format has the last value given for each setting. -/
theorem usable_of_compile {description : Text} {f : DataFormat}
    (compiled : (compile description).result = .ok f) :
    (∀ shape, ∃ t, Transformer.ofFormat f shape = .ok t)
      ∧ (∀ shape?, ∃ l, (Command.loaderOf description shape?).1 = .ok l)
      ∧ ∃ tokens, tokens? (Text.lines description) = some tokens ∧ f = DataFormat.ofTokens tokens
        ∧ (∀ line ∈ declarationLines tokens, isPassedOver line = false)
        ∧ (∀ line, isPassedOver line = true → ∀ g : DataFormat, g.declare line = g)
        ∧ (∀ array, f.coordinates = some array →
            3 * array.attributes.length = (arrayTokens array.declaration).length)
        ∧ (∀ name value, [name, value] ∈ declarationLines tokens → Heeded name.value value.value)
        ∧ HasLast f (declarationLines tokens) := by
  obtain ⟨tokens, lexed, h⟩ := compiled_of_compile compiled
  refine ⟨h.exists_transformer, ?_, tokens, lexed, ?_, ?_, ?_, ?_, ?_, h.hasLast⟩
  · intro shape?
    obtain ⟨l, made⟩ := h.exists_loader shape?
    exact ⟨l, by rw [Command.loaderOf, compiled]; exact made⟩
  · rw [DataFormat.ofTokens_eq]
    exact h.format
  · intro line mem
    exact (h.accepted line mem).not_passedOver
  · intro line passed g
    exact declare_of_isPassedOver passed g
  · intro array declared
    obtain ⟨_, _, a, _, _, first, checked, _⟩ := h.exists_coordinates
    rw [first] at declared
    cases declared
    exact length_of_checkArray checked
  · intro name value mem
    exact heeded_of_accepted (h.accepted _ mem) (h.classified _ mem)

theorem usable_of_compile_harborDescription :
    ∃ f, (compile harborDescription.val).result = .ok f
      ∧ (∀ shape, ∃ t, Transformer.ofFormat f shape = .ok t)
      ∧ (∀ shape?, ∃ l, (Command.loaderOf harborDescription.val shape?).1 = .ok l)
      ∧ ∃ tokens, tokens? (Text.lines harborDescription.val) = some tokens
        ∧ f = DataFormat.ofTokens tokens
        ∧ (∀ line ∈ declarationLines tokens, isPassedOver line = false)
        ∧ (∀ line, isPassedOver line = true → ∀ g : DataFormat, g.declare line = g)
        ∧ (∀ array, f.coordinates = some array →
            3 * array.attributes.length = (arrayTokens array.declaration).length)
        ∧ (∀ name value, [name, value] ∈ declarationLines tokens → Heeded name.value value.value)
        ∧ HasLast f (declarationLines tokens) := by
  obtain ⟨f, compiled⟩ := exists_of_isOk harborDescription.property
  exact ⟨f, compiled, usable_of_compile compiled⟩

end TrajectoryFormat
