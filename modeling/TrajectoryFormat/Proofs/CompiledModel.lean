import Mathlib.Data.List.Pairwise
import TrajectoryFormat.Proofs.ArrayForm
import TrajectoryFormat.Proofs.FormatOfLines

/-!
# Invariants of compiled formats

What holds of every format that is compiled. Trajectories are told apart in one way, the coordinates
array is the one that the coordinates attribute declares, its three axes have places of their own,
the names of attributes differ, and the settings are in range.
-/

namespace TrajectoryFormat

open Checked Description Text

/-! ## Places of attributes -/

section Places
variable {attributes : List Attribute} {names names' : List Keyword} {i : Nat}

theorem position?_eq_some (h : position? attributes names = some i) :
    ∃ a, attributes[i]? = some a ∧ ∃ k ∈ names, a.name = k.name := by
  obtain ⟨bound, named, _⟩ := List.findIdx?_eq_some_iff_getElem.mp h
  refine ⟨attributes[i], List.getElem?_eq_getElem bound, ?_⟩
  simpa [Attribute.isNamed] using named

theorem position?_lt (h : position? attributes names = some i) : i < attributes.length :=
  (List.findIdx?_eq_some_iff_getElem.mp h).1

theorem position?_isSome :
    (position? attributes names).isSome = true ↔ ∃ a ∈ attributes, ∃ k ∈ names,
      a.name = k.name := by
  simp [position?, List.findIdx?_isSome, Attribute.isNamed]

/-- Attributes of different names have different places. -/
theorem position?_ne (apart : ∀ k ∈ names, k ∉ names') (h : position? attributes names = some i) :
    position? attributes names' ≠ some i := by
  intro h'
  obtain ⟨a, here, k, mem, named⟩ := position?_eq_some h
  obtain ⟨b, here', k', mem', named'⟩ := position?_eq_some h'
  obtain rfl : a = b := Option.some.inj (here.symm.trans here')
  obtain rfl : k = k' := Keyword.name_injective (named.symm.trans named')
  exact apart k mem mem'

end Places

/-! ## Names that differ -/

theorem Description.Facts.pairwise_of_duplicates {seen names : List Text}
    (fresh : ∀ s ∈ seen, ∀ n ∈ names, s.sameIgnoringCase n = false)
    (none_twice : Facts.duplicates seen names = []) :
    names.Pairwise fun a b => a.sameIgnoringCase b = false := by
  induction names generalizing seen with
  | nil => exact .nil
  | cons name rest ih =>
    have unseen : seen.any name.sameIgnoringCase = false := by
      rw [List.any_eq_false]
      intro s mem
      rw [sameIgnoringCase_comm, fresh s mem name List.mem_cons_self]
      exact Bool.false_ne_true
    simp only [Facts.duplicates, unseen, Bool.not_false, Bool.true_and] at none_twice
    split at none_twice
    · cases none_twice
    · next once =>
      have differs : ∀ n ∈ rest, name.sameIgnoringCase n = false := by simpa using once
      refine .cons differs (ih ?_ none_twice)
      intro s mem n here
      rcases List.mem_append.mp mem with mem | mem
      · exact fresh s mem n (List.mem_cons_of_mem _ here)
      · rw [List.mem_singleton.mp mem]
        exact differs n here

/-- Names that differ are not found twice. -/
theorem Description.Facts.duplicates_of_pairwise {names : List Text}
    (differ : names.Pairwise fun a b => a.sameIgnoringCase b = false) (seen : List Text) :
    Facts.duplicates seen names = [] := by
  induction names generalizing seen with
  | nil => rfl
  | cons name rest ih =>
    rw [List.pairwise_cons] at differ
    have once : rest.any name.sameIgnoringCase = false := by simpa using differ.1
    simp [Facts.duplicates, once, ih differ.2]

theorem Description.Facts.identityViolations_eq_nil {facts : Facts} :
    facts.identityViolations = [] ↔
      facts.attributeNames.contains Keyword.id.name = !facts.autoId.isSome := by
  unfold identityViolations
  generalize facts.attributeNames.contains Keyword.id.name = declared
  generalize facts.autoId.isSome = generated
  cases declared <;> cases generated <;> simp

/-! ## Accepted declarations -/

namespace Description

theorem Accepted.legal {line : List Token} {k : Keyword} {v : Text} (accepted : Accepted line)
    (given : setting? k line = some v) : ∃ name value, line = [name, value] ∧ value.value = v
      ∧ Legal value k := by
  unfold setting? at given
  split at given
  · next name value =>
    split at given
    · next known =>
      cases given
      cases accepted with
      | setting _ legal => exact ⟨name, value, rfl, rfl, (checkValue_eq_ok known.2 value).mp legal⟩
    · cases given
  · cases given

/-- The coordinates of an accepted line have an array type that passes its check. -/
theorem Accepted.array {line : List Token} {declaredType : Text} (accepted : Accepted line)
    (given : coordinatesType? line = some declaredType) : checkArray declaredType = .ok () := by
  cases accepted with
  | setting => simp [coordinatesType?, declared?] at given
  | @declared name type delimiter kind _ _ typed array =>
    simp only [coordinatesType?, declared?, Token.isKind, kind] at given
    obtain ⟨named, rfl⟩ : name.value = Keyword.coordinates.name ∧ type.value = declaredType := by
      simpa [Attribute.declared] using given
    rw [attributeTypes, named, Keyword.lookup?_name] at typed
    exact array (List.mem_singleton.mp typed)

/-- A piece of a class that only reserved words have is a reserved word of this class. -/
theorem exists_keyword_of_classOf {value : Text} {first : Bool} {c : LexicalClass}
    (kind : classOf value first = c)
    (reserved : c ∉ [LexicalClass.arrayType, .dateType, .delimiter, .attribute, .text]) :
    ∃ k, Keyword.lookupIgnoringCase? value = some k ∧ k.lexicalClass = c := by
  subst kind
  unfold classOf at *
  split_ifs at * with array date mark
  · exact absurd reserved (by decide)
  · exact absurd reserved (by decide)
  · exact absurd reserved (by decide)
  all_goals
    split at reserved
    · next k known => exact ⟨k, known, rfl⟩
    · exact absurd reserved (by decide)

theorem exists_system_of_classOf {value : Text} {first : Bool}
    (kind : classOf value first = .coordinateSystem) :
    ∃ system, CoordinateSystem.ofName? value = some system := by
  obtain ⟨k, known, ofClass⟩ := exists_keyword_of_classOf kind (by decide)
  simp only [CoordinateSystem.ofName?, known]
  revert ofClass
  cases k <;> simp [Keyword.lexicalClass]

theorem exists_shape_of_classOf {value : Text} {first : Bool}
    (kind : classOf value first = .shape) :
    ∃ shape, OutputShape.ofName? value = some shape := by
  obtain ⟨k, known, ofClass⟩ := exists_keyword_of_classOf kind (by decide)
  simp only [OutputShape.ofName?, known]
  revert ofClass
  cases k <;> simp [Keyword.lexicalClass]

/-- The system that an accepted line gives is known. -/
theorem Accepted.exists_system {line : List Token} {v : Text} (accepted : Accepted line)
    (classified : Classified line) (given : setting? .coordinateSystem line = some v) :
    ∃ system, CoordinateSystem.ofName? v = some system := by
  obtain ⟨name, value, rfl, rfl, kind⟩ := accepted.legal given
  obtain ⟨first, ofClass⟩ := classified value (by simp)
  exact exists_system_of_classOf (ofClass.symm.trans kind)

/-- The shape that an accepted line gives is known. -/
theorem Accepted.exists_shape {line : List Token} {v : Text} (accepted : Accepted line)
    (classified : Classified line) (given : setting? .outputFormat line = some v) :
    ∃ shape, OutputShape.ofName? v = some shape := by
  obtain ⟨name, value, rfl, rfl, kind⟩ := accepted.legal given
  obtain ⟨first, ofClass⟩ := classified value (by simp)
  exact exists_shape_of_classOf (ofClass.symm.trans kind)

/-- The precision that an accepted line gives is a numeral in range, and is read. -/
theorem Accepted.precision {line : List Token} {v : Text} (accepted : Accepted line)
    (given : setting? .decimalPrecision line = some v) :
    Number.isDigits v = true ∧ Number.value v ≤ maxPrecision
      ∧ Number.read? Number.limit32 v = some (Number.value v) := by
  obtain ⟨name, value, rfl, rfl, digits, bound⟩ := accepted.legal given
  have inRange : Number.value value.value < Number.limit32 := Nat.lt_of_le_of_lt bound (by decide)
  exact ⟨digits, bound, Number.read?_of_isDigits digits inRange⟩

/-- An attribute that is not left out is declared. -/
theorem declared?_of_attribute? {line : List Token} {a : Attribute}
    (added : attribute? line = some a) (kept : a.isIgnored = false) : declared? line = some a := by
  unfold attribute? at added
  cases written : declared? line with
  | some b => simpa [written] using added
  | none =>
    rw [written, Option.none_or, Option.map_eq_some_iff] at added
    obtain ⟨delimiter, _, rfl⟩ := added
    simp [Attribute.ignored, Attribute.isIgnored, Attribute.declared] at kept

theorem attribute?_of_declared? {line : List Token} {a : Attribute}
    (written : declared? line = some a) :
    attribute? line = some a := by
  rw [attribute?, written, Option.some_or]

/-- An attribute with another name than the fields that are left out is declared. -/
theorem declared?_of_named {line : List Token} {a : Attribute} (added : attribute? line = some a)
    {k : Keyword} (named : a.name = k.name) (other : k ≠ .ignoreAttribute) :
    declared? line = some a := by
  unfold attribute? at added
  cases written : declared? line with
  | some b => simpa [written] using added
  | none =>
    rw [written, Option.none_or, Option.map_eq_some_iff] at added
    obtain ⟨delimiter, _, rfl⟩ := added
    have same : Keyword.ignoreAttribute.name = k.name := named
    exact absurd (Keyword.name_injective same).symm other

end Description

/-! ## Compiled formats -/

/-- A format and the declarations that it was compiled from. -/
structure Compiled (f : DataFormat) (lines : List (List Token)) : Prop where
  format : f = DataFormat.readOff lines
  accepted : ∀ line ∈ lines, Accepted line
  classified : ∀ line ∈ lines, Classified line
  identity : (Facts.readOff lines).identityViolations = []
  coordinates : (Facts.readOff lines).coordinatesViolations = []
  names : (lines.filterMap declared?).Pairwise fun a b => a.name.sameIgnoringCase b.name = false

theorem compiled_of_compile {description : Text} {f : DataFormat}
    (h : (compile description).result = .ok f) :
    ∃ tokens, tokens? (Text.lines description) = some tokens
      ∧ Compiled f (declarationLines tokens) := by
  obtain ⟨tokens, lexed, passed, rules, rfl⟩ := compile_eq_ok.mp h
  have accepted := checkDeclarations_eq_ok.mp passed
  simp only [violations, Facts.ofTokens_eq accepted, List.append_eq_nil_iff,
    List.map_eq_nil_iff] at rules
  obtain ⟨⟨⟨identity, coordinates⟩, once⟩, _⟩ := rules
  refine ⟨tokens, lexed, DataFormat.ofTokens_eq tokens, accepted,
    classified_of_mem_declarationLines lexed, identity, coordinates, ?_⟩
  exact List.pairwise_map.mp (Facts.pairwise_of_duplicates (by simp) once)

namespace Compiled

variable {f : DataFormat} {lines : List (List Token)}

/-- Declared attributes of one name are one attribute. -/
theorem unique (h : Compiled f lines) {a b : Attribute} (ha : a ∈ lines.filterMap declared?)
    (hb : b ∈ lines.filterMap declared?) (same : a.name = b.name) : a = b := by
  have symmetric : Std.Symm fun a b : Attribute => a.name.sameIgnoringCase b.name = false :=
    ⟨fun a b differs => by rwa [sameIgnoringCase_comm]⟩
  by_contra apart
  have differs := h.names.forall ha hb apart
  rw [same, sameIgnoringCase_self] at differs
  cases differs

theorem position?_isSome_iff (h : Compiled f lines) {k : Keyword} (other : k ≠ .ignoreAttribute) :
    (position? f.attributes [k]).isSome = true ↔ ∃ a ∈ lines.filterMap declared?,
      a.name = k.name := by
  rw [h.format, position?_isSome]
  simp only [DataFormat.readOff, List.mem_filterMap, List.mem_singleton, exists_eq_left]
  constructor
  · rintro ⟨a, ⟨line, mem, added⟩, named⟩
    exact ⟨a, ⟨line, mem, declared?_of_named added named other⟩, named⟩
  · rintro ⟨a, ⟨line, mem, written⟩, named⟩
    exact ⟨a, ⟨line, mem, attribute?_of_declared? written⟩, named⟩

/-- Trajectories are told apart by a declared ID or by a generated one, and not by both. -/
theorem idIndex?_isSome (h : Compiled f lines) : f.idIndex?.isSome = !f.autoIdPrefix.isSome := by
  have declaredId : f.idIndex?.isSome
      = (Facts.readOff lines).attributeNames.contains Keyword.id.name := by
    rw [Bool.eq_iff_iff, DataFormat.idIndex?, h.position?_isSome_iff (by decide),
      List.contains_iff_mem]
    simp [Facts.readOff]
  have generated : f.autoIdPrefix = (Facts.readOff lines).autoId := by
    rw [h.format]
    rfl
  rw [declaredId, generated]
  exact Facts.identityViolations_eq_nil.mp h.identity

/-- The attribute that the coordinates array of a format is declared by. -/
theorem exists_coordinates (h : Compiled f lines) :
    ∃ line ∈ lines, ∃ a, declared? line = some a ∧ a.name = Keyword.coordinates.name
      ∧ f.coordinates = some (ArrayFormat.ofDeclaration a.declaredType)
      ∧ checkArray a.declaredType = .ok ()
      ∧ Facts.missingAxes (ArrayFormat.ofDeclaration a.declaredType) = [] := by
  have found : ∀ {line : List Token} {declaredType : Text},
      coordinatesType? line = some declaredType →
      ∃ a, declared? line = some a ∧ a.name = Keyword.coordinates.name
        ∧ a.declaredType = declaredType := by
    intro line declaredType given
    obtain ⟨a, written, given⟩ := Option.bind_eq_some_iff.mp given
    split at given
    · next named => exact ⟨a, written, named, Option.some.inj given⟩
    · cases given
  have rule := h.coordinates
  unfold Facts.coordinatesViolations at rule
  split at rule
  · cases rule
  · next declaredType last =>
    obtain ⟨line, mem, given⟩ := exists_of_latest last
    obtain ⟨a, written, named, rfl⟩ := found given
    refine ⟨line, mem, a, written, named, ?_, (h.accepted line mem).array given, rule⟩
    -- the first declaration of coordinates is the last one, since names differ
    cases first : lines.findSome? coordinatesType? with
    | none =>
      rw [List.findSome?_eq_none_iff] at first
      exact absurd (first line mem) (by simp [given])
    | some declaredType =>
      obtain ⟨line', mem', given'⟩ := List.exists_of_findSome?_eq_some first
      obtain ⟨b, written', named', rfl⟩ := found given'
      obtain rfl : a = b := h.unique (List.mem_filterMap.mpr ⟨line, mem, written⟩)
        (List.mem_filterMap.mpr ⟨line', mem', written'⟩) (named.trans named'.symm)
      rw [h.format, DataFormat.readOff, first]
      rfl

end Compiled

/-! ## Invariants -/

/-- The axes of an array have places of their own, and all other places are semantic. -/
structure ArrayFormat.HasAxes (array : ArrayFormat) : Prop where
  places : ∃ x y time, array.xIndex? = some x ∧ array.yIndex? = some y
    ∧ array.timeIndex? = some time
    ∧ x < array.attributes.length ∧ y < array.attributes.length ∧ time < array.attributes.length
    ∧ x ≠ y ∧ x ≠ time ∧ y ≠ time
    ∧ ∀ i, array.isSemantic i = true ↔ i ≠ x ∧ i ≠ y ∧ i ≠ time
  dimensions : array.spatialDimensions = 2

theorem ArrayFormat.hasAxes_of_missingAxes {array : ArrayFormat}
    (complete : Facts.missingAxes array = []) : array.HasAxes := by
  have present : ∀ (place : Option Nat) (missing : Violation),
      (if place.isNone = true then [missing] else []) = [] → ∃ i, place = some i := by
    intro place missing h
    cases place with
    | none => cases h
    | some i => exact ⟨i, rfl⟩
  simp only [Facts.missingAxes, List.append_eq_nil_iff] at complete
  obtain ⟨x, hx⟩ := present _ _ complete.1.1
  obtain ⟨y, hy⟩ := present _ _ complete.1.2
  obtain ⟨time, htime⟩ := present _ _ complete.2
  have apart : ∀ {i j : Nat} {names names' : List Keyword},
      position? array.attributes names = some i →
      position? array.attributes names' = some j → (∀ k ∈ names, k ∉ names') → i ≠ j := by
    rintro i j names names' hi hj differ rfl
    exact position?_ne differ hi hj
  refine ⟨⟨x, y, time, hx, hy, htime, position?_lt hx, position?_lt hy, position?_lt htime,
    apart hx hy (by decide), apart hx htime (by decide), apart hy htime (by decide), ?_⟩, ?_⟩
  · intro i
    simp only [isSemantic, hx, hy, htime, Bool.and_eq_true, bne_iff_ne, ne_eq, Option.some.injEq,
      and_assoc]
    constructor
    · rintro ⟨notX, notY, notTime⟩
      exact ⟨Ne.symm notX, Ne.symm notY, Ne.symm notTime⟩
    · rintro ⟨notX, notY, notTime⟩
      exact ⟨Ne.symm notX, Ne.symm notY, Ne.symm notTime⟩
  · simp [spatialDimensions, hx, hy]

/-- What every compiled format satisfies. -/
structure DataFormat.Invariants (f : DataFormat) : Prop where
  identity : f.idIndex?.isSome = !f.autoIdPrefix.isSome
  coordinates : ∃ i a, f.coordinatesIndex? = some i ∧ f.attributes[i]? = some a
    ∧ DeclaredType.isArray a.declaredType = true
    ∧ f.coordinates = some (ArrayFormat.ofDeclaration a.declaredType)
  axes : ∀ array, f.coordinates = some array → array.HasAxes
  idIndex : ∀ i, f.idIndex? = some i → i < f.attributes.length ∧ f.coordinatesIndex? ≠ some i
  names : f.attributes.Pairwise fun a b =>
    a.isIgnored = false → b.isIgnored = false → a.name.sameIgnoringCase b.name = false
  precision : f.decimalPrecision ≤ 28
  system : ∃ system, f.coordinateSystem? = some system

namespace Compiled

variable {f : DataFormat} {lines : List (List Token)}

theorem coordinatesIndex? (h : Compiled f lines) :
    ∃ i a, f.coordinatesIndex? = some i ∧ f.attributes[i]? = some a
      ∧ DeclaredType.isArray a.declaredType = true
      ∧ f.coordinates = some (ArrayFormat.ofDeclaration a.declaredType) := by
  obtain ⟨line, mem, a, written, named, array, checked, _⟩ := h.exists_coordinates
  have declared : a ∈ lines.filterMap declared? := List.mem_filterMap.mpr ⟨line, mem, written⟩
  obtain ⟨i, place⟩ := Option.isSome_iff_exists.mp
    ((h.position?_isSome_iff (by decide)).mpr ⟨a, declared, named⟩)
  obtain ⟨b, here, k, only, named'⟩ := position?_eq_some place
  rw [List.mem_singleton.mp only] at named'
  obtain rfl : b = a := by
    have added : b ∈ f.attributes := List.mem_of_getElem? here
    rw [h.format] at added
    obtain ⟨line', mem', added⟩ := List.mem_filterMap.mp added
    exact h.unique (List.mem_filterMap.mpr ⟨line', mem',
      declared?_of_named added named' (by decide)⟩)
      declared (named'.trans named.symm)
  simp only [checkArray, guarded_eq_ok] at checked
  exact ⟨i, b, place, here,
    DeclaredType.isArray_of_opensWith (opensWith_of_covers (by simpa using checked.1)), array⟩

theorem precision_le (h : Compiled f lines) : f.decimalPrecision ≤ 28 := by
  rw [h.format]
  simp only [DataFormat.readOff]
  cases last : latest (fun line => (setting? .decimalPrecision line).bind
      (Number.read? Number.limit32)) lines with
  | none => simp
  | some n =>
    obtain ⟨line, mem, given⟩ := exists_of_latest last
    obtain ⟨v, given, read⟩ := Option.bind_eq_some_iff.mp given
    obtain ⟨_, bound, known⟩ := (h.accepted line mem).precision given
    rw [known, Option.some.injEq] at read
    rw [Option.getD_some, ← read]
    exact bound

theorem exists_system (h : Compiled f lines) : ∃ system, f.coordinateSystem? = some system := by
  rw [h.format]
  simp only [DataFormat.coordinateSystem?, DataFormat.readOff]
  cases last : latest (setting? .coordinateSystem) lines with
  | none => exact ⟨.cartesian, by decide⟩
  | some v =>
    obtain ⟨line, mem, given⟩ := exists_of_latest last
    exact (h.accepted line mem).exists_system (h.classified line mem) given

theorem names_differ (h : Compiled f lines) : f.attributes.Pairwise fun a b =>
    a.isIgnored = false → b.isIgnored = false → a.name.sameIgnoringCase b.name = false := by
  have names := List.pairwise_filterMap.mp h.names
  rw [h.format, DataFormat.readOff, List.pairwise_filterMap]
  apply names.imp
  intro line line' differ a added b added' kept kept'
  exact differ a (declared?_of_attribute? added kept) b (declared?_of_attribute? added' kept')

end Compiled

/-- Every compiled format satisfies the invariants. -/
theorem invariants_of_compile {description : Text} {f : DataFormat}
    (compiled : (compile description).result = .ok f) : f.Invariants := by
  obtain ⟨tokens, _, h⟩ := compiled_of_compile compiled
  refine ⟨h.idIndex?_isSome, h.coordinatesIndex?, ?_, ?_, h.names_differ, h.precision_le,
    h.exists_system⟩
  · intro array declared
    obtain ⟨_, _, a, _, _, first, _, complete⟩ := h.exists_coordinates
    rw [first] at declared
    cases declared
    exact ArrayFormat.hasAxes_of_missingAxes complete
  · intro i place
    exact ⟨position?_lt place, position?_ne (by decide) place⟩

/-- A description that compiles, with generated IDs, a field that is left out, and an array on
several lines that has parentheses for delimiters, longitudes after latitudes, and times in the
first place. -/
def harborDescription : { description : Text // (compile description).result.isOk = true } where
  val :=
    Text.join "\n"
      ["_AUTO_ID ship", "_COORD_SYSTEM geographic", "_DECIMAL_PREC 3", "_OUTPUT_FORMAT Spatial",
        "_IGNORE_ATTR ;", "flag char )",
        "_COORDINATES ARRAY(_TIME DATETIME[\"yyyy-MM-dd HH:mm\"] ,", "  # the crew",
        "  crew INTEGER (", "  _LAT DECIMAL ) _LON DELTADECIMAL LS ) EOF"]
  property := by decide +kernel

theorem invariants_of_compile_harborDescription :
    ∃ f, (compile harborDescription.val).result = .ok f ∧ f.Invariants := by
  obtain ⟨f, compiled⟩ := exists_of_isOk harborDescription.property
  exact ⟨f, compiled, invariants_of_compile compiled⟩

end TrajectoryFormat
