import TrajectoryFormat.Proofs.DescribedLines
import TrajectoryFormat.Proofs.ReservedWords

/-!
# Bonds in descriptors

The descriptor is made of reserved words, numbers, and the names and types of attributes. The types
of the ID and of the axes are basic, whatever dates the axis of time has. So its bonds are those in
the names and types of the other attributes that it describes.
-/

namespace TrajectoryFormat

open Checked Description Output Text

variable {c : Char} {description : Text} {f : DataFormat} {array : ArrayFormat}
  {a : Attribute} {lines : List (List Token)}

/-- One of the two private characters. -/
def IsBond (c : Char) : Prop := c = lineBond ∨ c = dateBond

namespace IsBond

variable (bond : IsBond c)
include bond

theorem notMem {s : Text} (free : lineBond ∉ s ∧ dateBond ∉ s) : c ∉ s := by
  rcases bond with rfl | rfl
  · exact free.1
  · exact free.2

theorem notMem_of_letters {s : Text} (letters : ∀ d ∈ s, continuesIdentifier d = true) : c ∉ s := by
  refine bond.notMem ⟨fun mem => ?_, fun mem => ?_⟩
  · exact absurd (letters _ mem) (by decide)
  · exact absurd (letters _ mem) (by decide)

theorem notMem_of_lookup {s : Text} {k : Keyword}
    (known : Keyword.lookupIgnoringCase? s = some k) : c ∉ s :=
  bond.notMem_of_letters (letters_of_lookup known)

theorem notMem_name (k : Keyword) : c ∉ k.name := bond.notMem_of_lookup (lookupIgnoringCase?_name k)

theorem notMem_ofNat (n : Nat) : c ∉ Number.ofNat n :=
  bond.notMem_of_letters (letters_of_isDigits (Record.Transformer.isDigits_ofNat n))

/-- What is read as a number has no bonds. -/
theorem notMem_of_read? {limit n : Nat} {s : Text}
    (read : Number.read? limit s = some n) : c ∉ s := by
  have digits : c ∉ Number.dropPlus s := by
    simp only [Number.read?] at read
    split at read
    · next spelled =>
      rw [Bool.and_eq_true] at spelled
      exact bond.notMem_of_letters (letters_of_isDigits spelled.1)
    · cases read
  unfold Number.dropPlus at digits
  split at digits
  · rw [List.mem_cons, not_or]
    exact ⟨List.ne_of_not_mem_cons (bond.notMem (s := ['+']) (by decide)), digits⟩
  · exact digits

/-! ## Types of axes -/

theorem notMem_basic {declaredType : Text} (absent : c ∉ declaredType) :
    c ∉ DeclaredType.basic declaredType := by
  unfold DeclaredType.basic
  split_ifs
  · exact bond.notMem_name _
  · exact bond.notMem_name _
  · exact bond.notMem_name _
  · exact bond.notMem_name _
  · exact absent

/-- Among the types that an axis may have only dates have bonds. -/
theorem isDatetime_of_mem {declaredType : Text} {first : Bool} (mem : c ∈ declaredType)
    (kind : classOf declaredType first ∈ [LexicalClass.type, .deltaType, .dateType]) :
    DeclaredType.isDatetime declaredType = true := by
  unfold classOf at kind
  split_ifs at kind with array date mark
  · exact absurd kind (by decide)
  · exact DeclaredType.isDatetime_of_opensWith date
  · exact absurd kind (by decide)
  · split at kind
    · next k known => exact absurd mem (bond.notMem_of_lookup known)
    · exact absurd kind (by decide)
  · split at kind
    · next k known => exact absurd mem (bond.notMem_of_lookup known)
    · exact absurd kind (by decide)

theorem isDatetime_of_axis (allowed : Allowed a) {k : Keyword} (named : a.name = k.name)
    (axis : k ∈ [Keyword.x, .y, .lon, .lat, .time]) (mem : c ∈ a.declaredType) :
    DeclaredType.isDatetime a.declaredType = true := by
  obtain ⟨first, kind⟩ := allowed
  have types : arrayTypes a.name ⊆ [LexicalClass.type, .deltaType, .dateType] := by
    rw [named, arrayTypes, Keyword.lookup?_name]
    revert axis
    cases k <;> decide
  exact bond.isDatetime_of_mem mem (types kind)

theorem notMem_spaceType (allowed : ∀ a ∈ array.attributes, Allowed a) (names : List Keyword)
    (space : ∀ k ∈ names, k ∈ [Keyword.x, .y, .lon, .lat]) :
    c ∉ spaceType array (position? array.attributes names) := by
  unfold spaceType
  split
  · next a found =>
    obtain ⟨i, place, here⟩ := Option.bind_eq_some_iff.mp found
    obtain ⟨b, there, k, mem, named⟩ := position?_eq_some place
    obtain rfl : a = b := Option.some.inj (here.symm.trans there)
    have inside := allowed a (List.mem_of_getElem? here)
    refine bond.notMem_basic fun bonded => ?_
    have date := bond.isDatetime_of_axis inside named
      (List.mem_append_left [Keyword.time] (space k mem)) bonded
    rw [isDatetime_of_allowed inside named (space k mem)] at date
    cases date
  · exact bond.notMem_name _

theorem notMem_timeType (allowed : ∀ a ∈ array.attributes, Allowed a) : c ∉ timeType array := by
  unfold timeType
  split
  · next a found =>
    obtain ⟨i, place, here⟩ := Option.bind_eq_some_iff.mp found
    obtain ⟨b, there, k, mem, named⟩ := position?_eq_some place
    obtain rfl : a = b := Option.some.inj (here.symm.trans there)
    split
    · exact bond.notMem_name _
    · next noDate =>
      refine bond.notMem_basic fun bonded => noDate ?_
      exact bond.isDatetime_of_axis (allowed a (List.mem_of_getElem? here)) named
        (by rw [List.mem_singleton.mp mem]; decide) bonded
  · exact bond.notMem_name _

/-! ## Descriptors -/

@[simp] theorem mem_item_iff {name type : Text} : c ∈ item name type ↔ c ∈ name ++ type := by
  have space : c ∉ ([' '] : Text) := bond.notMem (by decide)
  rw [item, List.mem_append, List.mem_cons, List.mem_append,
    or_iff_right (List.ne_of_not_mem_cons space)]

@[simp] theorem mem_line_iff {name value : Text} : c ∈ Output.line name value ↔
    c ∈ name ++ value := by
  have tab : c ∉ (['\t'] : Text) := bond.notMem (by decide)
  rw [Output.line, List.mem_append, List.mem_cons, List.mem_append,
    or_iff_right (List.ne_of_not_mem_cons tab)]

theorem notMem_settingLines (system : ∃ system, f.coordinateSystem? = some system)
    (shape : OutputShape) :
    ∀ l ∈ Record.Transformer.settingLines f shape, c ∉ l := by
  have setting : ∀ (k : Keyword) {value : Text}, c ∉ value → c ∉ Output.line k.name value := by
    intro k value absent
    rw [bond.mem_line_iff, List.mem_append, not_or]
    exact ⟨bond.notMem_name k, absent⟩
  obtain ⟨system, known⟩ := system
  simp only [Record.Transformer.settingLines, List.forall_mem_cons]
  refine ⟨setting _ (bond.notMem_name _), setting _ ?_, setting _ (bond.notMem_ofNat _),
    setting _ (bond.notMem_ofNat _), fun l none => absurd none List.not_mem_nil⟩
  rw [systemName, known]
  exact bond.notMem_name _

/-- The ID of a compiled format has a basic type. -/
theorem notMem_idType (h : Compiled f lines) : ∀ type ∈ idType? f, c ∉ type := by
  intro type described
  unfold idType? at described
  split at described
  · cases described
    split
    · exact bond.notMem_name _
    · exact bond.notMem_name _
  · obtain ⟨a, found, rfl⟩ := Option.map_eq_some_iff.mp described
    obtain ⟨i, place, here⟩ := Option.bind_eq_some_iff.mp found
    obtain ⟨b, there, k, mem, named⟩ := position?_eq_some place
    obtain rfl : a = b := Option.some.inj (here.symm.trans there)
    rw [List.mem_singleton.mp mem] at named
    obtain ⟨first, kind⟩ := h.exists_class_of_named (List.mem_of_getElem? here) named (by decide)
    have basic : classOf a.declaredType first = .type := by
      rw [named, attributeTypes, Keyword.lookup?_name] at kind
      exact List.mem_singleton.mp kind
    obtain ⟨_, known, _⟩ := exists_keyword_of_classOf basic (by decide)
    exact bond.notMem_of_lookup known

theorem mem_coordinatesLine_iff (allowed : ∀ a ∈ array.attributes, Allowed a)
    (shape : OutputShape) :
    c ∈ coordinatesLine array shape ↔
      shape = .all ∧ ∃ a ∈ array.semanticAttributes, c ∈ a.name ++ a.declaredType := by
  have axis : ∀ (k : Keyword) {type : Text}, c ∉ type → c ∉ item k.name type := by
    intro k type absent
    rw [bond.mem_item_iff, List.mem_append, not_or]
    exact ⟨bond.notMem_name k, absent⟩
  have x := axis .x (bond.notMem_spaceType allowed [.x, .lon] (by decide))
  have y := axis .y (bond.notMem_spaceType allowed [.y, .lat] (by decide))
  have time := axis .time (bond.notMem_timeType allowed)
  have items : c ∈ coordinatesLine array shape ↔ ∃ s ∈ pointItems array shape, c ∈ s := by
    have frame : c ∉ Keyword.coordinates.name ++ arrayOpening ++ [')'] :=
      bond.notMem (by decide +kernel)
    rw [List.mem_append, List.mem_append, not_or, not_or] at frame
    rw [coordinatesLine, bond.mem_line_iff, List.mem_append, List.mem_append, List.mem_append,
      or_iff_right frame.1.1, or_iff_left frame.2, or_iff_right frame.1.2,
      mem_join_iff (bond.notMem (by decide))]
  rw [items]
  cases shape with
  | spatial => simpa [pointItems] using ⟨x, y⟩
  | spatialTemporal => simpa [pointItems] using ⟨x, y, time⟩
  | all =>
    have axes : ¬∃ s ∈ [item Keyword.x.name (spaceType array array.xIndex?),
        item Keyword.y.name (spaceType array array.yIndex?),
        item Keyword.time.name (timeType array)], c ∈ s := by
      simpa using ⟨x, y, time⟩
    simp only [pointItems, List.mem_append, or_and_right, exists_or, or_iff_right axes,
      List.mem_map, exists_exists_and_eq_and, bond.mem_item_iff, true_and]

end IsBond

namespace Output

/-- The attributes that the descriptor describes by their own names and types. -/
def describedAttributes (f : DataFormat) : OutputShape → List Attribute
  | .all => f.coordinates.elim [] ArrayFormat.semanticAttributes ++ furtherAttributes f
  | _ => []

/-- The descriptor has the bonds of the attributes that it describes by their own types, and no
others. -/
theorem mem_descriptor_iff (bond : IsBond c) (compiled : (compile description).result = .ok f)
    (shape : OutputShape) :
    c ∈ descriptor f shape ↔ ∃ a ∈ describedAttributes f shape, c ∈ a.name ++ a.declaredType := by
  obtain ⟨_, _, h⟩ := compiled_of_compile compiled
  obtain ⟨array, declared⟩ : ∃ array, f.coordinates = some array := by
    obtain ⟨_, _, _, _, _, first, _⟩ := h.exists_coordinates
    exact ⟨_, first⟩
  have settings := bond.notMem_settingLines h.exists_system shape
  have id : ∀ l ∈ (idType? f).toList.map (Output.line Keyword.id.name), c ∉ l := by
    intro l mem
    obtain ⟨type, described, rfl⟩ := List.mem_map.mp mem
    rw [bond.mem_line_iff, List.mem_append, not_or]
    exact ⟨bond.notMem_name _, bond.notMem_idType h type (Option.mem_toList.mp described)⟩
  have coordinates := bond.mem_coordinatesLine_iff (allowed_of_compile compiled declared) shape
  have lines : c ∈ descriptor f shape ↔
      c ∈ coordinatesLine array shape ∨ ∃ l ∈ furtherLines f shape, c ∈ l := by
    rw [descriptor, mem_join_iff (bond.notMem (by decide)), declared, Option.toList_some,
      List.map_singleton]
    constructor
    · rintro ⟨l, mem, here⟩
      rcases List.mem_append.mp mem with mem | further
      · rcases List.mem_append.mp mem with mem | last
        · exact absurd here ((List.mem_append.mp mem).elim (settings l) (id l))
        · exact .inl (List.mem_singleton.mp last ▸ here)
      · exact .inr ⟨l, further, here⟩
    · rintro (here | ⟨l, further, here⟩)
      · exact ⟨_, List.mem_append_left _ (List.mem_append_right _ (List.mem_singleton_self _)),
          here⟩
      · exact ⟨l, List.mem_append_right _ further, here⟩
  rw [lines, coordinates]
  cases shape with
  | spatial => simp [furtherLines, describedAttributes]
  | spatialTemporal => simp [furtherLines, describedAttributes]
  | all =>
    simp only [furtherLines, describedAttributes, declared, Option.elim_some, List.mem_append,
      or_and_right, exists_or, List.mem_map, exists_exists_and_eq_and, bond.mem_line_iff, true_and]

end Output

end TrajectoryFormat
