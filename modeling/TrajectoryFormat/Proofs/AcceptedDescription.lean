import TrajectoryFormat.Description.Compile
import TrajectoryFormat.Proofs.Checked

/-!
# Accepted descriptions

A format that is compiled comes from declarations that were all checked. Its coordinates array is
the one of a checked declaration, so each attribute inside has a type that its name allows. Axes in
space never have dates.
-/

namespace TrajectoryFormat

open Checked Description

/-- What a compiled format comes from: tokens that pass both checks. -/
theorem compile_eq_ok {description : Text} {f : DataFormat} :
    (compile description).result = .ok f ↔
      ∃ tokens, tokens? (Text.lines description) = some tokens
        ∧ checkDeclarations tokens = .ok () ∧ Description.violations tokens = []
        ∧ DataFormat.ofTokens tokens = f := by
  unfold compile Compilation.ofLines
  cases tokens? (Text.lines description) with
  | none => simp
  | some tokens =>
    have checks : Compilation.check tokens = .ok () ↔
        checkDeclarations tokens = .ok () ∧ Description.violations tokens = [] := by
      unfold Compilation.check
      cases violations tokens <;> simp [bind_eq_ok, mapError_eq_ok, throw_ne_ok]
    cases h : Compilation.check tokens with
    | error e => simp [← checks, ← and_assoc, h]
    | ok u => simp [← checks, ← and_assoc, h]

namespace DataFormat

@[simp] theorem set_coordinates (f : DataFormat) (name value : Text) :
    (f.set name value).coordinates = f.coordinates := by
  unfold set
  split <;> rfl

/-- A declaration of coordinates, and the array that it declares. -/
def DeclaresCoordinates (line : List Token) (array : ArrayFormat) : Prop :=
  ∃ name type delimiter, line = [name, type, delimiter] ∧ name.isKind .command = false
    ∧ name.value = Keyword.coordinates.name ∧ ArrayFormat.ofDeclaration type.value = array

/-- A declaration keeps the coordinates array, or it declares one. -/
theorem coordinates_of_declare {f : DataFormat} {line : List Token} {array : ArrayFormat}
    (h : (declare f line).coordinates = some array) :
    f.coordinates = some array ∨ DeclaresCoordinates line array := by
  unfold declare at h
  split at h
  · split at h
    · rw [set_coordinates] at h
      exact .inl h
    · exact .inl h
  · next name type delimiter =>
    split at h
    · exact .inl h
    · next noCommand =>
      unfold addAttribute at h
      cases hc : f.coordinates with
      | some kept => simp_all
      | none =>
        simp only [beq_iff_eq, hc, Option.orElse_eq_orElse, Option.orElse_eq_or, Option.or_some,
          Option.getD_none, Option.ite_none_right_eq_some, Option.some.injEq] at h
        exact .inr ⟨name, type, delimiter, rfl, by simpa using noCommand, h⟩
  · exact .inl h

/-- The coordinates array of a format is declared by one of its declarations. -/
theorem coordinates_of_foldl {lines : List (List Token)} {f : DataFormat} {array : ArrayFormat}
    (h : (lines.foldl declare f).coordinates = some array) :
    f.coordinates = some array ∨ ∃ line ∈ lines, DeclaresCoordinates line array := by
  induction lines generalizing f with
  | nil => exact .inl h
  | cons line rest ih =>
    rcases ih h with first | ⟨later, mem, declares⟩
    · rcases coordinates_of_declare first with before | declares
      · exact .inl before
      · exact .inr ⟨line, List.mem_cons_self, declares⟩
    · exact .inr ⟨later, List.mem_cons_of_mem _ mem, declares⟩

end DataFormat

namespace Description

def Classified (tokens : List Token) : Prop :=
  ∀ token ∈ tokens, ∃ first, token.kind = classOf token.value first

theorem classified_arrayTokens (declaration : Text) : Classified (arrayTokens declaration) := by
  intro token h
  obtain ⟨i, _, rfl⟩ := List.mem_mapIdx.mp h
  exact ⟨i % 3 == 0, rfl⟩

/-- A declared type of a class that the name of the attribute allows inside an array. -/
def Allowed (a : Attribute) : Prop := ∃ first, classOf a.declaredType first ∈ arrayTypes a.name

theorem discard_eq_ok {ε α : Type} {x : Except ε α} : discard x = .ok () ↔ ∃ a, x = .ok a := by
  cases x <;> simp [discard, Functor.discard, Functor.mapConst, Except.map]

/-- A triple passes its check, and the triples after it do. -/
theorem checkTriples_cons_eq_ok {declaration : Text} {name type delimiter : Token}
    {rest : List Token} :
    checkTriples declaration (name :: type :: delimiter :: rest) = .ok () ↔
      (name.kind = .attribute ∧ type.kind ∈ arrayTypes name.value ∧ delimiter.kind = .delimiter
        ∧ (type.kind = .dateType → ∃ pattern, datePattern type.value = .ok pattern))
      ∧ checkTriples declaration rest = .ok () := by
  rw [checkTriples]
  by_cases passed : (name.isKind .attribute && (arrayTypes name.value).contains type.kind
      && delimiter.isKind .delimiter) = true
  · rw [if_pos passed]
    simp only [Bool.and_eq_true, Token.isKind, beq_iff_eq, List.contains_iff_mem] at passed
    by_cases date : type.kind = .dateType
    · simp only [Token.isKind, date, beq_self_eq_true, if_true, bind_eq_ok]
      constructor
      · rintro ⟨_, read, rest⟩
        exact ⟨⟨passed.1.1, date ▸ passed.1.2, passed.2, fun _ => discard_eq_ok.mp read⟩, rest⟩
      · rintro ⟨⟨_, _, _, read⟩, rest⟩
        exact ⟨(), discard_eq_ok.mpr (read trivial), rest⟩
    · simp [passed, Token.isKind, date]
  · rw [if_neg passed]
    simp only [Bool.and_eq_true, Token.isKind, beq_iff_eq, List.contains_iff_mem,
      and_assoc] at passed
    simp only [throw_ne_ok, false_iff, not_and]
    rintro ⟨named, typed, closed, _⟩
    exact absurd ⟨named, typed, closed⟩ passed

theorem allowed_of_checkTriples {declaration : Text} {tokens : List Token}
    (classified : Classified tokens) (h : checkTriples declaration tokens = .ok ()) :
    ∀ a ∈ ArrayFormat.attributesOf tokens, Allowed a := by
  fun_induction ArrayFormat.attributesOf tokens with
  | case1 name type delimiter rest ih =>
    obtain ⟨⟨_, typed, _⟩, others⟩ := checkTriples_cons_eq_ok.mp h
    obtain ⟨first, kind⟩ := classified type (by simp)
    rw [List.forall_mem_cons]
    constructor
    · exact ⟨first, kind ▸ typed⟩
    · exact ih (fun token mem => classified token (by simp [mem])) others
  | case2 => simp

theorem checkTriples_of_checkArray {declaration : Text} (h : checkArray declaration = .ok ()) :
    checkTriples declaration (arrayTokens declaration) = .ok () := by
  simp only [checkArray, guarded_eq_ok] at h
  exact h.2.2

/-- A checked declaration of coordinates declares an array that is checked inside. -/
theorem checkArray_of_checkLine {name type delimiter : Token}
    (noCommand : name.isKind .command = false) (coordinates : name.value = Keyword.coordinates.name)
    (h : checkLine [name, type, delimiter] = .ok ()) : checkArray type.value = .ok () := by
  unfold checkLine at h
  rw [List.head?_cons, Option.any_some, if_neg (by simp [noCommand])] at h
  simp only [checkAttribute, guarded_eq_ok, bind_eq_ok, mapError_eq_ok, checkType, coordinates,
    Keyword.lookup?_name] at h
  obtain ⟨_, _, _, _, ofArrayType, inside⟩ := h
  split at ofArrayType
  · next kind =>
    rw [Token.isKind, beq_iff_eq] at kind
    simpa only [kind] using inside
  · simp [throw_ne_ok] at ofArrayType

end Description

/-- Every attribute of the coordinates array has a type that its name allows. -/
theorem allowed_of_compile {description : Text} {f : DataFormat} {array : ArrayFormat}
    (compiled : (compile description).result = .ok f) (declared : f.coordinates = some array) :
    ∀ a ∈ array.attributes, Allowed a := by
  obtain ⟨tokens, _, passed, _, rfl⟩ := compile_eq_ok.mp compiled
  rcases DataFormat.coordinates_of_foldl declared with none_yet | ⟨line, mem, declares⟩
  · exact absurd none_yet (by simp)
  · obtain ⟨name, type, delimiter, rfl, noCommand, named, rfl⟩ := declares
    have checked := forM_eq_ok.mp passed _ mem
    exact allowed_of_checkTriples (classified_arrayTokens _)
      (checkTriples_of_checkArray (checkArray_of_checkLine noCommand named checked))

/-! ## Types of axes -/

/-- A date type makes a token of the class of dates or of arrays. -/
theorem classOf_of_isDatetime {declaredType : Text}
    (h : DeclaredType.isDatetime declaredType = true) (first : Bool) :
    classOf declaredType first ∈ [LexicalClass.arrayType, .dateType] := by
  unfold classOf
  split
  · decide
  · next notArray =>
    split
    · decide
    · next notDate =>
      rw [DeclaredType.isDatetime, beq_iff_eq, DeclaredType.basic, if_neg notDate,
        if_neg notArray] at h
      split at h
      · exact absurd h (by decide)
      · split at h
        · exact absurd h (by decide)
        · subst h
          cases first <;> decide

/-- An axis in space inside an array never has dates. -/
theorem isDatetime_of_allowed {a : Attribute} (allowed : Allowed a) {k : Keyword}
    (named : a.name = k.name) (space : k ∈ [Keyword.x, .y, .lon, .lat]) :
    DeclaredType.isDatetime a.declaredType = false := by
  obtain ⟨first, mem⟩ := allowed
  have types : arrayTypes a.name = [.type, .deltaType] := by
    rw [named, arrayTypes, Keyword.lookup?_name]
    revert space
    cases k <;> decide
  rw [types] at mem
  by_contra date
  rw [Bool.not_eq_false] at date
  have dates := classOf_of_isDatetime date first
  revert mem dates
  cases classOf a.declaredType first <;> decide

end TrajectoryFormat
