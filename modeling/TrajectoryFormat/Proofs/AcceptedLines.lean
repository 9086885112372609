import TrajectoryFormat.Proofs.AcceptedDescription

/-!
# Declarations one by one

The tokens of a description fall back into the tokens of its logical lines. A line passes its check
in one of two shapes, a setting with its value or an attribute with its type and delimiter, so no
accepted line is passed over when the format is built.
-/

namespace TrajectoryFormat.Description

open Checked Text

/-! ## Lines of tokens -/

theorem classOf_ne_endOfLine (value : Text) (first : Bool) : classOf value first ≠ .endOfLine := by
  unfold classOf
  split_ifs
  · decide
  · decide
  · decide
  · split
    · next k _ => cases k <;> decide
    · decide
  · split
    · next k _ => cases k <;> decide
    · decide

/-- The tokens of a logical line without the one that closes it. -/
def pieceTokens (line : Text) : List Token :=
  match pieces line with
  | [] => []
  | first :: rest => classify first true :: rest.map (classify · false)

theorem lineTokens_eq (line : Text) : lineTokens line = pieceTokens line ++ [Token.endOfLine] := by
  unfold lineTokens pieceTokens
  cases pieces line <;> rfl

theorem classified_pieceTokens (line : Text) : Classified (pieceTokens line) := by
  unfold pieceTokens
  split
  · simp [Classified]
  · intro token mem
    rcases List.mem_cons.mp mem with rfl | mem
    · exact ⟨true, rfl⟩
    · obtain ⟨piece, _, rfl⟩ := List.mem_map.mp mem
      exact ⟨false, rfl⟩

theorem splitOnP_flatMap_lineTokens (logical : List Text) :
    (logical.flatMap lineTokens).splitOnP (·.isKind .endOfLine)
      = logical.map pieceTokens ++ [[]] := by
  induction logical with
  | nil => rfl
  | cons line rest ih =>
    have inside : ∀ token ∈ pieceTokens line, token.isKind .endOfLine = false := by
      intro token mem
      obtain ⟨first, kind⟩ := classified_pieceTokens line token mem
      rw [Token.isKind, kind, beq_eq_false_iff_ne]
      exact classOf_ne_endOfLine token.value first
    rw [List.flatMap_cons, lineTokens_eq, List.append_assoc, List.singleton_append,
      List.splitOnP_append_cons_of_forall_mem inside _ rfl, ih, List.map_cons, List.cons_append]

/-- The declarations of a description are the tokens of its logical lines. -/
theorem declarationLines_flatMap_lineTokens (logical : List Text) :
    declarationLines (logical.flatMap lineTokens)
      = (logical.map pieceTokens).filter (!·.isEmpty) := by
  rw [declarationLines, splitOnP_flatMap_lineTokens, List.filter_append]
  simp

theorem declarationLines_of_tokens? {lines : List Text} {tokens : List Token}
    (lexed : tokens? lines = some tokens) :
    declarationLines tokens = ((logicalLines lines).map pieceTokens).filter (!·.isEmpty) := by
  unfold tokens? at lexed
  split at lexed
  · cases lexed
  · cases lexed
    exact declarationLines_flatMap_lineTokens _

theorem classified_of_mem_declarationLines {lines : List Text} {tokens : List Token}
    (lexed : tokens? lines = some tokens) : ∀ line ∈ declarationLines tokens, Classified line := by
  intro line mem
  rw [declarationLines_of_tokens? lexed] at mem
  obtain ⟨logical, _, rfl⟩ := List.mem_map.mp (List.mem_filter.mp mem).1
  exact classified_pieceTokens logical

/-! ## Accepted lines -/

/-- The values that a setting takes. -/
def Legal (value : Token) : Keyword → Prop
  | .coordinateSystem => value.kind = .coordinateSystem
  | .spatialDimensions => value.value ∈ (["1", "2", "3"] : List Text)
  | .ignoreLines => LineInterval.isList value.value = true
  | .autoId => value.kind = .text
  | .ignoreAttribute => value.kind = .delimiter
  | .recordsDelimiter => value.kind = .delimiter
  | .decimalPrecision =>
    Number.isDigits value.value = true ∧ Number.value value.value ≤ maxPrecision
  | .outputFormat => value.kind = .shape
  | _ => value.kind = .text ∨ value.kind = .delimiter

theorem checkValue_eq_ok {name : Text} {k : Keyword} (known : Keyword.lookup? name = some k)
    (value : Token) : checkValue name value = .ok () ↔ Legal value k := by
  have required : ∀ (p : Prop) [Decidable p] (fault : CommandFault),
      (if p then pure () else throw fault : Except CommandFault Unit) = .ok () ↔ p := by
    intro p _ fault
    split
    · next holds => simp [pure_eq_ok, holds]
    · next fails => simp [throw_ne_ok, fails]
  unfold checkValue
  simp only [known]
  cases k <;> simp [Legal, required, bind_eq_ok, Token.isKind]

/-- The classes of type that an attribute of this name may have. -/
def attributeTypes (name : Text) : List LexicalClass :=
  match Keyword.lookup? name with
  | some .id => [.type]
  | some .coordinates => [.arrayType]
  | _ => [.type, .arrayType, .dateType]

theorem checkType_eq_ok {name type : Token} :
    checkType name type = .ok () ↔ type.kind ∈ attributeTypes name.value := by
  unfold checkType attributeTypes
  generalize Keyword.lookup? name.value = known
  split <;> split <;> simp_all [pure_eq_ok, throw_ne_ok, Token.isKind]

/-- A line that passes its check: a setting, or an attribute. -/
inductive Accepted : List Token → Prop
  | setting {name value : Token} (kind : name.kind = .command)
      (legal : checkValue name.value value = .ok ()) : Accepted [name, value]
  | declared {name type delimiter : Token} (kind : name.kind = .attribute)
      (identifier : isIdentifier name.value = true) (closed : delimiter.kind = .delimiter)
      (typed : type.kind ∈ attributeTypes name.value)
      (array : type.kind = .arrayType → checkArray type.value = .ok ())
      (date : type.kind = .dateType → ∃ pattern, datePattern type.value = .ok pattern) :
      Accepted [name, type, delimiter]

theorem checkCommand_eq_ok {line : List Token} :
    checkCommand line = .ok () ↔
      ∃ name value, line = [name, value] ∧ checkValue name.value value = .ok () := by
  rcases line with _ | ⟨name, _ | ⟨value, _ | ⟨more, rest⟩⟩⟩
  case cons.cons.nil => simp [checkCommand, mapError_eq_ok]
  all_goals simp [checkCommand, throw_ne_ok]

/-- The inside of a type passes its check. -/
theorem inside_eq_ok {type : Token} :
    (match type.kind with
      | .arrayType => checkArray type.value
      | .dateType => discard (datePattern type.value)
      | _ => pure () : Except DeclarationError Unit) = .ok () ↔
      (type.kind = .arrayType → checkArray type.value = .ok ())
        ∧ (type.kind = .dateType → ∃ pattern, datePattern type.value = .ok pattern) := by
  cases type.kind <;> simp [discard_eq_ok, pure_eq_ok]

theorem checkAttribute_eq_ok {line : List Token} :
    checkAttribute line = .ok () ↔
      ∃ name type delimiter, line = [name, type, delimiter] ∧ isIdentifier name.value = true
        ∧ name.kind = .attribute ∧ delimiter.kind = .delimiter ∧ checkType name type = .ok ()
        ∧ (type.kind = .arrayType → checkArray type.value = .ok ())
        ∧ (type.kind = .dateType → ∃ pattern, datePattern type.value = .ok pattern) := by
  rcases line with _ | ⟨name, _ | ⟨type, _ | ⟨delimiter, _ | ⟨more, rest⟩⟩⟩⟩
  case cons.cons.cons.nil =>
    simp only [checkAttribute, guarded_eq_ok, bind_eq_ok, mapError_eq_ok, Token.isKind,
      Bool.not_eq_true', beq_eq_false_iff_ne, ne_eq, not_not, Bool.not_eq_false]
    constructor
    · rintro ⟨identifier, kind, closed, _, typed, inside⟩
      exact ⟨_, _, _, rfl, identifier, kind, closed, typed, inside_eq_ok.mp inside⟩
    · rintro ⟨_, _, _, ⟨⟩, identifier, kind, closed, typed, inside⟩
      exact ⟨identifier, kind, closed, _, typed, inside_eq_ok.mpr inside⟩
  all_goals simp [checkAttribute, throw_ne_ok]

/-- A line passes its check just where it has one of the two shapes. -/
theorem checkLine_eq_ok {line : List Token} : checkLine line = .ok () ↔ Accepted line := by
  unfold checkLine
  constructor
  · intro passed
    split at passed
    · next command =>
      obtain ⟨name, value, rfl, legal⟩ := checkCommand_eq_ok.mp passed
      exact .setting (by simpa [Token.isKind] using command) legal
    · obtain ⟨name, type, delimiter, rfl, identifier, kind, closed, typed, array, date⟩ :=
        checkAttribute_eq_ok.mp passed
      exact .declared kind identifier closed (checkType_eq_ok.mp typed) array date
  · rintro (⟨kind, legal⟩ | ⟨kind, identifier, closed, typed, array, date⟩)
    · rw [if_pos (by simp [Token.isKind, kind])]
      exact checkCommand_eq_ok.mpr ⟨_, _, rfl, legal⟩
    · rw [if_neg (by simp [Token.isKind, kind])]
      exact checkAttribute_eq_ok.mpr
        ⟨_, _, _, rfl, identifier, kind, closed, checkType_eq_ok.mpr typed, array, date⟩

theorem checkDeclarations_eq_ok {tokens : List Token} :
    checkDeclarations tokens = .ok () ↔ ∀ line ∈ declarationLines tokens, Accepted line := by
  unfold checkDeclarations
  exact forM_eq_ok.trans (forall₂_congr fun _ _ => checkLine_eq_ok)

/-- A line that is passed over when the format is built, because of the number of its words. -/
def isPassedOver : List Token → Bool
  | [name, _] => !name.isKind .command
  | [name, _, _] => name.isKind .command
  | _ => true

theorem declare_of_isPassedOver {line : List Token} (passed : isPassedOver line = true)
    (f : DataFormat) :
    f.declare line = f := by
  unfold isPassedOver at passed
  unfold DataFormat.declare
  split at passed <;> simp_all

theorem Accepted.not_passedOver {line : List Token} (accepted : Accepted line) :
    isPassedOver line = false := by
  cases accepted with
  | setting kind => simp [isPassedOver, Token.isKind, kind]
  | declared kind => simp [isPassedOver, Token.isKind, kind]

end TrajectoryFormat.Description
