import Mathlib.Data.List.Perm.Basic
import TrajectoryFormat.Proofs.FormatOfLines

/-!
# The order of settings

What a description says hangs on the order of its attributes, those that are left out among them,
and on the order of settings of one name, and on no other. Lines that are rearranged without a
change in these are accepted or rejected as before, break the same rules in the same order, and make
the same format.
-/

namespace TrajectoryFormat

open Checked Description

/-! ## Rearranged lines -/

namespace Description

/-- The name of the setting that a line begins, well formed or not. -/
def settingName? : List Token → Option Text
  | name :: _ => if name.isKind .command then some name.value else none
  | [] => none

/-- The line takes a place among the attributes: it is no setting, or leaves out an attribute. -/
def takesPlace (line : List Token) : Bool :=
  settingName? line == none || settingName? line == some Keyword.ignoreAttribute.name

/-- The line is a setting of this name. -/
def isNamed (name : Text) (line : List Token) : Bool := settingName? line == some name

/-- The same lines in an order in which those that take places stand as before, and settings of one
name too. -/
structure Rearranged (lines lines' : List (List Token)) : Prop where
  perm : lines.Perm lines'
  placed : lines.filter takesPlace = lines'.filter takesPlace
  named : ∀ name, lines.filter (isNamed name) = lines'.filter (isNamed name)

/-- Only names of settings among the lines need to be looked at. -/
theorem rearranged_iff {lines lines' : List (List Token)} :
    Rearranged lines lines' ↔ lines.Perm lines' ∧ lines.filter takesPlace = lines'.filter takesPlace
      ∧ ∀ name ∈ lines.filterMap settingName?,
        lines.filter (isNamed name) = lines'.filter (isNamed name) := by
  refine ⟨fun h => ⟨h.perm, h.placed, fun name _ => h.named name⟩, ?_⟩
  rintro ⟨perm, placed, named⟩
  refine ⟨perm, placed, fun name => ?_⟩
  by_cases given : name ∈ lines.filterMap settingName?
  · exact named name given
  · have nowhere : ∀ line ∈ lines, isNamed name line = false := by
      intro line mem
      rw [isNamed, beq_eq_false_iff_ne]
      exact fun called => given (List.mem_filterMap.mpr ⟨line, mem, called⟩)
    rw [List.filter_eq_nil_iff.mpr (by simpa using nowhere),
      List.filter_eq_nil_iff.mpr
        (by simpa using fun line mem => nowhere line (perm.mem_iff.mpr mem))]

instance (lines lines' : List (List Token)) : Decidable (Rearranged lines lines') :=
  decidable_of_iff _ rearranged_iff.symm

end Description

/-! ## What is read off lines -/

section ReadOff

variable {α β : Type} {reads : α → Option β} {p : α → Bool} {xs ys : List α}

/-- What only some elements say hangs on their order alone. -/
theorem filterMap_congr_of_filter (only : ∀ x b, reads x = some b → p x = true)
    (same : xs.filter p = ys.filter p) : xs.filterMap reads = ys.filterMap reads := by
  have kept : ∀ zs : List α, zs.filterMap reads = (zs.filter p).filterMap reads := by
    intro zs
    rw [List.filterMap_filter]
    refine List.filterMap_congr fun z _ => ?_
    split
    · rfl
    · next unkept =>
      rw [Option.eq_none_iff_forall_ne_some]
      exact fun b said => unkept (only z b said)
  rw [kept xs, kept ys, same]

theorem findSome?_congr_of_filter (only : ∀ x b, reads x = some b → p x = true)
    (same : xs.filter p = ys.filter p) : xs.findSome? reads = ys.findSome? reads := by
  rw [← List.head?_filterMap, ← List.head?_filterMap, filterMap_congr_of_filter only same]

theorem latest_congr_of_filter (only : ∀ x b, reads x = some b → p x = true)
    (same : xs.filter p = ys.filter p) : latest reads xs = latest reads ys := by
  rw [latest_eq_getLast?, latest_eq_getLast?, filterMap_congr_of_filter only same]

end ReadOff

namespace Description

theorem isNamed_of_setting? {k : Keyword} {line : List Token} {value : Text}
    (given : setting? k line = some value) : isNamed k.name line = true := by
  unfold setting? at given
  split at given
  · next name value =>
    obtain ⟨⟨command, known⟩, _⟩ := Option.ite_none_right_eq_some.mp given
    simp [isNamed, settingName?, command, Keyword.name_of_lookup? known]
  · cases given

theorem takesPlace_of_declared? {line : List Token} {a : Attribute}
    (declared : declared? line = some a) :
    takesPlace line = true := by
  unfold declared? at declared
  split at declared
  · next name type delimiter =>
    obtain ⟨command, _⟩ := Option.ite_none_left_eq_some.mp declared
    simp [takesPlace, settingName?, command]
  · cases declared

theorem takesPlace_of_attribute? {line : List Token} {a : Attribute}
    (added : attribute? line = some a) :
    takesPlace line = true := by
  rcases Option.or_eq_some_iff.mp added with declared | ⟨_, ignored⟩
  · exact takesPlace_of_declared? declared
  · obtain ⟨value, given, _⟩ := Option.map_eq_some_iff.mp ignored
    rw [takesPlace, Bool.or_eq_true]
    exact .inr (isNamed_of_setting? given)

theorem takesPlace_of_coordinatesType? {line : List Token} {type : Text}
    (found : coordinatesType? line = some type) : takesPlace line = true := by
  obtain ⟨a, declared, _⟩ := Option.bind_eq_some_iff.mp found
  exact takesPlace_of_declared? declared

end Description

namespace DataFormat

variable {lines lines' : List (List Token)}

/-- The last legal value of a setting is the same in lines that are rearranged. -/
theorem latest_setting_congr (h : Rearranged lines lines') (k : Keyword) {β : Type}
    (f : Text → Option β) :
    latest (fun line => (setting? k line).bind f) lines
      = latest (fun line => (setting? k line).bind f) lines' := by
  refine latest_congr_of_filter (fun line b said => ?_) (h.named k.name)
  obtain ⟨value, given, _⟩ := Option.bind_eq_some_iff.mp said
  exact isNamed_of_setting? given

/-- The same format is read off lines that are rearranged. -/
theorem readOff_congr (h : Rearranged lines lines') : readOff lines = readOff lines' := by
  have settings : ∀ k, latest (setting? k) lines = latest (setting? k) lines' := by
    intro k
    simpa using latest_setting_congr h k some
  have lists := filterMap_congr_of_filter (fun _ _ => isNamed_of_setting?)
    (h.named Keyword.ignoreLines.name)
  unfold readOff
  rw [filterMap_congr_of_filter (fun _ _ => takesPlace_of_attribute?) h.placed,
    findSome?_congr_of_filter (fun _ _ => takesPlace_of_coordinatesType?) h.placed,
    ← map_latest, ← map_latest, settings, settings, settings,
    latest_setting_congr h .decimalPrecision, latest_setting_congr h .outputFormat, lists]

end DataFormat

namespace Description.Facts

/-- The name of the attribute that a line begins, well formed or not. -/
def attributeName? : List Token → Option Text
  | name :: _ => if name.isKind .command then none else some name.value
  | [] => none

/-- What a line says about an attribute of this name, or a setting: the word after the name, if
there is one. -/
def second? (named : Option Text) (k : Keyword) (line : List Token) : Option (Option Text) :=
  if named = some k.name then some (line.tail.head?.map Token.value) else none

/-- The facts that the rules look at, read off lines that may not be well formed. -/
def gathered (lines : List (List Token)) : Facts where
  attributeNames := lines.filterMap attributeName?
  coordinatesType :=
    (latest (fun line => second? (attributeName? line) .coordinates line) lines).join
  ignoreLines := (latest (fun line => second? (settingName? line) .ignoreLines line) lines).join
  autoId := (latest (fun line => second? (settingName? line) .autoId line) lines).join

theorem add_gathered (lines : List (List Token)) (line : List Token) :
    (gathered lines).add line = gathered (lines ++ [line]) := by
  cases line with
  | nil => simp [add, gathered, attributeName?, settingName?, second?]
  | cons name rest =>
    by_cases command : name.isKind .command = true
    · simp only [add, command, if_true]
      split
      · next known =>
        simp [gathered, attributeName?, settingName?, second?, command,
          ← Keyword.name_of_lookup? known, Keyword.name_injective.eq_iff, List.head?_eq_getElem?]
      · next known =>
        simp [gathered, attributeName?, settingName?, second?, command,
          ← Keyword.name_of_lookup? known, Keyword.name_injective.eq_iff, List.head?_eq_getElem?]
      · next noList noPrefix =>
        have other : ∀ k, (Keyword.lookup? name.value = some k → False) → name.value ≠ k.name :=
          fun k unknown named => unknown (named ▸ Keyword.lookup?_name k)
        simp [gathered, attributeName?, settingName?, second?, command, other _ noList,
          other _ noPrefix]
    · by_cases named : name.value = Keyword.coordinates.name <;>
        simp [add, gathered, attributeName?, settingName?, second?, command, named,
          List.head?_eq_getElem?]

theorem foldl_add (lines : List (List Token)) : lines.foldl add {} = gathered lines := by
  induction lines using List.reverseRecOn with
  | nil => rfl
  | append_singleton rest line ih =>
    rw [List.foldl_append, ih, List.foldl_cons, List.foldl_nil, add_gathered]

/-- The facts of a description, well formed or not, are what can be read off its declarations. -/
theorem ofTokens_eq_gathered (tokens : List Token) :
    ofTokens tokens = gathered (declarationLines tokens) :=
  foldl_add (declarationLines tokens)

theorem isNamed_of_second? {k : Keyword} {line : List Token} {value : Option Text}
    (said : second? (settingName? line) k line = some value) : isNamed k.name line = true := by
  rw [isNamed, (Option.ite_none_right_eq_some.mp said).1, beq_self_eq_true]

theorem takesPlace_of_attributeName? {line : List Token} {name : Text}
    (begun : attributeName? line = some name) :
    takesPlace line = true := by
  cases line with
  | nil => cases begun
  | cons first rest =>
    obtain ⟨command, _⟩ := Option.ite_none_left_eq_some.mp begun
    simp [takesPlace, settingName?, command]

/-- The same facts are read off lines that are rearranged. -/
theorem gathered_congr {lines lines' : List (List Token)} (h : Rearranged lines lines') :
    gathered lines = gathered lines' := by
  have coordinates : ∀ line value, second? (attributeName? line) .coordinates line = some value →
      takesPlace line = true :=
    fun line value said => takesPlace_of_attributeName? (Option.ite_none_right_eq_some.mp said).1
  unfold gathered
  rw [filterMap_congr_of_filter (fun _ _ => takesPlace_of_attributeName?) h.placed,
    latest_congr_of_filter coordinates h.placed,
    latest_congr_of_filter (fun _ _ => isNamed_of_second?) (h.named Keyword.ignoreLines.name),
    latest_congr_of_filter (fun _ _ => isNamed_of_second?) (h.named Keyword.autoId.name)]

end Description.Facts

/-! ## Descriptions -/

/-- Rearranged declarations are accepted or rejected as before, break the same rules in the same
order, and make the same format. -/
theorem settings_rearranged {tokens tokens' : List Token}
    (rearranged : Rearranged (declarationLines tokens) (declarationLines tokens')) :
    (checkDeclarations tokens = .ok () ↔ checkDeclarations tokens' = .ok ())
      ∧ violations tokens = violations tokens'
      ∧ DataFormat.ofTokens tokens = DataFormat.ofTokens tokens' := by
  refine ⟨?_, ?_, ?_⟩
  · rw [checkDeclarations_eq_ok, checkDeclarations_eq_ok]
    exact forall_congr' fun line => by rw [rearranged.perm.mem_iff]
  · rw [violations, violations, Facts.ofTokens_eq_gathered, Facts.ofTokens_eq_gathered,
      Facts.gathered_congr rearranged]
  · rw [DataFormat.ofTokens_eq, DataFormat.ofTokens_eq, DataFormat.readOff_congr rearranged]

def settingsFirst : List Text :=
  ["_IGNORE_LINES [1]", "_DECIMAL_PREC 3", "_IGNORE_LINES [5-4,7]", "_COORD_SYSTEM",
    "_DECIMAL_PREC 2", "_ID STRING ;", "_IGNORE_ATTR ,",
    "_COORDINATES ARRAY(_X DECIMAL , _Y DECIMAL , _TIME INTEGER ,) ;", "note STRING EOF"]

def settingsLast : List Text :=
  ["_ID STRING ;", "_IGNORE_ATTR ,", "_IGNORE_LINES [1]",
    "_COORDINATES ARRAY(_X DECIMAL , _Y DECIMAL , _TIME INTEGER ,) ;", "note STRING EOF",
    "_COORD_SYSTEM", "_DECIMAL_PREC 3", "_DECIMAL_PREC 2", "_IGNORE_LINES [5-4,7]"]

theorem settings_rearranged_last :
    ∃ tokens tokens', tokens? settingsFirst = some tokens ∧ tokens? settingsLast = some tokens'
      ∧ tokens ≠ tokens' ∧ Rearranged (declarationLines tokens) (declarationLines tokens')
      ∧ (checkDeclarations tokens = .ok () ↔ checkDeclarations tokens' = .ok ())
      ∧ violations tokens = violations tokens'
      ∧ DataFormat.ofTokens tokens = DataFormat.ofTokens tokens' := by
  have run : ((tokens? settingsFirst).bind fun tokens => (tokens? settingsLast).map fun tokens' =>
      decide (tokens ≠ tokens' ∧ Rearranged (declarationLines tokens) (declarationLines tokens')))
        = some true := by
    decide +kernel
  obtain ⟨tokens, lexed, rest⟩ := Option.bind_eq_some_iff.mp run
  obtain ⟨tokens', lexed', holds⟩ := Option.map_eq_some_iff.mp rest
  obtain ⟨differ, rearranged⟩ := of_decide_eq_true holds
  exact ⟨tokens, tokens', lexed, lexed', differ, rearranged, settings_rearranged rearranged⟩

end TrajectoryFormat
