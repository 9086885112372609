import Mathlib.Data.List.Induction
import TrajectoryFormat.Proofs.AcceptedLines

/-!
# Formats read off their declarations

A format is built by one declaration after the other. Read off the whole list, its attributes are
those of the declarations in order, its array is the first that is declared, and a setting has the
last value that is given for it. The facts that the rules look at are read off in the same way.
-/

namespace TrajectoryFormat

open Description

/-- What the last element that says something says. -/
def latest {α β : Type} (reads : α → Option β) (xs : List α) : Option β :=
  xs.reverse.findSome? reads

@[simp] theorem latest_nil {α β : Type} (reads : α → Option β) : latest reads [] = none := rfl

@[simp] theorem latest_concat {α β : Type} (reads : α → Option β) (xs : List α) (x : α) :
    latest reads (xs ++ [x]) = (reads x).or (latest reads xs) := by
  rw [latest, List.reverse_append, List.reverse_singleton, List.singleton_append,
    List.findSome?_cons]
  cases reads x <;> rfl

theorem latest_map {α β γ : Type} (f : α → β) (reads : β → Option γ) (xs : List α) :
    latest reads (xs.map f) = latest (reads ∘ f) xs := by
  rw [latest, ← List.map_reverse, List.findSome?_map, latest]

theorem map_latest {α β γ : Type} (reads : α → Option β) (f : β → γ) (xs : List α) :
    (latest reads xs).map f = latest (fun x => (reads x).map f) xs :=
  List.map_findSome?

theorem latest_eq_getLast? {α β : Type} (reads : α → Option β) (xs : List α) :
    latest reads xs = (xs.filterMap reads).getLast? := by
  rw [latest, List.getLast?_eq_head?_reverse, ← List.filterMap_reverse, List.head?_filterMap]

theorem exists_of_latest {α β : Type} {reads : α → Option β} {xs : List α} {b : β}
    (h : latest reads xs = some b) : ∃ x ∈ xs, reads x = some b := by
  obtain ⟨x, mem, said⟩ := List.exists_of_findSome?_eq_some h
  exact ⟨x, List.mem_reverse.mp mem, said⟩

/-- Where all that is said can be read further, the last reading is that of the last that is
said. -/
theorem latest_bind {α β γ : Type} {reads : α → Option β} {next : β → Option γ} {xs : List α}
    (read : ∀ x ∈ xs, ∀ b, reads x = some b → ∃ c, next b = some c) :
    latest (fun x => (reads x).bind next) xs = (latest reads xs).bind next := by
  induction xs using List.reverseRecOn with
  | nil => rfl
  | append_singleton rest x ih =>
    rw [latest_concat, latest_concat, ih fun y mem => read y (by simp [mem])]
    cases said : reads x with
    | none => rfl
    | some b =>
      obtain ⟨c, known⟩ := read x (by simp) b said
      simp [known]

namespace Description

/-- The value that a line gives to a setting. -/
def setting? (k : Keyword) : List Token → Option Text
  | [name, value] =>
    if name.isKind .command ∧ Keyword.lookup? name.value = some k then some value.value else none
  | _ => none

/-- The attribute that a line declares. -/
def declared? : List Token → Option Attribute
  | [name, type, delimiter] =>
    if name.isKind .command then none
    else some (Attribute.declared name.value type.value delimiter.value)
  | _ => none

/-- The attribute that a line adds to a format, declared or left out. -/
def attribute? (line : List Token) : Option Attribute :=
  (declared? line).or ((setting? .ignoreAttribute line).map Attribute.ignored)

/-- The declared type of coordinates on a line. -/
def coordinatesType? (line : List Token) : Option Text :=
  (declared? line).bind fun a =>
    if a.name = Keyword.coordinates.name then some a.declaredType else none

end Description

namespace DataFormat

/-- A format, each part read off the whole list of its declarations. -/
def readOff (lines : List (List Token)) : DataFormat where
  attributes := lines.filterMap attribute?
  coordinates := (lines.findSome? coordinatesType?).map ArrayFormat.ofDeclaration
  coordinateSystemName :=
    (latest (setting? .coordinateSystem) lines).getD CoordinateSystem.cartesian.name
  decimalPrecision :=
    (latest (fun line => (setting? .decimalPrecision line).bind (Number.read? Number.limit32))
      lines).getD
      5
  outputShape :=
    (latest (fun line => (setting? .outputFormat line).bind OutputShape.ofName?) lines).getD .all
  recordDelimiter :=
    (latest (fun line => (setting? .recordsDelimiter line).map RecordDelimiter.ofValue) lines).getD
      .lineBreak
  autoIdPrefix := latest (setting? .autoId) lines
  ignoredLines := (lines.filterMap (setting? .ignoreLines)).flatMap LineInterval.ofList

theorem declare_readOff (lines : List (List Token)) (line : List Token) :
    (readOff lines).declare line = readOff (lines ++ [line]) := by
  unfold declare
  split
  · next name value =>
    by_cases command : name.isKind .command = true
    · rw [if_pos command]
      unfold set
      split <;> simp_all [readOff, attribute?, declared?, coordinatesType?, setting?]
    · rw [if_neg command]
      simp [readOff, attribute?, declared?, coordinatesType?, setting?, command]
  · next name type delimiter =>
    by_cases command : name.isKind .command = true
    · simp [readOff, attribute?, declared?, coordinatesType?, setting?, command]
    · rw [if_neg command]
      by_cases named : name.value = Keyword.coordinates.name
      · cases earlier : lines.findSome? coordinatesType? <;>
          simp [readOff, addAttribute, attribute?, declared?, coordinatesType?, setting?,
            command, named, earlier, Attribute.declared]
      · simp [readOff, addAttribute, attribute?, declared?, coordinatesType?, setting?,
          command, named, Attribute.declared]
  · next noSetting noAttribute =>
    have noValue : ∀ k, setting? k line = none := by
      intro k
      unfold setting?
      split
      · exact absurd rfl (noSetting _ _)
      · rfl
    have undeclared : declared? line = none := by
      unfold declared?
      split
      · exact absurd rfl (noAttribute _ _ _)
      · rfl
    simp [readOff, attribute?, coordinatesType?, noValue, undeclared]

@[simp] theorem foldl_declare (lines : List (List Token)) :
    lines.foldl declare {} = readOff lines := by
  induction lines using List.reverseRecOn with
  | nil => rfl
  | append_singleton rest line ih =>
    rw [List.foldl_append, ih, List.foldl_cons, List.foldl_nil, declare_readOff]

/-- A format is what can be read off the declarations of its description. -/
theorem ofTokens_eq (tokens : List Token) : ofTokens tokens = readOff (declarationLines tokens) :=
  foldl_declare (declarationLines tokens)

end DataFormat

namespace Description.Facts

/-- The facts that the rules look at, read off the whole list of declarations. -/
def readOff (lines : List (List Token)) : Facts where
  attributeNames := (lines.filterMap declared?).map Attribute.name
  coordinatesType := latest coordinatesType? lines
  ignoreLines := latest (setting? .ignoreLines) lines
  autoId := latest (setting? .autoId) lines

theorem add_readOff (lines : List (List Token)) {line : List Token} (accepted : Accepted line) :
    (readOff lines).add line = readOff (lines ++ [line]) := by
  cases accepted with
  | @setting name value kind legal =>
    have command : name.isKind .command = true := by simp [Token.isKind, kind]
    simp only [add, command, if_true]
    split <;> simp_all [readOff, declared?, coordinatesType?, setting?]
  | @declared name type delimiter kind =>
    have noCommand : name.isKind .command = false := by simp [Token.isKind, kind]
    by_cases named : name.value = Keyword.coordinates.name <;>
      simp [add, readOff, declared?, coordinatesType?, setting?, noCommand, named,
        Attribute.declared]

/-- The facts of accepted declarations are what can be read off them. -/
theorem ofTokens_eq {tokens : List Token}
    (accepted : ∀ line ∈ declarationLines tokens, Accepted line) :
    ofTokens tokens = readOff (declarationLines tokens) := by
  unfold ofTokens
  generalize declarationLines tokens = lines at accepted
  induction lines using List.reverseRecOn with
  | nil => rfl
  | append_singleton rest line ih =>
    rw [List.foldl_append, ih fun x mem => accepted x (by simp [mem]), List.foldl_cons,
      List.foldl_nil, add_readOff rest (accepted line (by simp))]

end Description.Facts

end TrajectoryFormat
