import TrajectoryFormat.Description.Attribute
import TrajectoryFormat.Proofs.Checked
import TrajectoryFormat.Proofs.Pieces

/-!
# Arrays of triples

An array declaration is written as its opening, triples of a name, a type and a delimiter with a
blank after each word, and a parenthesis. Where the words are pieces, the tokens inside are those of
the triples, and where they hold no blanks and no parentheses but for a delimiter that is one, the
last parenthesis closes the array.
-/

namespace TrajectoryFormat.Description

open Checked Text

/-- The words of an inner attribute. -/
structure Triple where
  name : Text
  type : Text
  delimiter : Text

namespace Triple

def words (t : Triple) : List Text := [t.name, t.type, t.delimiter]

/-- The words with a blank after each. -/
def text (t : Triple) : Text := t.name ++ ' ' :: (t.type ++ ' ' :: (t.delimiter ++ [' ']))

/-- The words with their classes. -/
def tokens (t : Triple) : List Token :=
  [classify t.name true, classify t.type false, classify t.delimiter false]

/-- The inner attribute that the words declare. -/
def declared (t : Triple) : Attribute := .declared t.name t.type t.delimiter

/-- An array declaration with these inner attributes. -/
def arrayText (ts : List Triple) : Text := arrayOpening ++ (ts.flatMap text ++ [')'])

/-- Each word is one piece, and the last one does not end in a blank. -/
structure Whole (t : Triple) : Prop where
  pieces : ∀ w ∈ t.words, IsPiece w
  ends : ∀ c, t.delimiter.getLast? = some c → isBlank c = false

/-- No word holds blanks or parentheses, unless a delimiter is a parenthesis. -/
structure Solid (t : Triple) : Prop where
  nonempty : ∀ w ∈ t.words, w ≠ []
  unblank : ∀ w ∈ t.words, ∀ c ∈ w, isBlank c = false
  name : ∀ c ∈ t.name, c ≠ '(' ∧ c ≠ ')'
  type : ∀ c ∈ t.type, c ≠ '(' ∧ c ≠ ')'
  delimiter : (∀ c ∈ t.delimiter, c ≠ '(' ∧ c ≠ ')') ∨ ∃ c, (c = '(' ∨ c = ')') ∧ t.delimiter = [c]

variable {t : Triple} {ts : List Triple}

theorem forall_mem_words {p : Text → Prop} :
    (∀ w ∈ t.words, p w) ↔ p t.name ∧ p t.type ∧ p t.delimiter := by
  simp [words]

theorem flatMap_words_ne_nil (nonempty : ts ≠ []) : ts.flatMap words ≠ [] := by
  obtain ⟨t, rest, rfl⟩ := List.exists_cons_of_ne_nil nonempty
  exact List.cons_ne_nil _ _

/-- Triples are their words with one blank between neighbours and one at the end. -/
theorem flatMap_text (nonempty : ts ≠ []) :
    ts.flatMap text = join " " (ts.flatMap words) ++ [' '] := by
  refine Eq.trans ?_ (flatMap_append (flatMap_words_ne_nil nonempty))
  rw [List.flatMap_assoc]
  congr 1
  funext t
  simp [text, words]

/-! ## Tokens -/

theorem head_join (nonempty : ts ≠ []) (whole : ∀ t ∈ ts, t.Whole) :
    ∀ c, (join " " (ts.flatMap words)).head? = some c → isBlank c = false := by
  obtain ⟨t, rest, rfl⟩ := List.exists_cons_of_ne_nil nonempty
  obtain ⟨d, s, name, unblank, _⟩ := (whole t List.mem_cons_self).pieces t.name List.mem_cons_self
  intro c first
  rw [List.flatMap_cons, words, List.cons_append, show (" " : Text) = [' '] from rfl, join_cons,
    name] at first
  cases first
  exact unblank

theorem last_join (nonempty : ts ≠ []) (whole : ∀ t ∈ ts, t.Whole) :
    ∀ c, (join " " (ts.flatMap words)).getLast? = some c → isBlank c = false := by
  have blankAfter := flatMap_text nonempty
  obtain ⟨init, t, rfl⟩ := (List.eq_nil_or_concat' ts).resolve_left nonempty
  have last := whole t (by simp)
  obtain ⟨d, s, delimiter, _⟩ := last.pieces t.delimiter (by simp [words])
  have written : (init ++ [t]).flatMap text
      = (init.flatMap text ++ (t.name ++ ' ' :: (t.type ++ [' '])) ++ t.delimiter) ++ [' '] := by
    simp [text]
  rw [← List.append_cancel_right (written.symm.trans blankAfter),
    List.getLast?_append_of_ne_nil _ (delimiter ▸ List.cons_ne_nil d s)]
  exact last.ends

theorem arrayBody_arrayText (nonempty : ts ≠ []) (whole : ∀ t ∈ ts, t.Whole) :
    arrayBody (arrayText ts) = join " " (ts.flatMap words) := by
  have trimmed : trim (arrayText ts) = arrayText ts := by
    have ends := trim_between (ts.flatMap text) (v := arrayOpening) (w := [')'])
      ⟨by decide, by decide⟩
      ⟨solid_arrayOpening, solid_of_graphic (by decide)⟩
    rwa [List.append_assoc] at ends
  rw [arrayBody, trimmed, arrayText, if_pos (opensWith_append arrayOpening _), List.drop_left,
    dropClosing, List.getLast?_concat, if_pos rfl, List.dropLast_concat, flatMap_text nonempty]
  exact (trim_concat_space _).trans (trim_eq_self (head_join nonempty whole)
    (last_join nonempty whole))

/-- The tokens inside an array are those of its triples. -/
theorem arrayTokens_arrayText (nonempty : ts ≠ []) (whole : ∀ t ∈ ts, t.Whole) :
    arrayTokens (arrayText ts) = ts.flatMap tokens := by
  have found : pieces (arrayBody (arrayText ts)) = ts.flatMap words := by
    rw [arrayBody_arrayText nonempty whole]
    apply pieces_join
    intro w mem
    obtain ⟨t, member, word⟩ := List.mem_flatMap.mp mem
    exact (whole t member).pieces w word
  have shift : ∀ i : Nat, (i + 1 + 1 + 1) % 3 = i % 3 := fun i => Nat.add_mod_right i 3
  rw [arrayTokens, found]
  clear found nonempty whole
  induction ts with
  | nil => rfl
  | cons t ts ih =>
    rw [List.flatMap_cons, List.flatMap_cons, ← ih]
    simp [words, tokens, List.mapIdx_cons, shift]

@[simp] theorem attributesOf_tokens (ts : List Triple) :
    ArrayFormat.attributesOf (ts.flatMap tokens) = ts.map declared := by
  induction ts with
  | nil => rfl
  | cons t ts ih =>
    rw [List.map_cons, ← ih]
    rfl

/-- The inner attributes of an array are those that its triples declare. -/
theorem ofDeclaration_arrayText (nonempty : ts ≠ []) (whole : ∀ t ∈ ts, t.Whole) :
    ArrayFormat.ofDeclaration (arrayText ts) = ⟨arrayText ts, ts.map declared⟩ := by
  rw [ArrayFormat.ofDeclaration, arrayTokens_arrayText nonempty whole, attributesOf_tokens]

/-! ## Closing -/

/-- A delimiter completes the third word of a triple, a parenthesis too. -/
theorem close?_delimiter (solid : t.Solid) {slot : Nat} (place : slot % 3 = 2) (s : Text) :
    Nesting.close? ⟨0, slot, false⟩ (t.delimiter ++ ' ' :: s)
      = (Nesting.close? ⟨0, slot + 1, false⟩ s).map fun (inside, after) =>
        (t.delimiter ++ ' ' :: inside, after) := by
  rcases solid.delimiter with flat | ⟨c, parenthesis, alone⟩
  · exact close?_word (forall_mem_words.mp solid.nonempty).2.2
      (forall_mem_words.mp solid.unblank).2.2 flat slot s
  · rw [alone]
    exact close?_parenthesis parenthesis place s

/-- A triple completes three words of an array. -/
theorem close?_text (solid : t.Solid) {slot : Nat} (place : slot % 3 = 0) (s : Text) :
    Nesting.close? ⟨0, slot, false⟩ (t.text ++ s)
      = (Nesting.close? ⟨0, slot + 3, false⟩ s).map fun (inside, after) =>
        (t.text ++ inside, after) := by
  have written : t.text ++ s = t.name ++ ' ' :: (t.type ++ ' ' :: (t.delimiter ++ ' ' :: s)) := by
    simp [text]
  obtain ⟨some_name, some_type, _⟩ := forall_mem_words.mp solid.nonempty
  obtain ⟨name, type, _⟩ := forall_mem_words.mp solid.unblank
  have third : (slot + 1 + 1) % 3 = 2 := by omega
  rw [written, close?_word some_name name solid.name, close?_word some_type type solid.type,
    close?_delimiter solid third, Option.map_map, Option.map_map]
  congr 1
  funext ⟨inside, after⟩
  simp [text]

/-- Triples are closed by the parenthesis after them, and by none before. -/
theorem close?_triples (solid : ∀ t ∈ ts, t.Solid) {slot : Nat} (place : slot % 3 = 0)
    (after : Text) :
    Nesting.close? ⟨0, slot, false⟩ (ts.flatMap text ++ ')' :: after)
      = some (ts.flatMap text, after) := by
  induction ts generalizing slot with
  | nil => exact close?_closing place after
  | cons t ts ih =>
    rw [List.forall_mem_cons] at solid
    rw [List.flatMap_cons, List.append_assoc, close?_text solid.1 place, ih solid.2 (by omega)]
    rfl

theorem arrayInside?_triples (solid : ∀ t ∈ ts, t.Solid) (after : Text) :
    arrayInside? (ts.flatMap text ++ ')' :: after) = some (ts.flatMap text, after) :=
  close?_triples solid rfl after

theorem isPiece_arrayText (solid : ∀ t ∈ ts, t.Solid) : IsPiece (arrayText ts) :=
  isPiece_array (arrayInside?_triples solid)

theorem spaced_arrayText (nonempty : ts ≠ []) (solid : ∀ t ∈ ts, t.Solid) :
    Spaced (arrayText ts) := by
  have words : Spaced (join " " (ts.flatMap words)) := by
    refine .of_words (flatMap_words_ne_nil nonempty) fun w mem => ?_
    obtain ⟨t, member, word⟩ := List.mem_flatMap.mp mem
    exact ⟨(solid t member).nonempty w word, (solid t member).unblank w word⟩
  have closing : Spaced [')'] := .word (List.cons_ne_nil _ _) (solid_of_graphic (by decide))
  rw [arrayText, flatMap_text nonempty, List.append_assoc]
  exact (words.append closing).prepend solid_arrayOpening

/-- The first array of a line is closed by the parenthesis after its triples. -/
theorem isOpenArray_arrayText (solid : ∀ t ∈ ts, t.Solid) (after : Text) :
    isOpenArray (arrayText ts ++ after) = false := by
  have written : arrayText ts ++ after = arrayOpening ++ (ts.flatMap text ++ ')' :: after) := by
    simp [arrayText]
  have found : afterIgnoringCase? arrayOpening (arrayOpening ++ (ts.flatMap text ++ ')' :: after))
      = some (ts.flatMap text ++ ')' :: after) := afterIgnoringCase?_opening (by decide) _
  rw [isOpenArray, written, found]
  simp [arrayInside?_triples solid]

/-! ## Bonding -/

/-- A triple is written as the other one once its date patterns are bonded. -/
def Bonds (t u : Triple) : Prop :=
  ∀ after, bondPatterns (t.text ++ after) = u.text ++ bondPatterns after

/-- Names and delimiters have no date patterns. -/
theorem bonds_of_type {type : Text} (name : IsWord t.name) (delimiter : IsWord t.delimiter)
    (typed : ∀ after, endsWord after = true → bondPatterns (t.type ++ after) = type
      ++ bondPatterns after) :
    Bonds t { t with type } := by
  intro after
  have written : t.text ++ after
      = t.name ++ ' ' :: (t.type ++ ' ' :: (t.delimiter ++ ' ' :: after)) := by
    simp [text]
  rw [written, name.bondPatterns_append, typed _ (endsWord_space _), bondPatterns_space,
    delimiter.bondPatterns_append]
  simp [text]

theorem bondPatterns_arrayText {α : Type} {f g : α → Triple} {items : List α}
    (bonds : ∀ a ∈ items, Bonds (f a) (g a)) (after : Text) :
    bondPatterns (arrayText (items.map f) ++ after)
      = arrayText (items.map g) ++ bondPatterns after := by
  have opening : ∀ c ∈ arrayOpening, c.toLower ≠ 'd' := List.all_iff_forall_prop.mp (by decide)
  have closing : ∀ c ∈ [')'], c.toLower ≠ 'd' := List.forall_mem_singleton.mpr (by decide)
  have inside : ∀ rest : Text, bondPatterns ((items.map f).flatMap text ++ rest)
      = (items.map g).flatMap text ++ bondPatterns rest := by
    intro rest
    induction items with
    | nil => rfl
    | cons a items ih =>
      rw [List.forall_mem_cons] at bonds
      rw [List.map_cons, List.map_cons, List.flatMap_cons, List.flatMap_cons, List.append_assoc,
        bonds.1, ih bonds.2, List.append_assoc]
  rw [arrayText, List.append_assoc, bondPatterns_skip opening, List.append_assoc, inside,
    bondPatterns_skip closing, arrayText, List.append_assoc, List.append_assoc]

/-! ## The form of arrays -/

theorem covers_arrayText (nonempty : ts ≠ [])
    (described : ∀ t ∈ ts, Pattern.Describes tripleForm t.text) :
    arrayForm.covers (arrayText ts) = true := by
  have written : ts.map text ≠ [] := by simpa using nonempty
  have covered := covers_of_triples written (List.forall_mem_map.mpr described)
  rwa [← List.flatMap_def] at covered

/-- An array passes its check where it has the form of arrays and its triples pass theirs. -/
theorem checkArray_arrayText (nonempty : ts ≠ []) (whole : ∀ t ∈ ts, t.Whole)
    (described : ∀ t ∈ ts, Pattern.Describes tripleForm t.text)
    (passed : checkTriples (arrayText ts) (ts.flatMap tokens) = .ok ()) :
    checkArray (arrayText ts) = .ok () := by
  have length : (ts.flatMap tokens).length = 3 * ts.length := by
    simp [List.length_flatMap, tokens, Nat.mul_comm]
  have written : (ts.flatMap tokens).isEmpty = false := by
    obtain ⟨t, rest, rfl⟩ := List.exists_cons_of_ne_nil nonempty
    rfl
  simp only [checkArray, guarded_eq_ok, arrayTokens_arrayText nonempty whole,
    covers_arrayText nonempty described]
  refine ⟨by simp, ?_, passed⟩
  rw [written, length, Nat.mul_mod_right]
  decide

end Triple

end TrajectoryFormat.Description
