import TrajectoryFormat.Proofs.TextWords

/-!
# Bonded lines

Bonding writes a bond for some blanks of a line and keeps every other character at its place. A date
pattern that a text opens with does not depend on what follows the pattern, so a line may be cut at
any blank that is not bonded: the two parts are bonded apart.
-/

namespace TrajectoryFormat.Description

open Text

variable {s t u v body after : Text} {c : Char}

/-! ## The pattern that a text opens with -/

/-- What stands between the quotes of a date pattern: one line, without the closing mark. -/
structure IsBody (body : Text) : Prop where
  oneLine : '\n' ∉ body
  unclosed : ¬ patternClosing <:+: body

theorem patternClosing_cons (s : Text) : patternClosing ++ s = '"' :: ']' :: s := rfl

@[simp] theorem isBody_nil : IsBody [] :=
  ⟨List.not_mem_nil, fun closed => absurd (List.infix_nil.mp closed) (by decide)⟩

/-- Only a quote before a bracket closes a pattern. -/
theorem isBody_cons {rest : Text} (h : IsBody body) (inLine : c ≠ '\n')
    (other : ¬ (c = '"' ∧ (body ++ (patternClosing ++ rest)).head? = some ']')) :
    IsBody (c :: body) := by
  refine ⟨by simpa [h.oneLine] using Ne.symm inLine, fun closed => ?_⟩
  rcases List.infix_cons_iff.mp closed with ⟨t, starts⟩ | inside
  · rw [patternClosing_cons, List.cons.injEq] at starts
    exact other ⟨starts.1.symm, by rw [← starts.2]; rfl⟩
  · exact h.unclosed inside

theorem IsBody.tail {b : Text} (h : IsBody (c :: b)) : IsBody b :=
  ⟨fun mem => h.oneLine (List.mem_cons_of_mem _ mem), fun closed =>
    h.unclosed (closed.trans (List.suffix_cons c b).isInfix)⟩

theorem patternBody?_iff :
    patternBody? s = some (body, after) ↔ IsBody body ∧ s = body ++ (patternClosing ++ after) := by
  constructor
  · intro found
    induction s generalizing body with
    | nil => cases found
    | cons c s ih =>
      rw [patternBody?] at found
      split at found
      · next closing =>
        rw [Bool.and_eq_true, decide_eq_true_eq, decide_eq_true_eq] at closing
        obtain ⟨t, rfl⟩ := List.head?_eq_some_iff.mp closing.2
        cases found
        exact ⟨isBody_nil, by rw [closing.1]; rfl⟩
      · next other =>
        split at found
        · cases found
        · next inLine =>
          simp only [Option.map_eq_some_iff, Prod.mk.injEq, Prod.exists] at found
          obtain ⟨b, a, rest, rfl, rfl⟩ := found
          obtain ⟨inner, rfl⟩ := ih rest
          rw [Bool.and_eq_true, decide_eq_true_eq, decide_eq_true_eq] at other
          exact ⟨isBody_cons inner inLine other, rfl⟩
  · rintro ⟨h, rfl⟩
    induction body with
    | nil => rfl
    | cons c body ih =>
      have other : ¬ (c = '"' ∧ (body ++ (patternClosing ++ after)).head? = some ']') := by
        rintro ⟨rfl, bracket⟩
        cases body with
        | nil => exact absurd bracket (by simp [patternClosing])
        | cons d body =>
          rw [List.cons_append, List.head?_cons, Option.some.injEq] at bracket
          exact h.unclosed ⟨[], body, by rw [bracket]; rfl⟩
      have inLine : c ≠ '\n' := fun lineEnd => h.oneLine (by rw [lineEnd]; exact List.mem_cons_self)
      rw [List.cons_append, patternBody?, if_neg (by simpa using other), if_neg inLine, ih h.tail]
      rfl

/-- A date declaration with its opening in some case. -/
theorem openedPattern?_iff :
    openedPattern? s = some (body, after) ↔ IsBody body ∧
      ∃ opening, lower opening = lower patternOpening
        ∧ s = opening ++ (body ++ (patternClosing ++ after)) := by
  rw [openedPattern?]
  constructor
  · intro found
    split at found
    · next opens =>
      obtain ⟨inner, rest⟩ := patternBody?_iff.mp found
      obtain ⟨opening, tail, same, rfl⟩ := opensWith_iff.mp opens
      have length : opening.length = patternOpening.length := by
        simpa [lower] using congrArg List.length same
      rw [← length, List.drop_left] at rest
      exact ⟨inner, opening, same, by rw [rest]⟩
    · cases found
  · rintro ⟨inner, opening, same, rfl⟩
    have length : opening.length = patternOpening.length := by
      simpa [lower] using congrArg List.length same
    rw [if_pos (opensWith_iff.mpr ⟨opening, _, same, rfl⟩), ← length, List.drop_left]
    exact patternBody?_iff.mpr ⟨inner, rfl⟩

/-- A pattern that closes before a cut is found without the end that is cut off. -/
theorem openedPattern?_cut (found : openedPattern? (s ++ t) = some (body, after))
    (before : t.length ≤ after.length) : ∃ rest, openedPattern? s = some (body, rest)
      ∧ after = rest ++ t := by
  obtain ⟨inner, opening, same, split⟩ := openedPattern?_iff.mp found
  have whole : s ++ t = opening ++ (body ++ patternClosing) ++ after := by rw [split]; simp
  rcases List.append_eq_append_iff.mp whole with ⟨a, left, right⟩ | ⟨a, left, right⟩
  · have none : a = [] := by
      have := congrArg List.length right
      rw [List.length_append] at this
      exact List.length_eq_zero_iff.mp (by omega)
    subst none
    rw [List.append_nil] at left
    refine ⟨[], openedPattern?_iff.mpr ⟨inner, opening, same, ?_⟩, right.symm⟩
    rw [← left]
    simp
  · exact ⟨a, openedPattern?_iff.mpr ⟨inner, opening, same, by rw [left]; simp⟩, right⟩

/-- A pattern that a text does not open with alone closes after the text. -/
theorem length_of_unopened (unopened : openedPattern? s = none)
    (found : openedPattern? (s ++ t) = some (body, after)) : after.length < t.length := by
  by_contra before
  obtain ⟨rest, here, _⟩ := openedPattern?_cut found (Nat.not_lt.mp before)
  rw [unopened] at here
  cases here

/-! ## Bonding -/

theorem lower_solid {opening mark : Text} (solid : ∀ c ∈ mark, isBlank c = false)
    (same : lower opening = lower mark) : ∀ c ∈ opening, isBlank c = false := by
  intro c mem
  have inside : c.toLower ∈ lower mark := by
    rw [← same, lower]
    exact List.mem_map_of_mem mem
  obtain ⟨d, here, lowered⟩ := List.mem_map.mp inside
  rw [← isBlank_toLower, ← lowered, isBlank_toLower, solid d here]

theorem solid_patternOpening : ∀ c ∈ patternOpening, isBlank c = false :=
  solid_of_graphic (by decide)

theorem bondPatterns_of_unopened (unopened : openedPattern? (c :: s) = none) :
    bondPatterns (c :: s) = c :: bondPatterns s := by
  rw [bondPatterns]
  split
  · next found =>
    rw [unopened] at found
    cases found
  · rfl

/-- The blanks of the pattern that a text opens with are bonded. -/
theorem bondPatterns_opened {opening : Text} (inner : IsBody body)
    (same : lower opening = lower patternOpening) :
    bondPatterns (opening ++ (body ++ (patternClosing ++ after)))
      = opening ++ (body.map bonded ++ (patternClosing ++ bondPatterns after)) := by
  have found : openedPattern? (opening ++ (body ++ (patternClosing ++ after)))
      = some (body, after) :=
    openedPattern?_iff.mpr ⟨inner, opening, same, rfl⟩
  have length : opening.length = patternOpening.length := by
    simpa [lower] using congrArg List.length same
  obtain ⟨date, quote, rfl⟩ : ∃ date quote, opening = date ++ [quote] := by
    refine (List.eq_nil_or_concat' opening).resolve_left ?_
    rintro rfl
    cases length
  have count : date.length = dateOpening.length := by
    simpa [patternOpening] using length
  have letters : lower date = lower dateOpening ∧ quote.toLower = '"'.toLower := by
    simpa [lower, patternOpening, count] using same
  have quoted : quote = '"' := by
    by_contra other
    exact toLower_ne rfl other letters.2
  subst quoted
  obtain ⟨first, rest, split⟩ := List.exists_cons_of_ne_nil
    (show date ++ ['"'] ++ (body ++ (patternClosing ++ after)) ≠ [] by simp)
  have kept : (first :: rest).take dateOpening.length = date := by
    rw [← split, ← count, List.append_assoc, List.take_left]
  rw [split] at found ⊢
  rw [bondPatterns]
  split
  · next here =>
    rw [found] at here
    cases here
    rw [kept]
    simp [patternClosing]
  · next here =>
    rw [found] at here
    cases here

/-- A line from pattern to pattern. -/
@[elab_as_elim]
theorem bond_induction {motive : Text → Prop} (s : Text) (nil : motive [])
    (plain : ∀ c s, openedPattern? (c :: s) = none → motive s → motive (c :: s))
    (pattern : ∀ opening body after, IsBody body → lower opening = lower patternOpening →
      motive after →
      motive (opening ++ (body ++ (patternClosing ++ after)))) : motive s := by
  induction s using bondPatterns.induct with
  | case1 => exact nil
  | case2 c s body after found ih =>
    obtain ⟨inner, opening, same, split⟩ := openedPattern?_iff.mp found
    rw [split]
    exact pattern opening body after inner same ih
  | case3 c s unopened ih => exact plain c s unopened ih

/-- A character and what bonding makes of it. -/
def Bonds (c d : Char) : Prop := d = c ∨ (isBlank c = true ∧ d = dateBond)

theorem bonds_refl (c : Char) : Bonds c c := .inl rfl

theorem bonds_bonded (c : Char) : Bonds c (bonded c) := by
  unfold bonded
  split
  · next blank => exact .inr ⟨blank, rfl⟩
  · exact bonds_refl c

theorem bonds_map (s : Text) : List.Forall₂ Bonds s (s.map bonded) :=
  List.forall₂_map_right_iff.mpr (List.forall₂_same.mpr fun c _ => bonds_bonded c)

/-- Bonding keeps the places of a line. -/
theorem bonds_bondPatterns (s : Text) : List.Forall₂ Bonds s (bondPatterns s) := by
  have kept : ∀ w : Text, List.Forall₂ Bonds w w :=
    fun w => List.forall₂_same.mpr fun c _ => bonds_refl c
  induction s using bond_induction with
  | nil =>
    rw [bondPatterns_nil]
    exact .nil
  | plain c s unopened ih =>
    rw [bondPatterns_of_unopened unopened]
    exact .cons (bonds_refl c) ih
  | pattern opening body after inner same ih =>
    rw [bondPatterns_opened inner same]
    exact List.rel_append (kept opening)
      (List.rel_append (bonds_map body) (List.rel_append (kept patternClosing) ih))

@[simp] theorem length_bondPatterns (s : Text) : (bondPatterns s).length = s.length :=
  (bonds_bondPatterns s).length_eq.symm

/-- A line is bonded already where as many of its characters are blank as before. -/
theorem eq_of_bonds (bonds : List.Forall₂ Bonds s t)
    (count : s.countP (!isBlank ·) = t.countP (!isBlank ·)) : t = s := by
  have grows : ∀ {s t : Text}, List.Forall₂ Bonds s t →
      s.countP (!isBlank ·) ≤ t.countP (!isBlank ·) := by
    intro s t bonds
    induction bonds with
    | nil => exact Nat.le_refl _
    | cons head _ ih =>
      rcases head with rfl | ⟨blank, rfl⟩
      · rw [List.countP_cons, List.countP_cons]
        omega
      · simp only [List.countP_cons, blank, isBlank_dateBond]
        simp
        omega
  induction bonds with
  | nil => rfl
  | cons head tail ih =>
    have more := grows tail
    rcases head with rfl | ⟨blank, rfl⟩
    · rw [List.countP_cons, List.countP_cons, Nat.add_right_cancel_iff] at count
      rw [ih count]
    · simp [blank, isBlank_dateBond] at count
      omega

/-- Where squeezing takes a bonded line back to the line, nothing was bonded. -/
theorem bondPatterns_of_squeeze (back : squeeze (bondPatterns s) = s) : bondPatterns s = s := by
  apply eq_of_bonds (bonds_bondPatterns s)
  have kept : s.filter (!isBlank ·) = (bondPatterns s).filter (!isBlank ·) := by
    rw [← flatten_words, ← flatten_words, ← words_squeeze (bondPatterns s), back]
  rw [List.countP_eq_length_filter, List.countP_eq_length_filter, kept]

theorem head_bondPatterns (unblank : isBlank c = false) (s : Text) :
    ∃ t, bondPatterns (c :: s) = c :: t := by
  have bonds := bonds_bondPatterns (c :: s)
  cases written : bondPatterns (c :: s) with
  | nil =>
    rw [written] at bonds
    cases bonds
  | cons d t =>
    rw [written] at bonds
    cases bonds with
    | cons head _ =>
      rcases head with rfl | ⟨blank, _⟩
      · exact ⟨t, rfl⟩
      · rw [unblank] at blank
        cases blank

/-! ## Cutting at a blank -/

/-- A pattern without blanks in it has none at all. -/
theorem solid_pattern {opening : Text} (same : lower opening = lower patternOpening)
    (inside : ∀ c ∈ body, isBlank c = false) : ∀ c ∈ opening ++ (body ++ patternClosing),
      isBlank c = false := by
  rw [List.forall_mem_append, List.forall_mem_append]
  exact ⟨lower_solid solid_patternOpening same, inside, solid_of_graphic (by decide)⟩

theorem solid_bonded {opening : Text} (same : lower opening = lower patternOpening) :
    ∀ c ∈ opening ++ (body.map bonded ++ patternClosing), isBlank c = false := by
  refine solid_pattern same fun c mem => ?_
  obtain ⟨d, _, rfl⟩ := List.mem_map.mp mem
  exact isBlank_bonded d

/-- A line is cut at a blank that is not bonded. -/
theorem bondPatterns_break (blank : isBlank c = true)
    (kept : (bondPatterns (u ++ c :: v))[u.length]? = some c) :
    bondPatterns (u ++ c :: v) = bondPatterns u ++ c :: bondPatterns v := by
  induction u using bond_induction with
  | nil => rw [List.nil_append, bondPatterns_blank blank, bondPatterns_nil, List.nil_append]
  | plain d u unopened ih =>
    have unopened' : openedPattern? (d :: u ++ c :: v) = none := by
      by_contra opens
      obtain ⟨⟨body, after⟩, found⟩ := Option.ne_none_iff_exists'.mp opens
      -- the pattern reaches over the blank, which is bonded then
      have reach := length_of_unopened unopened found
      obtain ⟨inner, opening, same, split⟩ := openedPattern?_iff.mp found
      have length := congrArg List.length split
      rw [split, bondPatterns_opened inner same, ← List.append_assoc, ← List.append_assoc,
        List.append_assoc opening, List.getElem?_append_left] at kept
      · have := solid_bonded same c (List.mem_of_getElem? kept)
        rw [blank] at this
        cases this
      · simp only [List.length_append, List.length_cons, List.length_map] at length reach ⊢
        omega
    rw [List.cons_append] at unopened' kept ⊢
    rw [bondPatterns_of_unopened unopened'] at kept ⊢
    rw [bondPatterns_of_unopened unopened, List.cons_append]
    rw [List.length_cons, List.getElem?_cons_succ] at kept
    rw [ih kept]
  | pattern opening body rest inner same ih =>
    simp only [List.append_assoc] at kept ⊢
    rw [bondPatterns_opened inner same] at kept ⊢
    rw [bondPatterns_opened inner same]
    rw [← List.append_assoc, ← List.append_assoc, List.append_assoc opening,
      List.getElem?_append_right (by simp)] at kept
    have place : (opening ++ (body ++ (patternClosing ++ rest))).length
        - (opening ++ (body.map bonded ++ patternClosing)).length = rest.length := by
      simp only [List.length_append, List.length_map]
      omega
    rw [place] at kept
    rw [ih kept]
    simp

/-- A blank at the end of a line is not bonded. -/
@[simp] theorem bondPatterns_concat (blank : isBlank c = true) (s : Text) :
    bondPatterns (s ++ [c]) = bondPatterns s ++ [c] := by
  induction s using bond_induction with
  | nil => rw [List.nil_append, bondPatterns_blank blank, bondPatterns_nil, List.nil_append]
  | plain d s unopened ih =>
    have unopened' : openedPattern? (d :: s ++ [c]) = none := by
      by_contra opens
      obtain ⟨⟨body, after⟩, found⟩ := Option.ne_none_iff_exists'.mp opens
      have reach := length_of_unopened unopened found
      obtain rfl : after = [] := List.length_eq_zero_iff.mp (by simpa using reach)
      obtain ⟨_, opening, _, split⟩ := openedPattern?_iff.mp found
      have closing : opening ++ (body ++ (patternClosing ++ []))
          = opening ++ body ++ ['"'] ++ [']'] := by
        simp [patternClosing]
      rw [closing] at split
      have last : c = ']' := List.singleton_inj.mp (List.append_inj_right' split rfl)
      rw [last, isBlank_of_graphic (by decide) (by decide)] at blank
      cases blank
    rw [List.cons_append] at unopened' ⊢
    rw [bondPatterns_of_unopened unopened', bondPatterns_of_unopened unopened, ih, List.cons_append]
  | pattern opening body rest inner same ih =>
    simp only [List.append_assoc]
    rw [bondPatterns_opened inner same, bondPatterns_opened inner same, ih]
    simp

/-- Blanks at the ends of a line do not matter for the words of the bonded line. -/
@[simp] theorem words_bondPatterns_trim (s : Text) :
    words (bondPatterns (trim s)) = words (bondPatterns s) := by
  have start : ∀ s : Text, words (bondPatterns (trimStart s)) = words (bondPatterns s) := by
    intro s
    induction s with
    | nil => rfl
    | cons c s ih =>
      rw [trimStart, List.dropWhile_cons]
      split
      · next blank => rw [bondPatterns_blank blank, words_blank blank, ← ih, trimStart]
      · rfl
  have finish : ∀ (b s : Text), (∀ c ∈ b, isBlank c = true) →
      bondPatterns (s ++ b) = bondPatterns s ++ b := by
    intro b
    induction b with
    | nil => intro s _; rw [List.append_nil, List.append_nil]
    | cons c b ih =>
      intro s blank
      rw [List.forall_mem_cons] at blank
      rw [List.append_cons, ih _ blank.2, bondPatterns_concat blank.1, ← List.append_cons]
  obtain ⟨b, blank, split⟩ := trimEnd_append_blanks (trimStart s)
  rw [trim, ← words_append_blanks _ blank, ← finish b _ blank, ← split, start]

end TrajectoryFormat.Description
