import TrajectoryFormat.Proofs.Checked
import TrajectoryFormat.Proofs.Words

/-!
# Bonded patterns

The blanks inside a date pattern are bonded before a line is cut at its blanks. They stand for
themselves in the pattern, and a bond is read as a space, so the bonded pattern compiles where the
pattern does.
-/

namespace TrajectoryFormat

open Checked Description Text

namespace DatePattern

/-- A blank as a space, and any other character as it is. -/
def spaced (c : Char) : Char := if isBlank c then ' ' else c

theorem spaced_eq_iff {c : Char} (unblank : isBlank c = false) (d : Char) :
    spaced d = c ↔ d = c := by
  unfold spaced
  split
  · next blank =>
    constructor
    · rintro rfl
      rw [isBlank_space] at unblank
      cases unblank
    · rintro rfl
      rw [blank] at unblank
      cases unblank
  · rfl

@[simp] theorem isAlpha_spaced (c : Char) : (spaced c).isAlpha = c.isAlpha := by
  unfold spaced
  split
  · next blank =>
    rw [isAlpha_of_isBlank blank]
    rfl
  · rfl

/-- A letter opens the same run where the blanks are spaced. -/
theorem spaced_letter {c : Char} (letter : c.isAlpha = true) :
    spaced c = c ∧ (fun d => d == c) ∘ spaced = (· == c) := by
  have unblank : isBlank c = false :=
    isBlank_of_continuesIdentifier (continuesIdentifier_of_isAlpha letter)
  refine ⟨(spaced_eq_iff unblank c).mpr rfl, funext fun d => ?_⟩
  rw [Function.comp_apply, Bool.eq_iff_iff, beq_iff_eq, beq_iff_eq, spaced_eq_iff unblank]

/-- Blanks stand for themselves in a pattern, so it does not matter which they are. -/
@[simp] theorem isOk_scan_spaced (quoted : Bool) (s : Text) :
    (scan quoted (s.map spaced)).isOk = (scan quoted s).isOk := by
  have quote : isBlank '\'' = false := isBlank_of_graphic (by decide) (by decide)
  have same : spaced '\'' = '\'' := (spaced_eq_iff quote _).mpr rfl
  have noQuote : ∀ {rest : Text}, (∀ r, rest = '\'' :: r → False) →
      ∀ r, rest.map spaced = '\'' :: r → False := by
    intro rest other r begins
    obtain ⟨c, rest, rfl, first, rfl⟩ := List.map_eq_cons_iff.mp begins
    exact other rest (by rw [(spaced_eq_iff quote c).mp first])
  fun_induction scan quoted s with
  | case1 => simp [scan]
  | case2 quoted outside => simp [scan, outside]
  | case3 quoted rest ih => rw [List.map_cons, List.map_cons, same, scan, isOk_map, isOk_map, ih]
  | case4 quoted rest other ih =>
    rw [List.map_cons, same, scan, ih]
    exact noQuote other
  | case5 quoted c rest _ other letter field run ih =>
    obtain ⟨kept, runs⟩ := spaced_letter (Bool.and_eq_true_iff.mp letter).2
    rw [List.map_cons, kept, scan, if_pos letter, List.takeWhile_map, List.dropWhile_map, runs,
      List.length_map, run]
    · simp only [isOk_map, ih]
    · exact fun _ first => absurd first other
    · exact other
  | case6 quoted c rest _ other letter run =>
    obtain ⟨kept, runs⟩ := spaced_letter (Bool.and_eq_true_iff.mp letter).2
    rw [List.map_cons, kept, scan, if_pos letter, List.takeWhile_map, runs, List.length_map, run]
    · exact fun _ first => absurd first other
    · exact other
  | case7 quoted c rest _ other literal ih =>
    have other : spaced c ≠ '\'' := fun first => other ((spaced_eq_iff quote c).mp first)
    rw [List.map_cons, scan, isAlpha_spaced, if_neg literal, isOk_map, isOk_map, ih]
    · exact fun _ first => absurd first other
    · exact other

theorem unbonded_bonded (c : Char) : unbonded (bonded c) = spaced (unbonded c) := by
  by_cases bond : c = dateBond
  · rw [bond]
    decide +kernel
  · by_cases blank : isBlank c = true
    · simp [unbonded, bonded, spaced, bond, blank]
    · simp [unbonded, bonded, spaced, bond, blank]

theorem map_unbonded_eq_self {pattern : Text} (noBond : dateBond ∉ pattern) :
    pattern.map unbonded = pattern := by
  have same : ∀ c ∈ pattern, unbonded c = c := by
    intro c mem
    apply if_neg
    rintro rfl
    exact noBond mem
  rw [List.map_congr_left same, List.map_id']

theorem map_unbonded_spaced {pattern : Text} (noBond : dateBond ∉ pattern) :
    (pattern.map spaced).map unbonded = pattern.map spaced := by
  apply map_unbonded_eq_self
  intro mem
  obtain ⟨c, inside, same⟩ := List.mem_map.mp mem
  rw [spaced_eq_iff isBlank_dateBond] at same
  exact noBond (same ▸ inside)

/-- A pattern with its blanks bonded is compiled as it is with spaces for its blanks. -/
theorem compile_bonded {pattern : Text} (noBond : dateBond ∉ pattern) :
    compile (pattern.map bonded) = compile (pattern.map spaced) := by
  have source : (pattern.map bonded).map unbonded = (pattern.map spaced).map unbonded := by
    calc (pattern.map bonded).map unbonded = (pattern.map unbonded).map spaced := by
          simp [unbonded_bonded]
      _ = pattern.map spaced := by rw [map_unbonded_eq_self noBond]
      _ = (pattern.map spaced).map unbonded := (map_unbonded_spaced noBond).symm
  simp only [compile, source]

/-- The source of a compiled pattern is the pattern with its bonds read as spaces. -/
theorem source_of_compile {pattern : Text} {p : DatePattern} (compiled : compile pattern = .ok p) :
    p.source = pattern.map unbonded := by
  rw [compile_eq] at compiled
  split at compiled
  · cases compiled
  · obtain ⟨items, _, rfl⟩ := map_eq_ok.mp compiled
    rfl

/-- A pattern compiles with its blanks bonded where it compiles as it is. -/
theorem isOk_compile_bonded {pattern : Text} (h : (compile pattern).isOk = true) :
    (compile (pattern.map bonded)).isOk = true := by
  have source : (pattern.map bonded).map unbonded = (pattern.map unbonded).map spaced := by
    simp [unbonded_bonded]
  have blank : isAllBlank ((pattern.map unbonded).map spaced)
      = isAllBlank (pattern.map unbonded) := by
    have spacedBlank : ∀ c, isBlank (spaced c) = isBlank c := by
      intro c
      unfold spaced
      split
      · next blank => rw [isBlank_space, blank]
      · rfl
    rw [isAllBlank, isAllBlank, List.all_map]
    simp [Function.comp_def, spacedBlank]
  rw [compile_eq] at h ⊢
  rw [source, blank]
  split at h
  · cases h
  · next written =>
    rw [if_neg written, isOk_map, isOk_scan_spaced]
    rwa [isOk_map] at h

end DatePattern

end TrajectoryFormat
