import TrajectoryFormat.Proofs.DeltaCoding
import TrajectoryFormat.Statistics.Engine

/-!
# Samples from columns

A sample is made from three columns that are equally long and not empty. It has a point for each
row, and its times are those of the third column.
-/

namespace TrajectoryFormat.Statistics

variable {α : Type}

namespace Sample

theorem length_zipPoints {xs ys ts : List α} (hy : ys.length = xs.length)
    (ht : ts.length = xs.length) :
    (zipPoints xs ys ts).length = xs.length := by
  simp [zipPoints, hy, ht]

theorem map_t_zipPoints {xs ys ts : List α} (hy : ys.length = xs.length)
    (ht : ts.length = xs.length) :
    (zipPoints xs ys ts).map Point.t = ts := by
  calc (zipPoints xs ys ts).map Point.t
      = ((xs.zip (ys.zip ts)).map Prod.snd).map Prod.snd := by
        simp only [zipPoints, List.map_map, Function.comp_def]
    _ = (ys.zip ts).map Prod.snd := by rw [List.map_snd_zip (by simp [hy, ht])]
    _ = ts := List.map_snd_zip (by rw [hy, ht])

theorem ofColumns_eq_ok {xs ys ts : List α} {s : Sample α} :
    ofColumns xs ys ts = .ok s ↔
      xs ≠ [] ∧ ys.length = xs.length ∧ ts.length = xs.length ∧ s.points = zipPoints xs ys ts := by
  unfold ofColumns
  split
  · next empty =>
    simp only [Bool.or_eq_true, List.isEmpty_iff] at empty
    constructor
    · nofun
    · rintro ⟨hx, hy, ht, _⟩
      rcases empty with (rfl | rfl) | rfl
      · exact absurd rfl hx
      · exact absurd (List.length_eq_zero_iff.mp hy.symm) hx
      · exact absurd (List.length_eq_zero_iff.mp ht.symm) hx
  · next filled =>
    simp only [Bool.or_eq_true, List.isEmpty_iff, not_or] at filled
    split
    · next uneven =>
      constructor
      · nofun
      · rintro ⟨_, hy, ht, _⟩
        exact absurd uneven (by simp [hy, ht])
    · next even =>
      simp only [ne_eq, not_or, not_not] at even
      have some_point : zipPoints xs ys ts ≠ [] := by
        rw [← List.length_pos_iff, length_zipPoints even.1.symm even.2.symm]
        exact List.length_pos_iff.mpr filled.1.1
      rw [dif_pos some_point, Except.ok.injEq]
      constructor
      · rintro rfl
        exact ⟨filled.1.1, even.1.symm, even.2.symm, rfl⟩
      · rintro ⟨_, _, _, points⟩
        cases s
        simp only at points
        simp only [points]

end Sample

variable [Measure α]

@[simp] theorem Column.length_absolute (c : Column α) : c.absolute.length = c.values.length := by
  unfold absolute
  split
  · exact Delta.length_decode _ _
  · rfl

namespace Sample

variable {xs ys ts : Column α} {s : Sample α}

/-- Columns that are equally long and not empty make a sample. -/
theorem exists_ofDelta (hx : xs.values ≠ []) (hy : ys.values.length = xs.values.length)
    (ht : ts.values.length = xs.values.length) : ∃ s, ofDelta xs ys ts = .ok s := by
  have filled : zipPoints xs.absolute ys.absolute ts.absolute ≠ [] := by
    rw [← List.length_pos_iff, length_zipPoints] <;>
      simp only [Column.length_absolute, hy, ht]
    exact List.length_pos_iff.mpr hx
  refine ⟨⟨_, filled⟩, ofColumns_eq_ok.mpr ⟨?_, ?_, ?_, rfl⟩⟩
  · rw [← List.length_pos_iff, Column.length_absolute]
    exact List.length_pos_iff.mpr hx
  · rw [Column.length_absolute, Column.length_absolute, hy]
  · rw [Column.length_absolute, Column.length_absolute, ht]

theorem length_points (h : ofDelta xs ys ts = .ok s) : s.points.length = ts.values.length := by
  obtain ⟨_, hy, ht, points⟩ := ofColumns_eq_ok.mp h
  rw [points, length_zipPoints hy ht, ← ht, Column.length_absolute]

theorem map_t_points (h : ofDelta xs ys ts = .ok s) : s.points.map Point.t = ts.absolute := by
  obtain ⟨_, hy, ht, points⟩ := ofColumns_eq_ok.mp h
  rw [points, map_t_zipPoints hy ht]

end Sample

end TrajectoryFormat.Statistics
