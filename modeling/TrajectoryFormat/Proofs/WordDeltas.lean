import TrajectoryFormat.Number
import TrajectoryFormat.Proofs.GuardedReads

/-!
# Delta coding of signed words

A checked sum or difference of two signed words is the one word with the exact sum or difference as
its value, so each undoes the other. A column of words is therefore coded without loss wherever it
is coded at all: decoding takes the code back to the column, and a column that decoding gives is
coded as what was decoded.
-/

namespace TrajectoryFormat

open Number

namespace Number

variable {a b d s v : Int64} {n : Int}

theorem fitsInt64_toInt (w : Int64) : FitsInt64 w.toInt := by
  have least := w.le_toInt
  have most := w.toInt_lt
  unfold FitsInt64
  omega

theorem toInt_ofInt_of_fits (fits : FitsInt64 n) : (Int64.ofInt n).toInt = n := by
  unfold FitsInt64 at fits
  apply Int64.toInt_ofInt_of_le <;> omega

/-- There is one word with each value that fits. -/
theorem int64?_eq_some_iff : int64? n = some v ↔ v.toInt = n := by
  unfold int64?
  split
  · next fits => rw [Option.some.injEq, ← Int64.toInt_inj, toInt_ofInt_of_fits fits, eq_comm]
  · next fits =>
    constructor
    · intro none
      cases none
    · intro same
      exact absurd (same ▸ fitsInt64_toInt v) fits

theorem exists_int64?_iff : (∃ v, int64? n = some v) ↔ FitsInt64 n := by
  constructor
  · rintro ⟨v, found⟩
    exact int64?_eq_some_iff.mp found ▸ fitsInt64_toInt v
  · intro fits
    exact ⟨Int64.ofInt n, int64?_eq_some_iff.mpr (toInt_ofInt_of_fits fits)⟩

/-- The checked operations give what the wrapping ones give. -/
theorem eq_add_of_addInt64? (sum : addInt64? a b = some s) : s = a + b := by
  rw [addInt64?, int64?_eq_some_iff] at sum
  rw [← Int64.ofInt_toInt s, sum, Int64.ofInt_add, Int64.ofInt_toInt, Int64.ofInt_toInt]

theorem eq_sub_of_subInt64? (difference : subInt64? a b = some d) : d = a - b := by
  rw [subInt64?, int64?_eq_some_iff] at difference
  rw [← Int64.ofInt_toInt d, difference, Int64.ofInt_sub, Int64.ofInt_toInt, Int64.ofInt_toInt]

/-- A word is the difference of two just where its sum with the second is the first. -/
theorem subInt64?_eq_some_iff_addInt64? : subInt64? a b = some d ↔ addInt64? d b = some a := by
  rw [subInt64?, addInt64?, int64?_eq_some_iff, int64?_eq_some_iff]
  omega

end Number

namespace Delta

theorem exists_checkedSums_iff {previous : Int64} {values : List Int64} :
    (∃ out, checkedSums addInt64? previous values = .ok out) ↔
      ∀ s ∈ sums (· + ·) previous.toInt (values.map Int64.toInt), FitsInt64 s := by
  induction values generalizing previous with
  | nil => simp [checkedSums, sums]
  | cons d rest ih =>
    rw [List.map_cons, sums, List.forall_mem_cons]
    simp only [checkedSums_cons_eq_ok]
    constructor
    · rintro ⟨_, v, vs, hv, hvs, _⟩
      -- the sum is in range, and it is the value of the word that the sums go on from
      have exact : v.toInt = d.toInt + previous.toInt := int64?_eq_some_iff.mp hv
      rw [← exact]
      exact ⟨fitsInt64_toInt v, ih.mp ⟨vs, hvs⟩⟩
    · rintro ⟨first, others⟩
      obtain ⟨v, hv⟩ := exists_int64?_iff.mpr first
      have exact : v.toInt = d.toInt + previous.toInt := int64?_eq_some_iff.mp hv
      rw [← exact] at others
      obtain ⟨vs, hvs⟩ := ih.mpr others
      exact ⟨v :: vs, v, vs, hv, hvs, rfl⟩

theorem exists_checkedDecode_iff {values : List Int64} :
    (∃ out, checkedDecode addInt64? values = .ok out) ↔
      ∀ s ∈ decode (· + ·) (values.map Int64.toInt), FitsInt64 s := by
  cases values with
  | nil => simp [checkedDecode, decode]
  | cons v rest =>
    rw [List.map_cons, decode, List.forall_mem_cons, ← exists_checkedSums_iff]
    simp only [checkedDecode, prepend_eq_ok]
    constructor
    · rintro ⟨_, vs, hvs, _⟩
      exact ⟨fitsInt64_toInt v, vs, hvs⟩
    · rintro ⟨_, vs, hvs⟩
      exact ⟨v :: vs, vs, hvs, rfl⟩

/-- A column of words is coded just where every difference of neighbours fits, and decoded just
where every running sum does. What is coded or decoded is what the wrapping operations give, and a
column is coded as another just where the other is decoded as it. The walks in place, downward for
coding and upward for decoding, come to the same. -/
theorem words_coded_exactly (values : List Int64) :
    ((∃ coded, encode? subInt64? values = some coded) ↔
        ∀ k (_ : k + 1 < values.length), FitsInt64 (values[k + 1].toInt - values[k].toInt))
      ∧ ((∃ decoded, checkedDecode addInt64? values = .ok decoded) ↔
        ∀ k < values.length, FitsInt64 ((values.take (k + 1)).map Int64.toInt).sum)
      ∧ (∀ coded, encode? subInt64? values = some coded → coded = encode (· - ·) values)
      ∧ (∀ decoded, checkedDecode addInt64? values = .ok decoded → decoded = decode (· + ·) values)
      ∧ (∀ coded, encode? subInt64? values = some coded ↔
        checkedDecode addInt64? coded = .ok values)
      ∧ Guarded.sweepBack subInt64? values = .ok (encode? subInt64? values)
      ∧ Guarded.sweep addInt64? values = .ok (checkedDecode addInt64? values) := by
  refine ⟨?_, ?_, ?_, ?_, ?_, Guarded.sweepBack_eq _ values, Guarded.sweep_eq _ values⟩
  · rw [exists_encode?_iff, List.isChain_iff_getElem]
    simp only [subInt64?, exists_int64?_iff]
  · rw [exists_checkedDecode_iff, forall_mem_decode_iff, List.length_map]
    simp only [List.map_take]
  · intro coded coding
    have exact : coded.map id = encode (· - ·) (values.map id) := by
      apply map_encode? coding
      apply List.isChain_iff_getElem.mpr
      intro k bound d difference
      exact eq_sub_of_subInt64? difference
    rwa [List.map_id, List.map_id] at exact
  · intro decoded decoding
    have exact : decoded.map id = decode (· + ·) (values.map id) := by
      apply map_checkedDecode _ decoding
      intro d previous v sum
      exact eq_add_of_addInt64? sum
    rwa [List.map_id, List.map_id] at exact
  · intro coded
    apply encode?_eq_some_iff
    intro v previous d
    exact subInt64?_eq_some_iff_addInt64?

end Delta

end TrajectoryFormat
