/-!
# Texts

A text is the list of its characters, so the laws of texts are laws of lists. String literals stand
for the texts they spell. A property of characters is kept outside ASCII as the ascending list of
its runs of code points.
-/

namespace TrajectoryFormat

/-- A text is the list of its characters. -/
abbrev Text := List Char

namespace Text

instance : Coe String Text := ⟨String.toList⟩

/-- The texts in order, with `separator` between neighbours. -/
def join (separator : Text) (parts : List Text) : Text := separator.intercalate parts

def string (s : Text) : String := String.ofList s

/-- A character whose code point lies in one of the runs, ends included. -/
def inRanges (runs : List (Nat × Nat)) (c : Char) : Bool :=
  runs.any fun (first, last) => first ≤ c.toNat && c.toNat ≤ last

theorem inRanges_iff {runs : List (Nat × Nat)} {c : Char} :
    inRanges runs c = true ↔ ∃ run ∈ runs, run.1 ≤ c.toNat ∧ c.toNat ≤ run.2 := by
  simp [inRanges]

end Text

end TrajectoryFormat
