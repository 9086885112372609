import TrajectoryFormat.Text

/-!
# The order of texts

Texts are ordered as in a dictionary, characters by their code points. A text comes before its own
continuations.
-/

namespace TrajectoryFormat.Text

/-- Whether the first text is the second, or comes before it. -/
def isUpTo : Text → Text → Bool
  | [], _ => true
  | _ :: _, [] => false
  | a :: s, b :: t => a.toNat < b.toNat || (a == b && isUpTo s t)

@[simp] theorem isUpTo_refl (s : Text) : isUpTo s s = true := by
  induction s with
  | nil => rfl
  | cons c s ih => simp [isUpTo, ih]

theorem isUpTo_total (s t : Text) : (isUpTo s t || isUpTo t s) = true := by
  induction s generalizing t with
  | nil => simp [isUpTo]
  | cons a s ih =>
    cases t with
    | nil => simp [isUpTo]
    | cons b t =>
      rcases Nat.lt_trichotomy a.toNat b.toNat with less | same | more
      · simp [isUpTo, less]
      · obtain rfl : a = b := Char.toNat_inj.mp same
        simpa [isUpTo] using ih t
      · simp [isUpTo, more]

end TrajectoryFormat.Text
