import TrajectoryFormat.Text

/-!
# Comparison without regard to case

Only ASCII letters have two cases here: `é` and `É` differ.
-/

namespace TrajectoryFormat.Text

def lower (s : Text) : Text := s.map Char.toLower

/-- The same text but for the case of ASCII letters. -/
def sameIgnoringCase (s t : Text) : Bool := lower s == lower t

/-- The text opens with `mark`, in whatever case. -/
def opensWith (mark s : Text) : Bool := sameIgnoringCase mark (s.take mark.length)

/-- What follows the first place where `mark` stands, in whatever case. -/
def afterIgnoringCase? (mark : Text) : Text → Option Text
  | [] => if mark.isEmpty then some [] else none
  | c :: rest =>
    if opensWith mark (c :: rest) then some ((c :: rest).drop mark.length)
    else afterIgnoringCase? mark rest

@[simp] theorem sameIgnoringCase_self (s : Text) : sameIgnoringCase s s = true := by
  simp [sameIgnoringCase]

theorem sameIgnoringCase_comm (s t : Text) : sameIgnoringCase s t = sameIgnoringCase t s := by
  simp [sameIgnoringCase, Bool.beq_comm]

end TrajectoryFormat.Text
