import TrajectoryFormat.Text

/-!
# Blank characters

The blank characters are those of the Unicode property White_Space. Trimming removes them at the
ends of a text, and its words are the longest runs of other characters. Squeezing writes the words
with one space between neighbours. Two private characters keep text together that blanks or line
ends would part.
-/

namespace TrajectoryFormat

/-- Joins the physical lines of one record. -/
def lineBond : Char := '\x1e'

/-- Stands for a blank inside a date pattern. -/
def dateBond : Char := '\x1f'

namespace Text

/-- A space, a tab, a line end or another character of the property White_Space. -/
@[irreducible] def isBlank (c : Char) : Bool :=
  let n := c.toNat
  (9 ≤ n && n ≤ 13) || n == 0x20 || n == 0x85 || n == 0xa0 || n == 0x1680
    || (0x2000 ≤ n && n ≤ 0x200a) || n == 0x2028 || n == 0x2029 || n == 0x202f || n == 0x205f
    || n == 0x3000

/-- The visible characters of ASCII are not blank. -/
theorem isBlank_of_graphic {c : Char} (least : 33 ≤ c.toNat) (most : c.toNat ≤ 126) :
    isBlank c = false := by
  unfold isBlank
  simp only [Bool.or_eq_false_iff, Bool.and_eq_false_iff, decide_eq_false_iff_not,
    beq_eq_false_iff_ne]
  omega

theorem solid_of_graphic {s : Text}
    (graphic : s.all (fun c => 33 ≤ c.toNat && c.toNat ≤ 126) = true) :
    ∀ c ∈ s, isBlank c = false := by
  intro c mem
  have bounds := List.all_eq_true.mp graphic c mem
  rw [Bool.and_eq_true, decide_eq_true_eq, decide_eq_true_eq] at bounds
  exact isBlank_of_graphic bounds.1 bounds.2

def trimStart (s : Text) : Text := s.dropWhile isBlank

def trimEnd (s : Text) : Text := (s.reverse.dropWhile isBlank).reverse

def trim (s : Text) : Text := trimEnd (trimStart s)

/-- Empty, or of blanks only. -/
def isAllBlank (s : Text) : Bool := s.all isBlank

/-- The longest runs of characters that are not blank, in order. -/
def words (s : Text) : List Text := (s.splitOnP isBlank).filter (!·.isEmpty)

def squeeze (s : Text) : Text := join " " (words s)

theorem trimStart_length_le (s : Text) : (trimStart s).length ≤ s.length :=
  (List.dropWhile_sublist isBlank).length_le

theorem trimStart_cons_of_not_blank {c : Char} (s : Text) (h : isBlank c = false) :
    trimStart (c :: s) = c :: s := by
  simp [trimStart, h]

/-- A text with no blank at either end is trimmed already. -/
theorem trim_eq_self {s : Text} (first : ∀ c, s.head? = some c → isBlank c = false)
    (last : ∀ c, s.getLast? = some c → isBlank c = false) : trim s = s := by
  have start : trimStart s = s := by
    cases s with
    | nil => rfl
    | cons c s => exact trimStart_cons_of_not_blank s (first c rfl)
  have finish : trimEnd s = s := by
    rw [trimEnd]
    cases reversed : s.reverse with
    | nil => simpa using reversed.symm
    | cons c r =>
      have ends : s.getLast? = some c := by
        rw [List.getLast?_eq_head?_reverse, reversed, List.head?_cons]
      rw [List.dropWhile_cons_of_neg (by simp [last c ends]), ← reversed, List.reverse_reverse]
  rw [trim, start, finish]

end Text

end TrajectoryFormat
