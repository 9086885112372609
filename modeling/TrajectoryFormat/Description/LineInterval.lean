import TrajectoryFormat.Number.Digits
import TrajectoryFormat.Text.Blank
import TrajectoryFormat.Text.Cut
import TrajectoryFormat.Text.Numeral

/-!
# Intervals of lines

Lines to be left out are given as a list such as `[2,4-5]` of single lines and intervals, counted
from one. Line numbers inside the program count from zero.
-/

namespace TrajectoryFormat

open Text

/-- The lines from `first` to `last`, counted from one, both included. -/
structure LineInterval where
  first : Nat
  last : Nat
  first_pos : 1 ≤ first
  first_le_last : first ≤ last
deriving DecidableEq

namespace LineInterval

/-- Whether the line with this number, counted from zero, lies in the interval. -/
def contains (i : LineInterval) (line : Nat) : Bool := i.first ≤ line + 1 && line + 1 ≤ i.last

def bounds? (item : Text) : Option (Nat × Nat) := do
  let (before, after) ← cut? "-" item
  let first ← Number.read? Number.limit64 (trim before)
  let last ← Number.read? Number.limit64 (trim after)
  pure (first, last)

def ofItem? (item : Text) : Option LineInterval := do
  let (first, last) ← match cut? "-" item with
    | some _ => bounds? item
    | none => (Number.read? Number.limit64 item).map fun n => (n, n)
  if h : 1 ≤ first ∧ first ≤ last then some ⟨first, last, h.1, h.2⟩ else none

/-- The text of a list between its brackets, however many there are. -/
def listBody (value : Text) : Text :=
  (((trim value).dropWhile (· == '[')).reverse.dropWhile (· == ']')).reverse

/-- The items of a list, empty ones left out. -/
def items (value : Text) : List Text :=
  (((listBody value).splitOn ',').map trim).filter (!·.isEmpty)

/-- The intervals of a list. An item that spells none is left out. -/
def ofList (value : Text) : List LineInterval := (items value).filterMap ofItem?

def refused (value : Text) : List Text := (items value).filter fun item => (ofItem? item).isNone

def inverted (value : Text) : List (Nat × Nat) :=
  ((listBody value).splitOn ',').filterMap bounds? |>.filter fun (first, last) => last < first

/-- Digits of any script, or two runs of them around a hyphen. -/
def isItem (item : Text) : Bool :=
  let isRun (s : Text) : Bool := !s.isEmpty && s.all isDecimalDigit
  match item.splitOn '-' with
  | [line] => isRun line
  | [first, last] => isRun first && isRun last
  | _ => false

/-- Whether a value has the form of a list: brackets around items parted by commas. -/
def isList : Text → Bool
  | '[' :: rest => rest.getLast? == some ']' && (rest.dropLast.splitOn ',').all isItem
  | _ => false

/-- The numbers from `start` on that lie in intervals ordered by their first lines, counted from
zero. -/
def ascending (start : Nat) : List LineInterval → List Nat
  | [] => []
  | i :: rest =>
    let first := max start (i.first - 1)
    List.range' first (i.last - first) ++ ascending (max start i.last) rest

/-- The line numbers in the intervals, counted from zero, each once and in ascending order. -/
def lineNumbers (intervals : List LineInterval) : List Nat :=
  ascending 0 (intervals.mergeSort fun i j => i.first ≤ j.first)

end LineInterval

end TrajectoryFormat
