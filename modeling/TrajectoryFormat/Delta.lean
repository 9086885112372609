/-!
# Delta coding

A column of numbers is delta-coded by keeping its first value and writing every other value as its
difference from the one before. The running sum undoes it. Where a difference or a sum may leave its
range, coding is refused, and decoding says how far it came.
-/

namespace TrajectoryFormat.Delta

/-- The differences of the values that follow `previous`. -/
def differences (sub : α → α → α) (previous : α) : List α → List α
  | [] => []
  | v :: rest => sub v previous :: differences sub v rest

/-- The first value, and the difference of every other value from the one before. -/
def encode (sub : α → α → α) : List α → List α
  | [] => []
  | v :: rest => v :: differences sub v rest

/-- The running sums that follow `previous`. -/
def sums (add : α → α → α) (previous : α) : List α → List α
  | [] => []
  | d :: rest => let v := add d previous; v :: sums add v rest

/-- The first value, and the running sum at every other one. -/
def decode (add : α → α → α) : List α → List α
  | [] => []
  | v :: rest => v :: sums add v rest

/-- The differences of the values that follow `previous`, if each is in range. -/
def differences? (sub? : α → α → Option α) (previous : α) : List α → Option (List α)
  | [] => some []
  | v :: rest => do
    let d ← sub? v previous
    let ds ← differences? sub? v rest
    pure (d :: ds)

/-- Delta-codes a column, if every difference is in range. -/
def encode? (sub? : α → α → Option α) : List α → Option (List α)
  | [] => some []
  | v :: rest => (differences? sub? v rest).map (v :: ·)

/-- Puts a value in front of a column, decoded or not. -/
def prepend (v : α) : Except (List α) (List α) → Except (List α) (List α)
  | .ok vs => .ok (v :: vs)
  | .error vs => .error (v :: vs)

/-- The running sums that follow `previous`. Where a sum is out of range the values from there on
stay as they are. -/
def checkedSums (add? : α → α → Option α) (previous : α) : List α → Except (List α) (List α)
  | [] => .ok []
  | d :: rest =>
    match add? d previous with
    | some v => prepend v (checkedSums add? v rest)
    | none => .error (d :: rest)

/-- Decodes a delta-coded column. The error is the column as far as it was decoded. -/
def checkedDecode (add? : α → α → Option α) : List α → Except (List α) (List α)
  | [] => .ok []
  | v :: rest => prepend v (checkedSums add? v rest)

/-- Decodes a delta-coded column, if every running sum is in range. -/
def decode? (add? : α → α → Option α) (column : List α) : Option (List α) :=
  (checkedDecode add? column).toOption

end TrajectoryFormat.Delta
