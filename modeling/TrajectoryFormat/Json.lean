import TrajectoryFormat.Number.Digits
import TrajectoryFormat.Text.Order

/-!
# Structured documents

Values written as JSON: two spaces of indentation, one entry a line, the entries of an object in the
order of their keys. Control characters, quotes and backslashes are escaped, and nothing else.
-/

namespace TrajectoryFormat

/-- A value of a structured document. -/
inductive Json where
  | null
  | bool (b : Bool)
  | number (n : Int)
  | text (s : Text)
  | list (items : List Json)
  | object (fields : List (Text × Json))

namespace Json

/-- A number, or nothing. -/
def ofNat? : Option Nat → Json
  | none => null
  | some n => number n

/-- A text, or nothing. -/
def ofText? : Option Text → Json
  | none => null
  | some s => text s

/-- The last two hexadecimal digits of a control character. -/
def hexPair (c : Char) : Text :=
  [Nat.digitChar (c.toNat / 16), Nat.digitChar (c.toNat % 16)]

def escape (c : Char) : Text :=
  match c with
  | '"' => "\\\""
  | '\\' => "\\\\"
  | '\n' => "\\n"
  | '\r' => "\\r"
  | '\t' => "\\t"
  | '\x08' => "\\b"
  | '\x0c' => "\\f"
  | _ => if c.toNat < 0x20 then "\\u00" ++ hexPair c else [c]

def quote (s : Text) : Text := '"' :: s.flatMap escape ++ ['"']

/-- Entries between brackets, each on a line of its own at the given depth. -/
def block (opening closing : Char) (depth : Nat) (entries : List Text) : Text :=
  if entries.isEmpty then [opening, closing]
  else
    let indent (d : Nat) : Text := '\n' :: List.replicate (2 * d) ' '
    let body := entries.map fun entry => indent (depth + 1) ++ entry
    opening :: Text.join "," body ++ indent depth ++ [closing]

/-- A field as it is written, its key before its value. -/
def field (key value : Text) : Text := quote key ++ ": " ++ value

def sortFields (fields : List (Text × Text)) : List (Text × Text) :=
  fields.mergeSort fun a b => a.1.isUpTo b.1

mutual

def renderAt (depth : Nat) : Json → Text
  | null => "null"
  | bool b => if b then "true" else "false"
  | number n => Number.ofInt n
  | text s => quote s
  | list items => block '[' ']' depth (renderItems (depth + 1) items)
  | object fields =>
    block '\x7b' '\x7d' depth
      ((sortFields (renderFields (depth + 1) fields)).map fun f => field f.1 f.2)

def renderItems (depth : Nat) : List Json → List Text
  | [] => []
  | item :: rest => renderAt depth item :: renderItems depth rest

def renderFields (depth : Nat) : List (Text × Json) → List (Text × Text)
  | [] => []
  | (key, value) :: rest => (key, renderAt depth value) :: renderFields depth rest

end

def render (value : Json) : Text := value.renderAt 0

end Json

end TrajectoryFormat
