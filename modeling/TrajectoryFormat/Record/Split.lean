import TrajectoryFormat.Description.DataFormat

/-!
# Values of a record

A record is cut into one value per attribute at the first occurrence of each delimiter in turn. The
text of an array is cut into items at the delimiters of its attributes, over and over.
-/

namespace TrajectoryFormat.Record

open Text

/-- The text before the first occurrence of a delimiter, and the text after it. An empty delimiter
occurs nowhere. -/
def cutAt? (delimiter text : Text) : Option (Text × Text) :=
  if delimiter.isEmpty then none else cut? delimiter text

theorem cutAt?_length {delimiter text before rest : Text}
    (h : cutAt? delimiter text = some (before, rest)) : rest.length < text.length := by
  simp only [cutAt?] at h
  split at h
  · simp at h
  · next hd => exact length_lt_of_cut? h (by simpa using hd)

/-- One value per attribute. Where a delimiter does not occur the value takes the rest, and the
attributes after it have empty values. -/
def rawValues : Option Text → List Attribute → List Text
  | _, [] => []
  | none, _ :: attributes => [] :: rawValues none attributes
  | some text, a :: attributes =>
    match cutAt? a.delimiter text with
    | some (value, rest) => value :: rawValues (some rest) attributes
    | none => text :: rawValues none attributes

/-- One value per attribute of a format, empty for an attribute that is left out. -/
def splitValues (f : DataFormat) (record : Text) : List Text :=
  f.attributes.zipWith (fun a value => if a.isIgnored then [] else value)
    (rawValues (some record) f.attributes)

/-- The items of a text from the item with number `k` on, delimiters taken in turn. -/
def itemsFrom (delimiters : List Text) (k : Nat) (text : Text) : List Text :=
  match _found : cutAt? (delimiters[k % delimiters.length]?.getD []) text with
  | some (item, rest) => item :: itemsFrom delimiters (k + 1) rest
  | none => [text]
termination_by text.length
decreasing_by exact cutAt?_length _found

/-- Without one empty item at the end. -/
def dropEmptyLast (items : List Text) : List Text :=
  if items.getLast? = some [] then items.dropLast else items

def splitItems (array : ArrayFormat) (text : Text) : List Text :=
  if array.attributes.isEmpty then []
  else dropEmptyLast (itemsFrom (array.attributes.map Attribute.delimiter) 0 text)

/-- The text of an array with a comma for each of its delimiters. -/
def flatten (array : ArrayFormat) (text : Text) : Text :=
  (array.attributes.map Attribute.delimiter).foldl
    (fun flat delimiter => if delimiter.isEmpty then flat else replace delimiter "," flat) text

/-- Items in groups of `size`, the last of which may be shorter. -/
def groupsOf (size : Nat) (items : List Text) : List (List Text) :=
  match items with
  | [] => []
  | item :: rest => (item :: rest.take (size - 1)) :: groupsOf size (rest.drop (size - 1))
termination_by items.length
decreasing_by simp only [List.length_drop, List.length_cons]; omega

end TrajectoryFormat.Record
