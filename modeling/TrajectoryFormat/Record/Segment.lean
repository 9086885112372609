import TrajectoryFormat.Description.DataFormat

/-!
# Records of a file

The lines of a file that are not ignored make records: each line one, all of them one, or the lines
from one mark at the beginning of a line to the next. Lines of one record are joined by the line
bond, and blank records are left out.
-/

namespace TrajectoryFormat.Record

open Text

def keptLines (f : DataFormat) (lines : List Text) : List Text :=
  (lines.zipIdx.filter fun (_, i) => !f.ignoresLine i).map (·.1)

/-- The records that marks at the beginning of lines open, after the record begun so far. A record
that is still empty begins anew with the next line. -/
def openedBy (mark : Text) : Option Text → List Text → List Text
  | begun, [] => begun.toList
  | begun, line :: rest =>
    match after? mark line with
    | some first => begun.toList ++ openedBy mark (some first) rest
    | none =>
      match begun with
      | some (c :: record) => openedBy mark (some (c :: record ++ lineBond :: line)) rest
      | _ => openedBy mark (some line) rest

/-- The records of lines, blank ones among them. -/
def grouped (delimiter : RecordDelimiter) (lines : List Text) : List Text :=
  match delimiter with
  | .lineBreak => lines
  | .endOfFile => [join [lineBond] lines]
  | .text mark => openedBy mark none lines

/-- The records of the lines of a file. -/
def segments (f : DataFormat) (lines : List Text) : List Text :=
  (grouped f.recordDelimiter (keptLines f lines)).filter (!isAllBlank ·)

end TrajectoryFormat.Record
