import TrajectoryFormat.Description.DataFormat
import TrajectoryFormat.Description.Declaration
import TrajectoryFormat.Description.Violation

/-!
# Compiling a description

A description is accepted when every declaration is well formed and no rule across declarations is
broken. Both are always checked, so that the log tells of every problem, and a declaration that
fails is the reason that is given.
-/

namespace TrajectoryFormat

open Description

/-- A line of the log. -/
inductive LogEntry where
  | warning (text : Text)
  | failure (text : Text)
deriving DecidableEq

def LogEntry.render : LogEntry → Text
  | warning text => "[WARN] " ++ text
  | failure text => "[ERROR] " ++ text

/-- Why a description is rejected. -/
inductive FormatError where
  | empty
  | declaration (error : DeclarationError)
  | violations (found : List Violation)
deriving DecidableEq

namespace FormatError

def emptyMessage : Text := "Invalid input: the format description is empty"

def message : FormatError → Text
  | empty => "Lexical error: " ++ emptyMessage
  | declaration error => "Syntax error: " ++ error.message
  | violations found =>
    let count : Text := if 1 < found.length then "s (" ++ Number.ofNat found.length ++ ")" else ""
    let item (v : Violation) : Text := "\n  - " ++ v.message
    "Semantic error" ++ count ++ found.flatMap item

def source? : FormatError → Option Text
  | empty => some emptyMessage
  | declaration error => some error.message
  | violations found => found.head?.map Violation.message

end FormatError

/-- A compiled description with the log of its compilation, or the reason of its rejection. -/
structure Compilation where
  result : Except FormatError DataFormat
  log : List LogEntry

namespace Compilation

/-- The lines logged about the tokens of a description that may be rejected. -/
def checkLog (tokens : List Token) : List LogEntry :=
  let failed := match checkDeclarations tokens with
    | .error e => [LogEntry.failure e.message]
    | .ok () => []
  failed ++ (Description.violations tokens).map fun v => .failure v.message

def buildLog (tokens : List Token) : List LogEntry :=
  (DataFormat.warningsOf tokens).map fun w => .warning w.message

/-- The reason to reject the tokens of a description, if there is one. -/
def check (tokens : List Token) : Except FormatError Unit := do
  (checkDeclarations tokens).mapError .declaration
  let found := Description.violations tokens
  if !found.isEmpty then throw (.violations found)

def ofLines (lines : List Text) : Compilation :=
  match tokens? lines with
  | none => ⟨.error .empty, []⟩
  | some tokens =>
    match check tokens with
    | .error e => ⟨.error e, checkLog tokens⟩
    | .ok () => ⟨.ok (DataFormat.ofTokens tokens), checkLog tokens ++ buildLog tokens⟩

/-- Builds the format of a description without checking it. -/
def unchecked (lines : List Text) : Compilation :=
  match tokens? lines with
  | none => ⟨.error .empty, []⟩
  | some tokens => ⟨.ok (DataFormat.ofTokens tokens), buildLog tokens⟩

end Compilation

/-- Compiles the text of a description. -/
def compile (description : Text) : Compilation := Compilation.ofLines (Text.lines description)

end TrajectoryFormat
