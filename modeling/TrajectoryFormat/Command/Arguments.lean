import TrajectoryFormat.Command.Work

/-!
# Arguments

The words of a command line: a command, options with their values before or after it, and what else
it takes. A value follows its option as the next word, after an equals sign, or directly after the
letter of a short option. Two hyphens alone end the options.
-/

namespace TrajectoryFormat.Command

open Text

/-- What the program is asked to do. -/
inductive Request where
  | check (file? : Option Text) (json : Bool)
  | load (request : LoadRequest) (json : Bool)
  | overview
  | topic (name : Text)
deriving DecidableEq

/-- Why words are no command line. -/
inductive UsageError where
  | noCommand
  | unknownCommand (word : Text)
  | unexpectedArgument (word : Text)
  | missingValue (option : Text)
  | repeatedOption (option : Text)
  | invalidValue (option value reason : Text)
  | missingArgument (name : Text)
deriving DecidableEq

def UsageError.message : UsageError → Text
  | noCommand => "error: a command is required: check, load, docs or doc"
  | unknownCommand word => "error: unrecognized command '" ++ word ++ "'"
  | unexpectedArgument word => "error: unexpected argument '" ++ word ++ "'"
  | missingValue option => "error: a value is required for '" ++ option ++ "'"
  | repeatedOption option => "error: '" ++ option ++ "' cannot be used multiple times"
  | invalidValue option value reason =>
    "error: invalid value '" ++ value ++ "' for '" ++ option ++ "': " ++ reason
  | missingArgument name => "error: '" ++ name ++ "' is required"

/-- An option: its long name, the letter of its short form, and whether it takes a value. -/
structure OptionForm where
  name : Text
  letter : Option Char
  takesValue : Bool

def verboseForm : OptionForm := ⟨"verbose", some 'v', false⟩
def jsonForm : OptionForm := ⟨"json", none, false⟩
def formatForm : OptionForm := ⟨"format", some 'f', true⟩
def inputForm : OptionForm := ⟨"input", some 'i', true⟩
def outputForm : OptionForm := ⟨"output", some 'o', true⟩
def shapeForm : OptionForm := ⟨"output-format", none, true⟩
def workersForm : OptionForm := ⟨"workers", some 'w', true⟩

/-- The words of a command line, sorted: options with their values, and the other words. -/
structure Words where
  options : List (Text × Text) := []
  others : List Text := []

namespace Words

def has (w : Words) (form : OptionForm) : Bool := w.options.any (·.1 == form.name)

def value? (w : Words) (form : OptionForm) : Option Text :=
  (w.options.find? (·.1 == form.name)).map (·.2)

/-- The words with one more option. No option may stand twice. -/
def addOption (w : Words) (form : OptionForm) (value : Text) : Except UsageError Words :=
  if w.has form then .error (.repeatedOption form.name)
  else .ok { w with options := w.options ++ [(form.name, value)] }

def addOther (w : Words) (word : Text) : Words := { w with others := w.others ++ [word] }

/-- The option that a word spells, and the value that the word holds. -/
def spelled? (forms : List OptionForm) (word : Text) : Option (OptionForm × Option Text) :=
  match word with
  | '-' :: '-' :: long =>
    let (name, value?) := match cut? "=" long with
      | some (name, value) => (name, some value)
      | none => (long, none)
    (forms.find? (·.name == name)).map (·, value?)
  | '-' :: letter :: value =>
    let value? := match value with
      | [] => none
      | '=' :: value => some value
      | value => some value
    (forms.find? (·.letter == some letter)).map (·, value?)
  | _ => none

/-- Sorts the words of a command line by the options that it may have. -/
def sort (forms : List OptionForm) (w : Words) : List Text → Except UsageError Words
  | [] => .ok w
  | word :: rest =>
    if word = ['-', '-'] then .ok { w with others := w.others ++ rest }
    else if word.head? = some '-' && word.length ≠ 1 then
      match spelled? forms word with
      | none => .error (.unexpectedArgument word)
      | some (form, value?) =>
        match form.takesValue, value?, rest with
        | false, none, rest => do sort forms (← w.addOption form []) rest
        | false, some _, _ => .error (.unexpectedArgument word)
        | true, some value, rest => do sort forms (← w.addOption form value) rest
        | true, none, value :: rest =>
          if value.head? = some '-' && value.length ≠ 1 then .error (.missingValue form.name)
          else do sort forms (← w.addOption form value) rest
        | true, none, [] => .error (.missingValue form.name)
    else sort forms (w.addOther word) rest

def need (w : Words) (form : OptionForm) : Except UsageError Text :=
  match w.value? form with
  | some value => .ok value
  | none => .error (.missingArgument form.name)

def atMostOne (w : Words) : Except UsageError (Option Text) :=
  match w.others with
  | [] => .ok none
  | [word] => .ok (some word)
  | _ :: word :: _ => .error (.unexpectedArgument word)

/-- The output shape that an option names, if it is given. -/
def shape? (w : Words) : Except UsageError (Option OutputShape) :=
  match w.value? shapeForm with
  | none => .ok none
  | some word =>
    match OutputShape.ofName? word with
    | some shape => .ok (some shape)
    | none => .error (.invalidValue shapeForm.name word (OutputShape.unknown word))

/-- The number of workers must be a number, whatever it is. -/
def checkWorkers (w : Words) : Except UsageError Unit :=
  match w.value? workersForm with
  | none => .ok ()
  | some word =>
    match Number.read? Number.limit64 word with
    | some _ => .ok ()
    | none => .error (.invalidValue workersForm.name word "invalid digit found in string")

end Words

namespace Request

def ofCheck (words : List Text) : Except UsageError Request := do
  let w ← Words.sort [verboseForm, jsonForm] {} words
  pure (.check (← w.atMostOne) (w.has jsonForm))

def ofLoad (words : List Text) : Except UsageError Request := do
  let forms := [verboseForm, jsonForm, formatForm, inputForm, outputForm, shapeForm, workersForm]
  let w ← Words.sort forms {} words
  match w.others with
  | word :: _ => throw (.unexpectedArgument word)
  | [] =>
    w.checkWorkers
    let request : LoadRequest :=
      { format := ← w.need formatForm, input := ← w.need inputForm, output := ← w.need outputForm,
        shape? := ← w.shape? }
    pure (.load request (w.has jsonForm))

def ofDocs (words : List Text) : Except UsageError Request := do
  let w ← Words.sort [verboseForm] {} words
  match w.others with
  | word :: _ => throw (.unexpectedArgument word)
  | [] => pure .overview

def ofDoc (words : List Text) : Except UsageError Request := do
  let w ← Words.sort [verboseForm] {} words
  match ← w.atMostOne with
  | some name => pure (.topic name)
  | none => throw (.missingArgument "topic")

def ofWords : List Text → Except UsageError Request
  | [] => .error .noCommand
  | word :: rest =>
    if word = "check" then ofCheck rest
    else if word = "load" then ofLoad rest
    else if word = "docs" then ofDocs rest
    else if word = "doc" then ofDoc rest
    else if word = "--verbose" || word = "-v" then
      match rest with
      | [] => .error .noCommand
      | command :: rest => ofWords (command :: rest)
    else .error (.unknownCommand word)

end Request

end TrajectoryFormat.Command
