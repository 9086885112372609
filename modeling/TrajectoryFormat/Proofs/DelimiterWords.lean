import TrajectoryFormat.Proofs.CompiledModel
import TrajectoryFormat.Proofs.ReservedWords

/-!
# Words for delimiters

A word is taken for a delimiter in whatever case, but it is given its meaning as it is spelled. So
the delimiters of a compiled format are what its words mean, one character or none, just where every
delimiter word is spelled in its own case. A word in another case stands for itself.
-/

namespace TrajectoryFormat

open Description Text

/-! ## Spelling and meaning -/

/-- A word is found as it is spelled, if it is found at all. -/
def SpelledOut (word : Text) : Prop := Keyword.lookup? word = Keyword.lookupIgnoringCase? word

instance (word : Text) : Decidable (SpelledOut word) := inferInstanceAs (Decidable (_ = _))

/-- What a word means as the delimiter of a field, in whatever case it is written. -/
def meaningOf (word : Text) : Text :=
  match Keyword.lookupIgnoringCase? word with
  | some .lineSpace => " "
  | some .lineBreak => [lineBond]
  | some .endOfFile => ""
  | _ => word

namespace RecordDelimiter

/-- What a word means as the delimiter of records, in whatever case it is written. -/
def meaningOf (word : Text) : RecordDelimiter :=
  match Keyword.lookupIgnoringCase? word with
  | some .lineBreak => lineBreak
  | some .endOfFile => endOfFile
  | some .lineSpace => text " "
  | _ => text word

def IsShort : RecordDelimiter → Prop
  | lineBreak | endOfFile => True
  | text mark => mark.length = 1

end RecordDelimiter

/-- A mark, or a reserved word for a delimiter in whatever case. -/
inductive DelimiterWord : Text → Prop
  | mark {c : Char} (mark : isMark [c] = true) : DelimiterWord [c]
  | reserved {word : Text} {k : Keyword} (known : Keyword.lookupIgnoringCase? word = some k)
      (delimiter : k = .lineBreak ∨ k = .lineSpace ∨ k = .endOfFile) : DelimiterWord word

theorem delimiterWord_of_classOf {word : Text} {first : Bool}
    (kind : classOf word first = .delimiter) :
    DelimiterWord word := by
  have ofClass : ∀ k : Keyword, k.lexicalClass = .delimiter →
      k = .lineBreak ∨ k = .lineSpace ∨ k = .endOfFile := by
    intro k
    cases k <;> decide
  unfold classOf at kind
  split_ifs at kind with _ _ isMark
  · unfold Description.isMark at isMark
    split at isMark
    · exact .mark isMark
    · cases isMark
  all_goals
    split at kind
    · next k known => exact .reserved known (ofClass k kind)
    · cases kind

@[simp] theorem lookupIgnoringCase?_singleton (c : Char) :
    Keyword.lookupIgnoringCase? [c] = none := by
  have longer : ∀ k : Keyword, k.name.length ≠ 1 := by
    intro k
    cases k <;> decide
  cases known : Keyword.lookupIgnoringCase? [c] with
  | none => rfl
  | some k =>
    exact absurd (by simpa [lower] using congrArg List.length (lower_of_lookup known)) (longer k)

/-- A reserved word is looked up with success in its own case only. -/
theorem lookup?_of_ignoringCase {word : Text} {k : Keyword}
    (known : Keyword.lookupIgnoringCase? word = some k) :
    Keyword.lookup? word = if word = k.name then some k else none := by
  split
  · next same => rw [same, Keyword.lookup?_name]
  · next other =>
    cases found : Keyword.lookup? word with
    | none => rfl
    | some k' =>
      have named := Keyword.name_of_lookup? found
      rw [← named, lookupIgnoringCase?_name, Option.some.injEq] at known
      exact absurd (known ▸ named).symm other

theorem spelledOut_iff {word : Text} {k : Keyword}
    (known : Keyword.lookupIgnoringCase? word = some k) :
    SpelledOut word ↔ word = k.name := by
  rw [SpelledOut, known, lookup?_of_ignoringCase known]
  split <;> simp_all

theorem length_of_lookupIgnoringCase {word : Text} {k : Keyword}
    (known : Keyword.lookupIgnoringCase? word = some k) : word.length = k.name.length := by
  simpa [lower] using (congrArg List.length (lower_of_lookup known)).symm

namespace DelimiterWord

variable {word : Text}

/-- A delimiter word has its meaning where it is spelled out, and stands for itself otherwise. -/
theorem resolveDelimiter_eq (h : DelimiterWord word) :
    resolveDelimiter word = if SpelledOut word then meaningOf word else word := by
  cases h with
  | @mark c =>
    rw [resolveDelimiter, meaningOf, lookup?_singleton, lookupIgnoringCase?_singleton, ite_self]
  | @reserved _ k known delimiter =>
    rw [resolveDelimiter, meaningOf, lookup?_of_ignoringCase known, known]
    by_cases spelled : word = k.name
    · rcases delimiter with rfl | rfl | rfl <;>
        simp only [if_pos spelled, if_pos ((spelledOut_iff known).mpr spelled)]
    · rw [if_neg spelled, if_neg (mt (spelledOut_iff known).mp spelled)]

theorem ofValue_eq (h : DelimiterWord word) :
    RecordDelimiter.ofValue word
      = if SpelledOut word then RecordDelimiter.meaningOf word else .text word := by
  cases h with
  | @mark c =>
    rw [RecordDelimiter.ofValue, RecordDelimiter.meaningOf, lookup?_singleton,
      lookupIgnoringCase?_singleton, ite_self]
  | @reserved _ k known delimiter =>
    rw [RecordDelimiter.ofValue, RecordDelimiter.meaningOf, lookup?_of_ignoringCase known, known]
    by_cases spelled : word = k.name
    · rcases delimiter with rfl | rfl | rfl <;>
        simp only [if_pos spelled, if_pos ((spelledOut_iff known).mpr spelled)]
    · rw [if_neg spelled, if_neg (mt (spelledOut_iff known).mp spelled)]

theorem length_meaningOf (h : DelimiterWord word) : (meaningOf word).length ≤ 1 := by
  cases h with
  | mark => rw [meaningOf, lookupIgnoringCase?_singleton, List.length_singleton]
  | @reserved _ k known delimiter =>
    rw [meaningOf, known]
    rcases delimiter with rfl | rfl | rfl <;> simp

theorem isShort_meaningOf (h : DelimiterWord word) : (RecordDelimiter.meaningOf word).IsShort := by
  cases h with
  | mark =>
    rw [RecordDelimiter.meaningOf, lookupIgnoringCase?_singleton]
    rfl
  | @reserved _ k known delimiter =>
    rw [RecordDelimiter.meaningOf, known]
    rcases delimiter with rfl | rfl | rfl
    · trivial
    · rfl
    · trivial

/-- A delimiter word in another case has two letters or more. -/
theorem two_le_length (h : DelimiterWord word) (other : ¬SpelledOut word) : 2 ≤ word.length := by
  cases h with
  | mark =>
    exact absurd (by rw [SpelledOut, lookup?_singleton, lookupIgnoringCase?_singleton]) other
  | @reserved _ k known delimiter =>
    rw [length_of_lookupIgnoringCase known]
    rcases delimiter with rfl | rfl | rfl <;> decide

theorem resolveDelimiter_short_iff (h : DelimiterWord word) :
    (resolveDelimiter word).length ≤ 1 ↔ SpelledOut word := by
  rw [h.resolveDelimiter_eq]
  split
  · next spelled => exact iff_of_true h.length_meaningOf spelled
  · next other => exact iff_of_false (Nat.not_le.mpr (h.two_le_length other)) other

theorem resolveDelimiter_meant_iff (h : DelimiterWord word) :
    resolveDelimiter word = meaningOf word ↔ SpelledOut word := by
  constructor
  · intro meant
    rw [← h.resolveDelimiter_short_iff, meant]
    exact h.length_meaningOf
  · intro spelled
    rw [h.resolveDelimiter_eq, if_pos spelled]

theorem ofValue_short_iff (h : DelimiterWord word) :
    (RecordDelimiter.ofValue word).IsShort ↔ SpelledOut word := by
  rw [h.ofValue_eq]
  split
  · next spelled => exact iff_of_true h.isShort_meaningOf spelled
  · next other =>
    have long := h.two_le_length other
    exact iff_of_false (fun short : word.length = 1 => by omega) other

theorem ofValue_meant_iff (h : DelimiterWord word) :
    RecordDelimiter.ofValue word = RecordDelimiter.meaningOf word ↔ SpelledOut word := by
  constructor
  · intro meant
    rw [← h.ofValue_short_iff, meant]
    exact h.isShort_meaningOf
  · intro spelled
    rw [h.ofValue_eq, if_pos spelled]

end DelimiterWord

/-! ## The words of a description -/

namespace Description

def declaredWord? : List Token → Option Text
  | [name, _, delimiter] => if name.isKind .command then none else some delimiter.value
  | _ => none

/-- The delimiter word of the field that a line declares or leaves out. -/
def delimiterWord? (line : List Token) : Option Text :=
  (declaredWord? line).or (setting? .ignoreAttribute line)

/-- The delimiter words of an array, one of each triple. -/
def tripleDelimiters : List Token → List Text
  | _ :: _ :: delimiter :: rest => delimiter.value :: tripleDelimiters rest
  | _ => []

/-- The delimiter words of fields: of attributes, of fields that are left out, and of the attributes
inside the coordinates array. -/
def fieldWords (lines : List (List Token)) : List Text :=
  lines.filterMap delimiterWord?
    ++ ((lines.findSome? coordinatesType?).map fun type =>
      tripleDelimiters (arrayTokens type)).getD []

/-- The delimiter word of records that counts. -/
def recordWord? (lines : List (List Token)) : Option Text :=
  latest (setting? .recordsDelimiter) lines

/-- Every delimiter word that the format of a description goes by. -/
def delimiterWords (lines : List (List Token)) : List Text :=
  fieldWords lines ++ (recordWord? lines).toList

theorem delimiter_of_attribute? (line : List Token) :
    (attribute? line).map Attribute.delimiter = (delimiterWord? line).map resolveDelimiter := by
  have declared : (declared? line).map Attribute.delimiter
      = (declaredWord? line).map resolveDelimiter := by
    rcases line with _ | ⟨name, _ | ⟨type, _ | ⟨delimiter, _ | ⟨more, rest⟩⟩⟩⟩
    case cons.cons.cons.nil =>
      rw [declared?, declaredWord?]
      split <;> rfl
    all_goals rfl
  rw [attribute?, delimiterWord?, Option.map_or, Option.map_or, declared, Option.map_map]
  rfl

theorem delimiters_of_attributesOf (tokens : List Token) :
    (ArrayFormat.attributesOf tokens).map Attribute.delimiter
      = (tripleDelimiters tokens).map resolveDelimiter := by
  fun_induction tripleDelimiters tokens with
  | case1 name type delimiter rest ih =>
    rw [ArrayFormat.attributesOf, List.map_cons, List.map_cons, ih]
    rfl
  | case2 tokens short =>
    rw [ArrayFormat.attributesOf]
    · rfl
    · exact short

/-- The delimiters inside a checked array are delimiter words. -/
theorem delimiterWord_of_checkTriples {declaration : Text} {tokens : List Token}
    (classified : Classified tokens) (h : checkTriples declaration tokens = .ok ()) :
    ∀ word ∈ tripleDelimiters tokens, DelimiterWord word := by
  fun_induction tripleDelimiters tokens with
  | case1 name type delimiter rest ih =>
    obtain ⟨⟨_, _, kind, _⟩, others⟩ := checkTriples_cons_eq_ok.mp h
    obtain ⟨first, ofClass⟩ := classified delimiter (by simp)
    rw [List.forall_mem_cons]
    constructor
    · exact delimiterWord_of_classOf (ofClass.symm.trans kind)
    · exact ih (fun token mem => classified token (by simp [mem])) others
  | case2 => simp

/-- The delimiter of an accepted line is a delimiter word. -/
theorem Accepted.delimiterWord {line : List Token} {word : Text} (accepted : Accepted line)
    (classified : Classified line) (given : delimiterWord? line = some word) :
    DelimiterWord word := by
  have ofKind : ∀ token ∈ line, token.kind = .delimiter → DelimiterWord token.value := by
    intro token mem kind
    obtain ⟨first, ofClass⟩ := classified token mem
    exact delimiterWord_of_classOf (ofClass.symm.trans kind)
  rcases Option.or_eq_some_iff.mp given with declared | ⟨_, ignored⟩
  · cases accepted with
    | setting => cases declared
    | @declared name type delimiter kind _ closed =>
      rw [declaredWord?, Token.isKind, kind] at declared
      cases declared
      exact ofKind delimiter (by simp) closed
  · obtain ⟨name, value, rfl, rfl, kind⟩ := accepted.legal ignored
    exact ofKind value (by simp) kind

end Description

/-! ## The delimiters of a compiled format -/

namespace DataFormat

/-- The delimiters of fields: of attributes, of fields that are left out, and of the attributes
inside the coordinates array. -/
def fieldDelimiters (f : DataFormat) : List Text :=
  f.attributes.map Attribute.delimiter
    ++ (f.coordinates.map fun array => array.attributes.map Attribute.delimiter).getD []

/-- Every delimiter is one character, or none, or an end of lines or files. -/
def HasShortDelimiters (f : DataFormat) : Prop :=
  (∀ delimiter ∈ f.fieldDelimiters, delimiter.length ≤ 1) ∧ f.recordDelimiter.IsShort

/-- Every delimiter is what its word means, in whatever case the word is written. -/
def HasMeantDelimiters (f : DataFormat) (lines : List (List Token)) : Prop :=
  f.fieldDelimiters = (fieldWords lines).map meaningOf
    ∧ f.recordDelimiter = (recordWord? lines).elim .lineBreak RecordDelimiter.meaningOf

end DataFormat

namespace Compiled

variable {f : DataFormat} {lines : List (List Token)}

theorem fieldDelimiters_eq (h : Compiled f lines) :
    f.fieldDelimiters = (fieldWords lines).map resolveDelimiter := by
  have attributes : (lines.filterMap attribute?).map Attribute.delimiter
      = (lines.filterMap delimiterWord?).map resolveDelimiter := by
    rw [List.map_filterMap, List.map_filterMap]
    exact congrArg (lines.filterMap ·) (funext delimiter_of_attribute?)
  rw [h.format, DataFormat.fieldDelimiters, DataFormat.readOff, fieldWords,
    List.map_append, attributes]
  cases lines.findSome? coordinatesType? with
  | none => rfl
  | some type => exact congrArg _ (delimiters_of_attributesOf (arrayTokens type))

theorem recordDelimiter_eq (h : Compiled f lines) :
    f.recordDelimiter = (recordWord? lines).elim .lineBreak RecordDelimiter.ofValue := by
  rw [h.format, DataFormat.readOff, recordWord?, ← map_latest]
  cases latest (setting? .recordsDelimiter) lines <;> rfl

/-- The gate of compilation lets only delimiter words through. -/
theorem delimiterWord_of_mem (h : Compiled f lines) :
    ∀ word ∈ delimiterWords lines, DelimiterWord word := by
  intro word mem
  rw [delimiterWords, fieldWords, List.mem_append, List.mem_append] at mem
  rcases mem with (field | inside) | records
  · obtain ⟨line, mem, given⟩ := List.mem_filterMap.mp field
    exact (h.accepted line mem).delimiterWord (h.classified line mem) given
  · cases first : lines.findSome? coordinatesType? with
    | none => simp [first] at inside
    | some type =>
      rw [first, Option.map_some, Option.getD_some] at inside
      obtain ⟨line, mem, given⟩ := List.exists_of_findSome?_eq_some first
      exact delimiterWord_of_checkTriples (classified_arrayTokens _)
        (checkTriples_of_checkArray ((h.accepted line mem).array given)) word inside
  · obtain ⟨line, mem, given⟩ := exists_of_latest (Option.mem_toList.mp records)
    obtain ⟨name, value, rfl, rfl, kind⟩ := (h.accepted line mem).legal given
    obtain ⟨first, ofClass⟩ := h.classified _ mem value (by simp)
    exact delimiterWord_of_classOf (ofClass.symm.trans kind)

/-- Delimiters are short just where every delimiter word is spelled in its own case. -/
theorem hasShortDelimiters_iff (h : Compiled f lines) :
    f.HasShortDelimiters ↔ ∀ word ∈ delimiterWords lines, SpelledOut word := by
  have words := h.delimiterWord_of_mem
  rw [delimiterWords, List.forall_mem_append] at words
  rw [DataFormat.HasShortDelimiters, h.fieldDelimiters_eq, h.recordDelimiter_eq,
    List.forall_mem_map, delimiterWords, List.forall_mem_append]
  refine and_congr (forall₂_congr fun word mem => (words.1 word mem).resolveDelimiter_short_iff) ?_
  cases records : recordWord? lines with
  | none => simp [RecordDelimiter.IsShort]
  | some word =>
    have reserved : DelimiterWord word := words.2 word (by simp [records])
    simpa using reserved.ofValue_short_iff

/-- Delimiters are meant just where every delimiter word is spelled in its own case. -/
theorem hasMeantDelimiters_iff (h : Compiled f lines) :
    f.HasMeantDelimiters lines ↔ ∀ word ∈ delimiterWords lines, SpelledOut word := by
  have words := h.delimiterWord_of_mem
  rw [delimiterWords, List.forall_mem_append] at words
  rw [DataFormat.HasMeantDelimiters, h.fieldDelimiters_eq, h.recordDelimiter_eq, List.map_inj_left,
    delimiterWords, List.forall_mem_append]
  refine and_congr (forall₂_congr fun word mem => (words.1 word mem).resolveDelimiter_meant_iff) ?_
  cases records : recordWord? lines with
  | none => simp
  | some word =>
    have reserved : DelimiterWord word := words.2 word (by simp [records])
    simpa using reserved.ofValue_meant_iff

end Compiled

/-- What becomes of the delimiter words of a description that compiles. They were all accepted as
delimiters, in whatever case, but one that is not spelled in its own case is kept as it is. So every
delimiter is short, and is what its word means, just where no word is in another case. -/
theorem delimiters_of_compile {description : Text} {f : DataFormat}
    (compiled : (compile description).result = .ok f) :
    ∃ tokens, tokens? (Text.lines description) = some tokens ∧ f = DataFormat.ofTokens tokens
      ∧ (∀ word ∈ delimiterWords (declarationLines tokens), DelimiterWord word)
      ∧ f.fieldDelimiters = (fieldWords (declarationLines tokens)).map
          (fun word => if SpelledOut word then meaningOf word else word)
      ∧ f.recordDelimiter = (recordWord? (declarationLines tokens)).elim .lineBreak
          (fun word => if SpelledOut word then RecordDelimiter.meaningOf word else .text word)
      ∧ (f.HasShortDelimiters ↔ ∀ word ∈ delimiterWords (declarationLines tokens), SpelledOut word)
      ∧ (f.HasMeantDelimiters (declarationLines tokens)
          ↔ ∀ word ∈ delimiterWords (declarationLines tokens), SpelledOut word) := by
  obtain ⟨tokens, lexed, h⟩ := compiled_of_compile compiled
  have words := h.delimiterWord_of_mem
  refine ⟨tokens, lexed, h.format.trans (DataFormat.ofTokens_eq tokens).symm, words, ?_, ?_,
    h.hasShortDelimiters_iff, h.hasMeantDelimiters_iff⟩
  all_goals rw [delimiterWords, List.forall_mem_append] at words
  · rw [h.fieldDelimiters_eq]
    exact List.map_congr_left fun word mem => (words.1 word mem).resolveDelimiter_eq
  · rw [h.recordDelimiter_eq]
    cases records : recordWord? (declarationLines tokens) with
    | none => rfl
    | some word =>
      have reserved : DelimiterWord word := words.2 word (by simp [records])
      exact reserved.ofValue_eq

/-- A description whose delimiter words are in small letters, but for one. -/
def smallWordsDescription : Text :=
  Text.join "\n"
    ["_RECORDS_DELIM ln", "_ID STRING ls", "_IGNORE_ATTR LN",
      "_COORDINATES ARRAY(_X DECIMAL , _Y DECIMAL Ls _TIME INTEGER ,) eof"]

theorem delimiters_of_compile_smallWords :
    ∃ f, (compile smallWordsDescription).result = .ok f
      ∧ f.fieldDelimiters = (["ls", [lineBond], "eof", ",", "Ls", ","] : List Text)
      ∧ f.recordDelimiter = .text "ln"
      ∧ ∃ tokens, tokens? (Text.lines smallWordsDescription) = some tokens
      ∧ f = DataFormat.ofTokens tokens
        ∧ (∀ word ∈ delimiterWords (declarationLines tokens), DelimiterWord word)
        ∧ f.fieldDelimiters = (fieldWords (declarationLines tokens)).map
            (fun word => if SpelledOut word then meaningOf word else word)
        ∧ f.recordDelimiter = (recordWord? (declarationLines tokens)).elim .lineBreak
            (fun word => if SpelledOut word then RecordDelimiter.meaningOf word else .text word)
        ∧ (f.HasShortDelimiters ↔ ∀ word ∈ delimiterWords (declarationLines tokens),
          SpelledOut word)
        ∧ (f.HasMeantDelimiters (declarationLines tokens)
            ↔ ∀ word ∈ delimiterWords (declarationLines tokens), SpelledOut word) := by
  have run : (compile smallWordsDescription).result.map
      (fun f => (f.fieldDelimiters, f.recordDelimiter))
      = .ok ((["ls", [lineBond], "eof", ",", "Ls", ","] : List Text), .text "ln") := by
    decide +kernel
  obtain ⟨f, compiled, delimiters⟩ := Checked.map_eq_ok.mp run
  obtain ⟨fields, records⟩ := Prod.mk.inj delimiters
  exact ⟨f, compiled, fields, records, delimiters_of_compile compiled⟩

/-- A description that writes the word for the end of files in small letters. -/
def smallEofDescription : Text :=
  Text.join "\n"
    ["_ID STRING ;", "_COORDINATES ARRAY(_X DECIMAL , _Y DECIMAL , _TIME INTEGER ,) eof"]

/-- Not every description that compiles has short delimiters: the word for the end of files is kept
where it is in small letters. -/
theorem small_eof_kept :
    ¬∀ description f, (compile description).result = .ok f → f.HasShortDelimiters := by
  intro short
  have run : (compile smallEofDescription).result.map DataFormat.fieldDelimiters
      = .ok [";", "eof", ",", ",", ","] := by
    decide +kernel
  obtain ⟨f, compiled, fields⟩ := Checked.map_eq_ok.mp run
  have long := (short _ f compiled).1 "eof" (by simp [fields])
  exact absurd long (by decide)

end TrajectoryFormat
