import Mathlib.Data.List.Basic
import TrajectoryFormat.Proofs.CompiledModel
import TrajectoryFormat.Proofs.WrittenLines

/-!
# Formats of written descriptions

A written description is accepted and compiled to the format that it denotes. Each of its
declarations passes its check, the rules across declarations are kept, and each part of the format
is read off the declarations.
-/

namespace TrajectoryFormat.Written

open Checked Description Text

/-! ## Declarations are accepted -/

theorem ValueType.kind_ne_arrayType (t : ValueType) : t.kind ≠ .arrayType := by
  cases t with
  | basic word k spelled value =>
    intro array
    rcases value with value | value <;> exact absurd (value.symm.trans array) (by decide)
  | date => exact nofun

theorem checkTriples_fields (declaration : Text) (fields : List Field) :
    checkTriples declaration ((fields.map Field.bonded).flatMap Field.tokens) = .ok () := by
  induction fields with
  | nil => rfl
  | cons f fields ih =>
    rw [List.map_cons, List.flatMap_cons]
    refine checkTriples_cons_eq_ok.mpr ⟨⟨rfl, f.bonded.typed, rfl, ?_⟩, ih⟩
    intro date
    exact f.type.exists_datePattern (f.type.kind_bonded.symm.trans date)

/-- An array of fields passes its check. -/
theorem checkArray_arrayText {fields : List Field} (nonempty : fields ≠ []) :
    checkArray (arrayText fields) = .ok () := by
  have described : ∀ t ∈ bondedTriples fields, Pattern.Describes tripleForm t.text :=
    List.forall_mem_map.mpr fun f _ => describes_triple
      (describes_word f.name.ne_nil fun c mem =>
        (wordChar_of_continuesIdentifier (f.name.letters c mem)).1)
      f.type.describes f.delimiter.isDelimiter.describes
  rw [arrayText_eq]
  refine Triple.checkArray_arrayText (bondedTriples_ne_nil nonempty) whole_bondedTriples
    described ?_
  rw [tokens_bondedTriples]
  exact checkTriples_fields _ _

/-- A setting has a value that it takes. -/
theorem Setting.legal (s : Setting) : Legal ⟨s.value, s.kind⟩ s.keyword := by
  cases s with
  | coordinateSystem => rfl
  | spatialDimensions digit legal => exact legal
  | ignoreLines items nonempty => exact isList_listText nonempty
  | ignoreAttribute => rfl
  | autoId => rfl
  | recordsDelimiter => rfl
  | decimalPrecision digits spelled bound => exact ⟨spelled, bound⟩
  | outputShape => rfl

/-- Every declaration passes its check. -/
theorem Declaration.accepted (d : Declaration) : Accepted d.bonded.tokens := by
  cases d with
  | declared a =>
    refine .declared rfl a.name.identifier rfl a.bonded.typed ?_ ?_
    · intro array
      obtain ⟨name, type, delimiter, typed⟩ := a
      cases type with
      | value type => exact absurd (type.kind_bonded.symm.trans array) type.kind_ne_arrayType
      | array fields nonempty => exact checkArray_arrayText nonempty
    · intro date
      obtain ⟨name, type, delimiter, typed⟩ := a
      cases type with
      | value type => exact type.exists_datePattern (type.kind_bonded.symm.trans date)
      | array => exact absurd date nofun
  | setting s =>
    exact .setting rfl ((checkValue_eq_ok (Keyword.lookup?_name s.keyword) _).mpr s.legal)

/-! ## What the lines say -/

theorem ofDeclaration_arrayText {fields : List Field} (nonempty : fields ≠ []) :
    ArrayFormat.ofDeclaration (arrayText fields)
      = ⟨arrayText fields, fields.map Field.attribute⟩ := by
  have declared : ∀ f : Field, f.bonded.triple.declared = f.attribute := by
    intro f
    rw [Triple.declared, Attribute.declared]
    exact congrArg (Attribute.mk f.name.text f.type.bonded.text) f.delimiter.resolveDelimiter_text
  rw [arrayText_eq, Triple.ofDeclaration_arrayText (bondedTriples_ne_nil nonempty)
    whole_bondedTriples,
    bondedTriples, List.map_map]
  congr 1
  exact List.map_congr_left fun f _ => declared f

namespace Declaration

variable (d : Declaration)

theorem declared?_tokens : (declared? d.bonded.tokens).map Attribute.name = d.name? := by
  cases d <;> rfl

theorem attribute?_tokens : Description.attribute? d.bonded.tokens = d.attribute? := by
  cases d with
  | declared a =>
    simp [Description.attribute?, declared?, bonded, tokens, Token.isKind,
      AttributeLine.bonded, attribute?, Attribute.declared, a.delimiter.resolveDelimiter_text]
  | setting s =>
    cases s with
    | ignoreAttribute delimiter =>
      simp [Description.attribute?, declared?, setting?, bonded, tokens, Token.isKind, attribute?,
        Setting.keyword, Setting.value, Keyword.lookup?_name, Attribute.ignored, Attribute.declared,
        delimiter.resolveDelimiter_text]
    | _ =>
      simp [Description.attribute?, declared?, setting?, bonded, tokens, Token.isKind, attribute?,
        Setting.keyword, Keyword.lookup?_name]

theorem setting?_tokens (k : Keyword) : setting? k d.bonded.tokens = match d with
    | .declared _ => none
    | .setting s => if s.keyword = k then some s.value else none := by
  cases d with
  | declared a => rfl
  | setting s => simp [setting?, bonded, tokens, Token.isKind, Keyword.lookup?_name]

/-- The coordinates that a declaration declares are an array of its fields. -/
theorem coordinatesType?_tokens :
    coordinatesType? d.bonded.tokens = d.fields?.map fun fields => arrayText fields := by
  cases d with
  | declared a =>
    obtain ⟨name, type, delimiter, typed⟩ := a
    by_cases named : name.text = Keyword.coordinates.name
    · cases type with
      | value type =>
        rw [attributeTypes, named, Keyword.lookup?_name, List.mem_singleton] at typed
        exact absurd typed type.kind_ne_arrayType
      | array fields nonempty =>
        simp [coordinatesType?, declared?, bonded, tokens, Token.isKind,
          AttributeLine.bonded, fields?, Attribute.declared, named, AttributeType.bonded,
          AttributeType.text, arrayText, bondedText]
    · cases type <;>
        simp [coordinatesType?, declared?, bonded, tokens, Token.isKind,
          AttributeLine.bonded, fields?, Attribute.declared, named]
  | setting s => rfl

theorem coordinates?_eq :
    d.coordinates? = (coordinatesType? d.bonded.tokens).map ArrayFormat.ofDeclaration := by
  rw [coordinatesType?_tokens, Option.map_map]
  cases d with
  | declared a =>
    obtain ⟨name, type, delimiter, typed⟩ := a
    cases type with
    | value => rfl
    | array fields nonempty =>
      by_cases named : name.text = Keyword.coordinates.name
      · simp only [coordinates?, fields?, named, if_true, Option.map_some, Function.comp_apply,
          ofDeclaration_arrayText nonempty]
        rfl
      · simp [coordinates?, fields?, named]
  | setting => rfl

end Declaration

/-- The format that is read off the lines of a description is the one that it denotes. -/
theorem Document.readOff_tokens (d : Document) :
    DataFormat.readOff (d.declarations.map fun d => d.bonded.tokens) = d.format := by
  have last : ∀ {β : Type} {reads : List Token → Option β} {denotes : Declaration → Option β},
      (∀ d : Declaration, reads d.bonded.tokens = denotes d) →
      latest reads (d.declarations.map fun d => d.bonded.tokens)
        = latest denotes d.declarations := by
    intro β reads denotes same
    rw [latest_map]
    exact congrArg (latest · d.declarations) (funext same)
  rw [DataFormat.readOff, format, DataFormat.mk.injEq]
  refine ⟨?each, ?array, ?system, ?precision, ?shape, ?records, ?generated, ?lines⟩
  case each =>
    rw [List.filterMap_map]
    exact congrArg (List.filterMap · d.declarations) (funext Declaration.attribute?_tokens)
  case array =>
    rw [List.findSome?_map, List.map_findSome?]
    exact congrArg (List.findSome? · d.declarations) (funext fun d => d.coordinates?_eq.symm)
  case system =>
    rw [last]
    intro d
    rw [d.setting?_tokens]
    rcases d with _ | (_ | _) <;> rfl
  case precision =>
    rw [last]
    intro d
    rw [d.setting?_tokens]
    rcases d with _ | s
    · rfl
    · cases s with
      | decimalPrecision digits spelled bound =>
        exact Number.read?_of_isDigits spelled (Nat.lt_of_le_of_lt bound (by decide))
      | _ => rfl
  case shape =>
    rw [last]
    intro d
    rw [d.setting?_tokens]
    rcases d with _ | s
    · rfl
    · cases s with
      | outputShape word shape spelled => exact spelled
      | _ => rfl
  case records =>
    rw [last]
    intro d
    rw [d.setting?_tokens]
    rcases d with _ | s
    · rfl
    · cases s with
      | recordsDelimiter delimiter => exact congrArg some delimiter.ofValue_text
      | _ => rfl
  case generated =>
    apply last
    intro d
    rw [d.setting?_tokens]
    rcases d with _ | (_ | _) <;> rfl
  case lines =>
    have each : ∀ d : Declaration,
        ((setting? .ignoreLines d.bonded.tokens).toList.flatMap LineInterval.ofList)
          = d.ignoredLines := by
      intro d
      rw [d.setting?_tokens]
      rcases d with _ | s
      · rfl
      · cases s with
        | ignoreLines items nonempty =>
          simp [Setting.keyword, Setting.value, Declaration.ignoredLines, ofList_listText nonempty]
        | _ => rfl
    rw [List.filterMap_map, List.filterMap_eq_flatMap_toList, List.flatMap_assoc]
    exact congrArg (List.flatMap · d.declarations) (funext each)

/-! ## The rules are kept -/

namespace Document

variable (d : Document)

theorem name?_of_fields? {a : Declaration} {fields : List Field}
    (declared : a.fields? = some fields) :
    a.name? = some Keyword.coordinates.name := by
  unfold Declaration.fields? at declared
  split at declared
  · split at declared
    · next named => exact congrArg some named
    · cases declared
  · cases declared

/-- There is one coordinates array. -/
theorem unique {a b : Declaration} {fields fields' : List Field} (ha : a ∈ d.declarations)
    (hb : b ∈ d.declarations) (declared : a.fields? = some fields)
    (declared' : b.fields? = some fields') :
    a = b := by
  have symmetric : Std.Symm fun a b : Declaration => ∀ s, a.name? = some s → ∀ t, b.name? = some t →
      s.sameIgnoringCase t = false :=
    ⟨fun a b differ s hs t ht => by rw [sameIgnoringCase_comm]; exact differ t ht s hs⟩
  by_contra apart
  have differ := (List.pairwise_filterMap.mp d.names).forall ha hb apart
    _ (name?_of_fields? declared) _
    (name?_of_fields? declared')
  rw [sameIgnoringCase_self] at differ
  cases differ

theorem missingAxes_arrayText {fields : List Field} (axes : HasAxes fields) :
    Facts.missingAxes (ArrayFormat.ofDeclaration (arrayText fields)) = [] := by
  have nonempty : fields ≠ [] := by
    obtain ⟨f, mem, _⟩ := axes.time
    exact List.ne_nil_of_mem mem
  have present : ∀ names : List Keyword, (∃ f ∈ fields, ∃ k ∈ names, f.name.text = k.name) →
      (position? (fields.map Field.attribute) names).isNone = false := by
    rintro names ⟨f, mem, k, listed, named⟩
    have found := position?_isSome.mpr ⟨f.attribute, List.mem_map_of_mem mem, k, listed, named⟩
    rwa [Option.isNone_eq_false_iff]
  rw [ofDeclaration_arrayText nonempty, Facts.missingAxes, ArrayFormat.xIndex?, ArrayFormat.yIndex?,
    ArrayFormat.timeIndex?, present [.x, .lon] (by simpa using axes.x),
    present [.y, .lat] (by simpa using axes.y), present [.time] (by simpa using axes.time)]
  rfl

theorem attributeNames_readOff :
    (Facts.readOff (d.declarations.map fun d => d.bonded.tokens)).attributeNames
      = d.declarations.filterMap Declaration.name? := by
  rw [Facts.readOff, List.filterMap_map, List.map_filterMap]
  exact congrArg (List.filterMap · d.declarations) (funext Declaration.declared?_tokens)

theorem identityViolations_readOff :
    (Facts.readOff (d.declarations.map fun d => d.bonded.tokens)).identityViolations = [] := by
  have autoId : (Facts.readOff (d.declarations.map fun d => d.bonded.tokens)).autoId
      = latest Declaration.autoId? d.declarations :=
        congrArg DataFormat.autoIdPrefix d.readOff_tokens
  have none_given : latest Declaration.autoId? d.declarations = none ↔
      ∀ a ∈ d.declarations, a.autoId? = none := by
    simp [latest, List.findSome?_eq_none_iff]
  rw [Facts.identityViolations_eq_nil, d.attributeNames_readOff, autoId, Bool.eq_iff_iff,
    List.contains_iff_mem, d.identity, ← none_given]
  cases latest Declaration.autoId? d.declarations <;> simp

theorem coordinatesViolations_readOff :
    (Facts.readOff (d.declarations.map fun d => d.bonded.tokens)).coordinatesViolations = [] := by
  obtain ⟨a, mem, fields, declared, axes⟩ := d.coordinates
  unfold Facts.coordinatesViolations
  cases last : (Facts.readOff (d.declarations.map fun d => d.bonded.tokens)).coordinatesType with
  | none =>
    rw [Facts.readOff, latest, List.findSome?_eq_none_iff] at last
    have unsaid := last a.bonded.tokens (by simpa using ⟨a, mem, rfl⟩)
    rw [a.coordinatesType?_tokens, declared] at unsaid
    cases unsaid
  | some declaration =>
    obtain ⟨line, here, given⟩ := exists_of_latest last
    obtain ⟨b, mem', rfl⟩ := List.mem_map.mp here
    rw [b.coordinatesType?_tokens, Option.map_eq_some_iff] at given
    obtain ⟨fields', declared', rfl⟩ := given
    obtain rfl := d.unique mem mem' declared declared'
    obtain rfl : fields = fields' := Option.some.inj (declared.symm.trans declared')
    exact missingAxes_arrayText axes

theorem intervalViolations_readOff :
    (Facts.readOff (d.declarations.map fun d => d.bonded.tokens)).intervalViolations = [] := by
  unfold Facts.intervalViolations
  cases last : (Facts.readOff (d.declarations.map fun d => d.bonded.tokens)).ignoreLines with
  | none => rfl
  | some value =>
    obtain ⟨line, here, given⟩ := exists_of_latest last
    obtain ⟨a, _, rfl⟩ := List.mem_map.mp here
    rw [a.setting?_tokens] at given
    have ordered : LineInterval.inverted value = [] := by
      rcases a with _ | s
      · cases given
      · cases s with
        | ignoreLines items nonempty =>
          cases given
          exact inverted_listText nonempty
        | _ => cases given
    simp [ordered]

/-- A written description breaks no rule. -/
theorem violations_eq_nil {tokens : List Token}
    (lines : declarationLines tokens = d.declarations.map fun d => d.bonded.tokens) :
    Description.violations tokens = [] := by
  have accepted : ∀ line ∈ declarationLines tokens, Accepted line := by
    intro line mem
    rw [lines] at mem
    obtain ⟨a, _, rfl⟩ := List.mem_map.mp mem
    exact a.accepted
  simp only [Description.violations, Facts.ofTokens_eq accepted, lines,
    d.identityViolations_readOff, d.coordinatesViolations_readOff, d.intervalViolations_readOff,
    d.attributeNames_readOff, Facts.duplicates_of_pairwise d.names, List.map_nil, List.append_nil]

end Document

/-! ## One declaration a line -/

theorem dropReturn_of_ends {l : Text} (ends : ∃ t c, l = t ++ [c] ∧ isBlank c = false) :
    dropReturn l = l := by
  obtain ⟨t, c, rfl, unblank⟩ := ends
  have other : c ≠ '\r' := by
    rintro rfl
    simp [isBlank] at unblank
  rw [dropReturn, List.getLast?_concat, if_neg (by simpa using other)]

/-- Lines that end in no blank are found again, the last one closed or not. -/
theorem lines_join {ls : List Text} (nonempty : ls ≠ []) (unbroken : ∀ l ∈ ls, '\n' ∉ l)
    (ends : ∀ l ∈ ls, ∃ t c, l = t ++ [c] ∧ isBlank c = false) :
    Text.lines (join "\n" ls) = ls ∧ Text.lines (join "\n" ls ++ "\n") = ls := by
  have kept : ∀ {ls : List Text}, (∀ l ∈ ls, ∃ t c, l = t ++ [c] ∧ isBlank c = false) →
      ls.map dropReturn = ls := by
    intro ls ends
    exact (List.map_congr_left fun l mem => dropReturn_of_ends (ends l mem)).trans (List.map_id ls)
  have closed : join "\n" ls ++ "\n" = join "\n" (ls ++ [[]]) := by
    induction ls with
    | nil => exact absurd rfl nonempty
    | cons l ls ih =>
      cases ls with
      | nil => simp [join, List.intercalate, List.intersperse]
      | cons l' ls =>
        rw [List.forall_mem_cons] at unbroken ends
        rw [List.cons_append, List.cons_append, join_cons_cons, join_cons_cons, List.append_assoc,
          ih (List.cons_ne_nil _ _) unbroken.2 ends.2, List.cons_append]
  obtain ⟨init, l, rfl⟩ := (List.eq_nil_or_concat' ls).resolve_left nonempty
  constructor
  · have split : (join "\n" (init ++ [l])).splitOn '\n' = init ++ [l] :=
      List.splitOn_intercalate '\n' unbroken nonempty
    obtain ⟨t, c, rfl, _⟩ := ends l (by simp)
    have last : (init ++ [t ++ [c]]).getLast? = some (t ++ [c]) := List.getLast?_concat
    rw [Text.lines, split, last, List.dropLast_concat, kept fun l mem => ends l (by simp [mem])]
    cases t <;> rfl
  · have split : (join "\n" (init ++ [l] ++ [[]])).splitOn '\n' = init ++ [l] ++ [[]] := by
      apply List.splitOn_intercalate '\n'
      · intro s mem
        rcases List.mem_append.mp mem with mem | mem
        · exact unbroken s mem
        · rw [List.mem_singleton.mp mem]
          exact List.not_mem_nil
      · simp
    rw [closed, Text.lines, split, List.getLast?_concat, List.dropLast_concat, kept ends]

theorem notMem_of_unblank {w : Text} (unblank : ∀ c ∈ w, isBlank c = false) : '\n' ∉ w := by
  intro mem
  have unblank := unblank _ mem
  simp [isBlank] at unblank

theorem ValueType.oneLine (t : ValueType) : '\n' ∉ t.text := by
  cases t with
  | basic word k spelled => exact notMem_of_unblank (isWord_of_lookup spelled).unblank
  | date pattern =>
    have opening : '\n' ∉ patternOpening := by decide
    have closing : '\n' ∉ patternClosing := by decide
    simp [text, dateText, opening, closing, pattern.plain '\n' (by decide)]

theorem AttributeType.oneLine (t : AttributeType) : '\n' ∉ t.text := by
  cases t with
  | value type => exact type.oneLine
  | array fields =>
    have opening : '\n' ∉ arrayOpening := by decide
    have inside : ∀ f : Field, '\n' ∉ f.text := by
      intro f
      simp [Field.text, notMem_of_unblank f.name.isWord.unblank, f.type.oneLine,
        notMem_of_unblank f.delimiter.isWord.unblank]
    simp [text, opening, inside]

namespace Declaration

variable (d : Declaration)

theorem oneLine : '\n' ∉ d.text := by
  have opens := notMem_of_unblank d.isWord_opening.unblank
  have closes := notMem_of_unblank d.isWord_closing.unblank
  cases d with
  | declared a =>
    simp only [opening, closing] at opens closes
    simp [text, opens, closes, a.type.oneLine]
  | setting s =>
    simp only [opening, closing] at opens closes
    simp [text, opens, closes]

theorem exists_last : ∃ t c, d.text = t ++ [c] ∧ isBlank c = false := by
  have closes : Spaced d.closing := .word d.isWord_closing.nonempty d.isWord_closing.unblank
  obtain ⟨t, c, split, unblank⟩ := closes.exists_last
  have ends : ∃ s, d.text = s ++ d.closing := by
    cases d with
    | declared a => exact ⟨a.name.text ++ ' ' :: (a.type.text ++ [' ']), by simp [text, closing]⟩
    | setting s => exact ⟨s.keyword.name ++ [' '], by simp [text, closing]⟩
  obtain ⟨s, written⟩ := ends
  exact ⟨s ++ t, c, by rw [written, split, List.append_assoc], unblank⟩

end Declaration

/-- A written description is compiled to the format that it denotes, its last line closed or not. -/
theorem compile_text (d : Document) :
    (compile d.text).result = .ok d.format ∧ (compile (d.text ++ "\n")).result = .ok d.format := by
  have nonempty : d.declarations ≠ [] := by
    obtain ⟨a, mem, _⟩ := d.coordinates
    exact List.ne_nil_of_mem mem
  obtain ⟨tokens, lexed, lines⟩ := declarationLines_eq nonempty
  have physical : Text.lines d.text = d.declarations.map Declaration.text
      ∧ Text.lines (d.text ++ "\n") = d.declarations.map Declaration.text := by
    apply lines_join (by simpa using nonempty)
    · intro l mem
      obtain ⟨a, _, rfl⟩ := List.mem_map.mp mem
      exact a.oneLine
    · intro l mem
      obtain ⟨a, _, rfl⟩ := List.mem_map.mp mem
      exact a.exists_last
  have accepted : checkDeclarations tokens = .ok () := by
    rw [checkDeclarations_eq_ok, lines]
    intro line mem
    obtain ⟨a, _, rfl⟩ := List.mem_map.mp mem
    exact a.accepted
  have built : DataFormat.ofTokens tokens = d.format := by
    rw [DataFormat.ofTokens_eq, lines, d.readOff_tokens]
  have rules := d.violations_eq_nil lines
  exact ⟨compile_eq_ok.mpr ⟨tokens, physical.1 ▸ lexed, accepted, rules, built⟩,
    compile_eq_ok.mpr ⟨tokens, physical.2 ▸ lexed, accepted, rules, built⟩⟩

/-- A survey with generated IDs, parentheses for delimiters, a pattern with a blank and types in
other cases. -/
def surveyDocument : Document where
  declarations :=
    let decimal : ValueType := .basic "Decimal" .decimal (by decide +kernel) (.inl rfl)
    let minutes : ValueType := .date ⟨"yyyy-MM-dd HH:mm", by decide +kernel,
      List.all_iff_forall_prop.mp (by decide), by decide⟩
    [.setting (.autoId "ship" (by decide +kernel) (by decide +kernel) (by decide +kernel)),
      .setting (.ignoreLines [.line "1" (by decide) (by decide),
        .interval "4" "05" (by decide) (by decide) (by decide)] (by decide)),
      .setting (.ignoreAttribute .lineSpace),
      .declared ⟨⟨"_COORDINATES", by decide, by decide +kernel⟩,
        .array [⟨⟨"_X", by decide, by decide +kernel⟩, decimal, .mark ',' (by decide), by decide⟩,
          ⟨⟨"_LAT", by decide, by decide +kernel⟩, decimal, .mark '(' (by decide), by decide⟩,
          ⟨⟨"_TIME", by decide, by decide +kernel⟩, minutes, .mark ')' (by decide), by decide⟩]
          (List.cons_ne_nil _ _),
        .mark ';' (by decide), by decide⟩,
      .setting (.outputShape "Spatial" .spatial (by decide +kernel))]
  names := by decide +kernel
  identity := by decide +kernel
  coordinates := ⟨_, .tail _ (.tail _ (.tail _ (.head _))), _, rfl, by
    constructor <;> decide⟩

theorem compile_text_survey :
    surveyDocument.text = join "\n"
      ["_AUTO_ID ship", "_IGNORE_LINES [1,4-05]", "_IGNORE_ATTR LS",
        "_COORDINATES ARRAY(_X Decimal , _LAT Decimal ( _TIME DATETIME[\"yyyy-MM-dd HH:mm\"] ) ) ;",
        "_OUTPUT_FORMAT Spatial"]
      ∧ surveyDocument.format.ignoredLines.map (fun i => (i.first, i.last)) = [(1, 1), (4, 5)]
      ∧ (compile surveyDocument.text).result = .ok surveyDocument.format
      ∧ (compile (surveyDocument.text ++ "\n")).result = .ok surveyDocument.format :=
  ⟨by decide +kernel, by decide +kernel, compile_text surveyDocument⟩

end TrajectoryFormat.Written
