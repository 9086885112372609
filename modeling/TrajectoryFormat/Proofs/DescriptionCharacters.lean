import TrajectoryFormat.Proofs.CompiledModel
import TrajectoryFormat.Proofs.WholePieces

/-!
# Characters of a description

Every character of a format is one of the description, or a character that is printed. Control
characters are not added on the way from lines to tokens and from tokens to attributes and settings,
apart from the bonds: a blank of a date pattern is bonded in its line, and a delimiter word may
stand for the line bond.
-/

namespace TrajectoryFormat

variable {c : Char} {description : Text}

/-! ## Parts of texts -/

namespace Text

variable {s w : Text}

theorem subset_trim (s : Text) : trim s ⊆ s := by
  have finish : ∀ t : Text, trimEnd t ⊆ t := by
    intro t d mem
    rw [trimEnd, List.mem_reverse] at mem
    exact List.mem_reverse.mp ((List.dropWhile_sublist isBlank).subset mem)
  exact List.Subset.trans (finish _) (List.dropWhile_sublist isBlank).subset

theorem subset_of_mem_words (mem : w ∈ words s) : w ⊆ s := by
  intro d here
  have solid : d ∈ s.filter (!isBlank ·) := flatten_words s ▸ List.mem_flatten_of_mem mem here
  exact List.mem_of_mem_filter solid

theorem notMem_squeeze (space : c ≠ ' ') (absent : c ∉ s) : c ∉ squeeze s :=
  notMem_join (by simpa using space) fun _ mem here => absent (subset_of_mem_words mem here)

theorem subset_of_mem_lines {line : Text} (mem : line ∈ lines s) : line ⊆ s := by
  have piece : ∃ p ∈ s.splitOn '\n', line ⊆ p := by
    have closed : ∀ p ∈ (s.splitOn '\n').dropLast.map dropReturn, ∃ q ∈ s.splitOn '\n', p ⊆ q := by
      intro p mem
      obtain ⟨q, here, rfl⟩ := List.mem_map.mp mem
      refine ⟨q, List.dropLast_subset _ here, ?_⟩
      rw [dropReturn]
      split
      · exact List.dropLast_subset q
      · exact List.Subset.refl q
    simp only [lines] at mem
    split at mem
    · exact closed line mem
    · exact closed line mem
    · next rest _ last =>
      rcases List.mem_append.mp mem with mem | mem
      · exact closed line mem
      · rw [List.mem_singleton.mp mem]
        exact ⟨rest, List.mem_of_getLast? last, List.Subset.refl rest⟩
  obtain ⟨p, here, within⟩ := piece
  exact List.Subset.trans within (subset_of_mem_splitOn here)

end Text

/-! ## From lines to tokens -/

namespace Description

open Text

variable {s line piece declaration : Text} {lines : List Text} {pending : Option Text}
  {tokens : List Token} {token : Token}

/-- Bonding adds date bonds and nothing else. -/
theorem notMem_bondPatterns (absent : c ∉ s) (other : c ≠ dateBond) : c ∉ bondPatterns s := by
  have bonds := bonds_bondPatterns s
  generalize bondPatterns s = t at bonds
  induction bonds with
  | nil => exact List.not_mem_nil
  | cons head _ ih =>
    rw [List.mem_cons, not_or] at absent ⊢
    refine ⟨?_, ih absent.2⟩
    rcases head with same | ⟨_, bond⟩
    · rw [same]
      exact absent.1
    · rw [bond]
      exact other

/-- Lines are gathered with spaces between them. -/
theorem notMem_gather (space : c ≠ ' ') (begun : ∀ s ∈ pending, c ∉ s)
    (bonded : ∀ line ∈ lines, c ∉ bondPatterns (trim line)) :
    ∀ l ∈ gather pending lines, c ∉ l := by
  have grown : ∀ {pending line}, (∀ s ∈ pending, c ∉ s) → c ∉ bondPatterns (trim line) →
      c ∉ resumed pending line := by
    intro pending line begun absent
    cases pending with
    | none => exact absent
    | some s =>
      rw [resumed, List.mem_append, List.mem_cons, not_or, not_or]
      exact ⟨begun s rfl, space, absent⟩
  induction pending, lines using gather_induction with
  | done => exact fun l mem => absurd mem List.not_mem_nil
  | flush s =>
    rw [gather, List.forall_mem_singleton]
    exact notMem_squeeze space (begun s rfl)
  | skip pending line rest skipped ih =>
    rw [List.forall_mem_cons] at bonded
    rw [gather_skip skipped]
    exact ih begun bonded.2
  | opens pending line rest kept opened ih =>
    rw [List.forall_mem_cons] at bonded
    rw [gather_open kept opened]
    apply ih _ bonded.2
    rintro _ ⟨⟩
    exact grown begun bonded.1
  | close pending line rest kept closed ih =>
    rw [List.forall_mem_cons] at bonded
    rw [gather_close kept closed, List.forall_mem_cons]
    exact ⟨notMem_squeeze space (grown begun bonded.1),
      ih (fun s none => absurd none (by simp)) bonded.2⟩

theorem notMem_logicalLines (space : c ≠ ' ')
    (bonded : ∀ line ∈ lines, c ∉ bondPatterns (trim line)) :
    ∀ l ∈ logicalLines lines, c ∉ l :=
  notMem_gather space (fun s none => absurd none (by simp)) bonded

theorem subset_of_mem_pieces (mem : piece ∈ pieces line) : piece ⊆ line := by
  induction line using pieces.induct with
  | case1 line blank =>
    rw [pieces_of_blank blank] at mem
    cases mem
  | case2 line d rest start ih =>
    have kept : (firstPiece d rest).1 ++ (firstPiece d rest).2 ⊆ line := by
      rw [firstPiece_append, ← start]
      exact (List.dropWhile_sublist isBlank).subset
    obtain ⟨first, others⟩ := List.append_subset.mp kept
    rw [pieces_of_start start, List.mem_cons] at mem
    rcases mem with rfl | later
    · exact first
    · exact List.Subset.trans (ih later) others

theorem subset_of_mem_pieceTokens (mem : token ∈ pieceTokens line) : token.value ⊆ line := by
  have among : token.value ∈ (pieceTokens line).map Token.value := List.mem_map_of_mem mem
  rw [values_pieceTokens] at among
  exact subset_of_mem_pieces among

theorem subset_of_mem_arrayTokens (mem : token ∈ arrayTokens declaration) :
    token.value ⊆ declaration := by
  obtain ⟨i, here, rfl⟩ := List.mem_mapIdx.mp mem
  have inner : ∀ s : Text, trim (dropClosing s) ⊆ s := by
    intro s
    refine List.Subset.trans (subset_trim _) ?_
    rw [dropClosing]
    split
    · exact List.dropLast_subset s
    · exact List.Subset.refl s
  have body : arrayBody declaration ⊆ declaration := by
    refine List.Subset.trans (inner _) ?_
    split
    · exact List.Subset.trans (List.drop_subset _ _) (subset_trim _)
    · exact subset_trim _
  exact List.Subset.trans (subset_of_mem_pieces (List.getElem_mem here)) body

/-- The tokens of a description lack the characters that its bonded lines lack. -/
theorem notMem_declarationLines (space : c ≠ ' ')
    (bonded : ∀ line ∈ lines, c ∉ bondPatterns (trim line)) (lexed : tokens? lines = some tokens) :
    ∀ line ∈ declarationLines tokens, ∀ token ∈ line, c ∉ token.value := by
  intro line mem token here inside
  rw [declarationLines_of_tokens? lexed] at mem
  obtain ⟨logical, among, rfl⟩ := List.mem_map.mp (List.mem_filter.mp mem).1
  exact notMem_logicalLines space bonded logical among (subset_of_mem_pieceTokens here inside)

end Description

/-! ## From tokens to formats -/

open Description

/-- A character that stands nowhere in an attribute, unless the delimiter is that of the delimiter
word for line ends. -/
structure Attribute.Lacks (c : Char) (a : Attribute) : Prop where
  name : c ∉ a.name
  declaredType : c ∉ a.declaredType
  delimiter : a.delimiter ≠ [lineBond] → c ∉ a.delimiter

/-- A character that stands nowhere in the attributes of a format, inner ones included, and not in
the prefix of its IDs. -/
structure DataFormat.Lacks (c : Char) (f : DataFormat) : Prop where
  attributes : ∀ a ∈ f.attributes, a.Lacks c
  items : ∀ array ∈ f.coordinates, ∀ a ∈ array.attributes, a.Lacks c
  idPrefix : ∀ s ∈ f.autoIdPrefix, c ∉ s

/-- A control character is in no word that is resolved to a delimiter. -/
theorem lacks_declared {name type delimiter : Text} (space : c ≠ ' ') (absent : c ∉ name)
    (absent' : c ∉ type) (absent'' : c ∉ delimiter) :
    (Attribute.declared name type delimiter).Lacks c := by
  refine ⟨absent, absent', fun other => ?_⟩
  simp only [Attribute.declared, resolveDelimiter] at other ⊢
  split
  · simpa using space
  · next known => simp [known] at other
  · exact List.not_mem_nil
  · exact absent''

theorem lacks_ofDeclaration {declaration : Text} (space : c ≠ ' ') (absent : c ∉ declaration) :
    ∀ a ∈ (ArrayFormat.ofDeclaration declaration).attributes, a.Lacks c := by
  have free : ∀ token ∈ arrayTokens declaration, c ∉ token.value :=
    fun token mem inside => absent (subset_of_mem_arrayTokens mem inside)
  have triples : ∀ tokens : List Token, (∀ token ∈ tokens, c ∉ token.value) →
      ∀ a ∈ ArrayFormat.attributesOf tokens, a.Lacks c := by
    intro tokens free
    fun_induction ArrayFormat.attributesOf tokens with
    | case1 name type delimiter rest ih =>
      simp only [List.forall_mem_cons] at free
      obtain ⟨inName, inType, inDelimiter, others⟩ := free
      rw [List.forall_mem_cons]
      exact ⟨lacks_declared space inName inType inDelimiter, ih others⟩
    | case2 => exact fun a mem => absurd mem List.not_mem_nil
  exact triples _ free

/-- A control character that is in no bonded line of a description is nowhere in its format. -/
theorem lacks_of_compile {f : DataFormat} (compiled : (compile description).result = .ok f)
    (control : c.toNat < 32)
    (bonded : ∀ line ∈ Text.lines description, c ∉ bondPatterns (Text.trim line)) :
    f.Lacks c := by
  have printed : ∀ d : Char, 32 ≤ d.toNat → c ≠ d := by
    rintro d visible rfl
    omega
  have space : c ≠ ' ' := printed ' ' (by decide)
  obtain ⟨tokens, lexed, h⟩ := compiled_of_compile compiled
  have free := notMem_declarationLines space bonded lexed
  have set : ∀ {k : Keyword} {line value}, line ∈ declarationLines tokens →
      setting? k line = some value →
      c ∉ value := by
    intro k line value mem given
    obtain ⟨name, token, rfl, rfl, _⟩ := (h.accepted line mem).legal given
    exact free _ mem token (by simp)
  have written : ∀ {line a}, line ∈ declarationLines tokens → declared? line = some a →
      a.Lacks c := by
    intro line a mem written
    unfold declared? at written
    split at written
    · next name type delimiter =>
      split at written
      · cases written
      · cases written
        exact lacks_declared space (free _ mem name (by simp)) (free _ mem type (by simp))
          (free _ mem delimiter (by simp))
    · cases written
  refine ⟨fun a mem => ?_, fun array declared a mem => ?_, fun s generated => ?_⟩
  · rw [h.format, DataFormat.readOff] at mem
    obtain ⟨line, here, added⟩ := List.mem_filterMap.mp mem
    rcases Option.or_eq_some_iff.mp added with declared | ⟨_, left_out⟩
    · exact written here declared
    · obtain ⟨delimiter, given, rfl⟩ := Option.map_eq_some_iff.mp left_out
      have visible : (Attribute.ignoredName.all fun d => 32 ≤ d.toNat) = true := by decide
      have ignoredName : c ∉ Attribute.ignoredName := fun inside =>
        printed c (of_decide_eq_true (List.all_eq_true.mp visible c inside)) rfl
      exact lacks_declared space ignoredName ignoredName (set here given)
  · obtain ⟨line, here, b, declares, _, first, _⟩ := h.exists_coordinates
    rw [first] at declared
    cases declared
    exact lacks_ofDeclaration space (written here declares).declaredType a mem
  · rw [h.format] at generated
    obtain ⟨line, here, given⟩ := exists_of_latest generated
    exact set here given

end TrajectoryFormat
