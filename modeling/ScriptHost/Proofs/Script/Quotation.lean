import ScriptHost.Proofs.Script.Levels

/-!
# Quotation

A text that can stand between quotes is matched up to the closing quote and decoded
afterwards. The two agree on the pairs of a backslash and a character, so a script that
returns a literal returns the decoded text, or is refused for a pair that stands for
nothing. Every text has literals in both kinds of quotes, and each of them gives it back.
-/

namespace ScriptHost.Script

open ScriptHost.Grammar ScriptHost.Grammar.Expr ScriptHost.Grammar.Definition.Orderly

variable {quote : Char} {word value : List Char}

/-! ## Decoding -/

/-- The characters that can follow a backslash and what they stand for there. -/
def escapeTable : List (Char × Char) :=
  [('n', '\n'), ('t', '\t'), ('r', '\r'), ('0', '\x00'), ('\\', '\\'), ('\x22', '\x22'),
    ('\x27', '\x27')]

/-- A text that stands for another one: backslashes are paired with what follows them, from left to
right, and each pair is one of the table. -/
inductive Decodes : List Char → List Char → Prop
  | nil : Decodes [] []
  | pair {mark character : Char} {rest others : List Char} (listed : (mark, character) ∈ escapeTable)
    (more : Decodes rest others) : Decodes ('\\' :: mark :: rest) (character :: others)
  | plain {character : Char} {rest others : List Char} (notSlash : character ≠ '\\')
    (more : Decodes rest others) : Decodes (character :: rest) (character :: others)

/-- The escapes are those of the table. -/
theorem escaped?_eq_some_iff {mark character : Char} :
    escaped? mark = some character ↔ (mark, character) ∈ escapeTable := by
  constructor
  · intro known
    unfold escaped? at known
    split at known
    all_goals first
      | contradiction
      | obtain rfl := Option.some.inj known
        decide
  · intro listed
    have each : ∀ entry ∈ escapeTable, escaped? entry.1 = some entry.2 := by decide
    exact each _ listed

/-- Decoding finds what a text stands for. -/
theorem unescape?_eq_some_iff : unescape? word = some value ↔ Decodes word value := by
  constructor
  · intro known
    fun_induction unescape? word generalizing value with
    | case1 =>
      obtain rfl := Option.some.inj known
      exact .nil
    | case2 mark rest ih =>
      obtain ⟨character, listed, further⟩ := Option.bind_eq_some_iff.mp known
      obtain ⟨others, decoded, same⟩ := Option.bind_eq_some_iff.mp further
      obtain rfl := Option.some.inj same
      exact .pair (escaped?_eq_some_iff.mp listed) (ih decoded)
    | case3 => contradiction
    | case4 character rest paired last ih =>
      obtain ⟨others, decoded, rfl⟩ := Option.map_eq_some_iff.mp known
      refine .plain ?_ (ih decoded)
      rintro rfl
      cases rest with
      | nil => exact last rfl rfl
      | cons mark rest => exact paired mark rest rfl rfl
  · intro decodes
    induction decodes with
    | nil => rfl
    | pair listed _ ih =>
      rw [unescape?, escaped?_eq_some_iff.mpr listed, ih]
      rfl
    | plain notSlash _ ih =>
      rw [unescape?, ih]
      · rfl
      · exact fun _ _ same => absurd same notSlash
      · exact fun same => absurd same notSlash

/-! ## What can stand between quotes -/

/-- The grammar allows between quotes what is made of pairs and plain characters. -/
theorem spells_stringContent_iff : (stringContent quote).Spells word ↔ Content quote word := by
  constructor
  · rintro ⟨turns, rfl, each⟩
    induction turns with
    | nil => exact .nil
    | cons turn turns ih =>
      have ⟨this, others⟩ := List.forall_mem_cons.mp each
      rw [List.flatten_cons]
      rcases this with ⟨_, _, rfl, rfl, mark, rfl, -⟩ | ⟨character, rfl, accepted⟩
      · exact .pair mark (ih others)
      · simp only [Bool.and_eq_true, bne_iff_ne] at accepted
        exact .plain accepted.1.1 accepted.1.2 accepted.2 (ih others)
  · intro content
    induction content with
    | nil => exact Spells.none _
    | pair mark _ ih =>
      obtain ⟨turns, rfl, each⟩ := ih
      refine ⟨['\\', mark] :: turns, rfl, List.forall_mem_cons.mpr ⟨?_, each⟩⟩
      exact .inl ⟨['\\'], [mark], rfl, rfl, mark, rfl, rfl⟩
    | @plain character _ notQuote notSlash notBreak _ ih =>
      obtain ⟨turns, rfl, each⟩ := ih
      refine ⟨[character] :: turns, rfl, List.forall_mem_cons.mpr ⟨?_, each⟩⟩
      exact .inr ⟨character, rfl, by simp [notQuote, notSlash, notBreak]⟩

/-- A text in a literal: backslashes, line breaks and the quote are escaped, and any other character
of the table may be. -/
inductive Spelling (quote : Char) : List Char → List Char → Prop
  | nil : Spelling quote [] []
  | kept {character : Char} {others rest : List Char} (notQuote : character ≠ quote)
    (notSlash : character ≠ '\\') (notBreak : character ≠ '\n') (more : Spelling quote others rest) :
    Spelling quote (character :: others) (character :: rest)
  | escaped {mark character : Char} {others rest : List Char}
    (listed : (mark, character) ∈ escapeTable) (more : Spelling quote others rest) :
    Spelling quote (character :: others) ('\\' :: mark :: rest)

/-- A spelling can stand between quotes. -/
theorem Spelling.content (spelling : Spelling quote value word) : Content quote word := by
  induction spelling with
  | nil => exact .nil
  | kept notQuote notSlash notBreak _ ih => exact .plain notQuote notSlash notBreak ih
  | escaped _ _ ih => exact .pair _ ih

/-- A spelling stands for what it spells. -/
theorem Spelling.decodes (spelling : Spelling quote value word) : Decodes word value := by
  induction spelling with
  | nil => exact .nil
  | kept _ notSlash _ _ ih => exact .plain notSlash ih
  | escaped listed _ ih => exact .pair listed ih

/-- Every text has a spelling. -/
theorem spelling_escape (quoting : IsQuote quote) (value : List Char) :
    Spelling quote value (value.flatMap (escape quote)) := by
  induction value with
  | nil => exact .nil
  | cons character rest ih =>
    rw [List.flatMap_cons]
    rcases escape_cases quoting character with
      ⟨mark, spelled, meant⟩ | ⟨spelled, notQuote, notSlash, notBreak⟩
    · rw [spelled]
      exact .escaped (escaped?_eq_some_iff.mp meant) ih
    · rw [spelled]
      exact .kept notQuote notSlash notBreak ih

/-! ## Literals at the end of a source -/

section Spans

variable {size : Nat} {start finish : Cursor} {given : Reading Expression}

/-- A rule matches up to a place and leaves a tree that is read as given. -/
def Spans (size : Nat) (start finish : Cursor) (rule : Rule) (given : Reading Expression) : Prop :=
  ∃ tree, chunkOrder.Parses size .spaced (.rule rule) start [tree] finish ∧
    readExpression tree = given

/-- No blanks stand at the end of a source. -/
theorem skip_at_end (ended : finish.rest = []) : chunkGrammar.skip finish = finish := by
  obtain ⟨offset, rest⟩ := finish
  subst ended
  rfl

/-- What needs a character is refused at the end of a source. -/
theorem refuses_at_end (ended : finish.rest = []) {expr : Expr Rule}
    (turns : expr.turnsConsume chunkOrder.solid = true)
    (rejected : expr.rejects (chunkGrammar.rejects none 16) none = true) :
    chunkOrder.Refuses size .spaced expr finish :=
  refuses_of_next (skip_at_end ended) 16 turns (ended ▸ List.head?_nil) rejected

/-- One item up to the end of a source is a list of items. -/
theorem parses_separated (within : start.Within size) (ended : finish.rest = []) {item : Expr Rule}
    {separator : Expr Rule} {tree : ChunkTree}
    (parses : chunkOrder.Parses size .spaced item start [tree] finish)
    (consuming : (Expr.seq separator item).consumes chunkOrder.solid = true)
    (turns : separator.turnsConsume chunkOrder.solid = true)
    (rejected : separator.rejects (chunkGrammar.rejects none 16) none = true) :
    chunkOrder.Parses size .spaced (separated item separator) start [tree] finish := by
  have close : chunkGrammar.gap .spaced finish = finish := skip_at_end ended
  have stopped : chunkOrder.Refuses size .spaced (.seq separator item) finish :=
    Refuses.seq_first (refuses_at_end ended turns rejected)
  have none : chunkOrder.Parses size .spaced (.many (.seq separator item)) finish [] finish :=
    Parses.many consuming (parses.leads.within within) close (.none finish) (close.symm ▸ stopped)
  exact Parses.seq parses (close.symm ▸ none)

/-- An operand up to the end of a source is a chain of operators. -/
theorem Spans.chain (operator : Rule) (chained : isChainOperator operator = true)
    (within : start.Within size) (ended : finish.rest = [])
    (spans : Spans size start finish (operandRule operator) given) :
    Spans size start finish (chainRule operator) given := by
  obtain ⟨tree, parses, read⟩ := spans
  have body : chunkOrder.Parses size ((chunkGrammar.style (chainRule operator)).mode .spaced)
      (chunkGrammar.body (chainRule operator)) start [tree] finish := by
    cases operator <;> first
      | contradiction
      | exact parses_separated within ended parses rfl rfl (by decide)
  refine ⟨_, Parses.rule (by decide) body, ?_⟩
  have known (width : Nat) : readExpression (.node (chainRule operator) start width [tree]) =
      readChain [tree] := by
    cases operator <;> first | contradiction | rfl
  rw [treeBetween, known, readChain, read]
  cases given <;> rfl

/-- An operand up to the end of a source is a concatenation. -/
theorem Spans.concat (ended : finish.rest = []) (spans : Spans size start finish .addExpr given) :
    Spans size start finish .concatExpr given := by
  obtain ⟨tree, parses, read⟩ := spans
  have close : chunkGrammar.gap .spaced finish = finish := skip_at_end ended
  have stopped : chunkOrder.Refuses size .spaced (.seq (.rule .concatOp) (.rule .concatExpr)) finish :=
    Refuses.seq_first (refuses_at_end ended rfl (by decide))
  have body : chunkOrder.Parses size .spaced Rule.concatExpr.body start ([tree] ++ []) finish :=
    Parses.seq parses (close.symm ▸ Parses.optional_none stopped)
  refine ⟨_, Parses.rule (by decide) body, ?_⟩
  rw [treeBetween, readExpression]
  exact read

/-- No blanks stand before a literal. -/
theorem skip_literal (quoting : IsQuote quote) {offset : Nat} {rest : List Char} :
    chunkGrammar.skip ⟨offset, quote :: rest⟩ = ⟨offset, quote :: rest⟩ := by
  rcases quoting with rfl | rfl <;> rfl

/-- A string literal up to the end of a source is an operand. -/
theorem spans_unary (quoting : IsQuote quote) (content : Content quote word) {offset : Nat}
    (within : Cursor.Within size ⟨offset, quote :: (word ++ [quote])⟩) :
    Spans size ⟨offset, quote :: (word ++ [quote])⟩ ⟨offset + 1 + word.length + 1, []⟩ .unaryExpr
      (readLiteral offset word) := by
  obtain ⟨tree, root, parses, read⟩ := parses_string quoting content within
  have other {expr : Expr Rule} (turns : expr.turnsConsume chunkOrder.solid = true)
      (rejected : ∀ mark ∈ ['\x22', '\x27'],
        expr.rejects (chunkGrammar.rejects (some mark) 16) (some mark) = true) :
      chunkOrder.Refuses size .spaced expr ⟨offset, quote :: (word ++ [quote])⟩ := by
    refine refuses_of_next (skip_literal quoting) 16 turns rfl (rejected quote ?_)
    rcases quoting with rfl | rfl <;> decide
  have operand : chunkOrder.Parses size .spaced atom ⟨offset, quote :: (word ++ [quote])⟩ [tree]
      ⟨offset + 1 + word.length + 1, []⟩ :=
    Parses.choice_second (other rfl (by decide)) <| Parses.choice_second (other rfl (by decide)) <|
      Parses.choice_second (other rfl (by decide)) <|
        Parses.choice_second (other rfl (by decide)) <| Parses.choice_first parses
  have body : chunkOrder.Parses size .spaced Rule.unaryExpr.body _ [tree] _ :=
    Parses.choice_second (Refuses.seq_first (other rfl (by decide))) operand
  refine ⟨_, Parses.rule (by decide) body, ?_⟩
  rw [treeBetween, readExpression, readUnary, root, if_neg (by decide), read]

/-- An operand up to the end of a source is an expression. -/
theorem Spans.expr (within : start.Within size) (ended : finish.rest = [])
    (spans : Spans size start finish .unaryExpr given) : Spans size start finish .expr given := by
  have products : Spans size start finish .mulExpr given := .chain .mulOp rfl within ended spans
  have sums : Spans size start finish .addExpr given := .chain .addOp rfl within ended products
  have comparisons : Spans size start finish .cmpExpr given :=
    .chain .cmpOp rfl within ended (.concat ended sums)
  have conjunctions : Spans size start finish .andExpr given :=
    .chain .andOp rfl within ended comparisons
  obtain ⟨tree, parses, read⟩ : Spans size start finish .orExpr given :=
    .chain .orOp rfl within ended conjunctions
  refine ⟨_, Parses.rule (by decide) parses, ?_⟩
  rw [treeBetween, readExpression, readFirst]
  exact read

end Spans

/-! ## Returned literals -/

/-- The source that returns what a text is. -/
abbrev returning (text : List Char) : List Char :=
  'r' :: 'e' :: 't' :: 'u' :: 'r' :: 'n' :: ' ' :: text

variable {size : Nat} {text : List Char}

/-- No blanks stand before the word of a `return`. -/
theorem skip_return : chunkGrammar.skip ⟨0, returning text⟩ = ⟨0, returning text⟩ :=
  skipBlanks_of_solid 0 (by decide) fun hyphen => absurd hyphen (by decide)

/-- No statement starts with the word of a `return`. -/
theorem refuses_statement (within : Cursor.Within size ⟨0, returning text⟩) :
    chunkOrder.Refuses size .spaced statement ⟨0, returning text⟩ := by
  have other {expr : Expr Rule} (turns : expr.turnsConsume chunkOrder.solid = true)
      (rejected : expr.rejects (chunkGrammar.rejects (some 'r') 16) (some 'r') = true) :
      chunkOrder.Refuses size .spaced expr ⟨0, returning text⟩ :=
    refuses_of_next skip_return 16 turns rfl rejected
  have word : leadingWord (returning text) = "return".toList := rfl
  have unnamed : chunkOrder.Refuses size .spaced (.rule .name) ⟨0, returning text⟩ := by
    show matching size .name .spaced _ = _
    rw [matching_name size (by decide) within, word]
    rfl
  have base : chunkOrder.Refuses size .spaced (.rule .suffixedExpr) ⟨0, returning text⟩ :=
    Refuses.rule (Refuses.seq_first (Refuses.choice unnamed (other rfl (by decide))))
  have targets : chunkOrder.Refuses size .spaced (.rule .targetList) ⟨0, returning text⟩ :=
    Refuses.rule (Refuses.seq_first base)
  refine Refuses.choice (other rfl (by decide)) (Refuses.choice (other rfl (by decide)) ?_)
  exact Refuses.choice (Refuses.rule (Refuses.seq_first targets)) (Refuses.rule base)

/-- The word of a `return` is matched. -/
theorem parses_returnKw :
    chunkOrder.Parses size .spaced (.rule .returnKw) ⟨0, returning text⟩
    [treeBetween .returnKw ⟨0, returning text⟩ ⟨6, ' ' :: text⟩ []] ⟨6, ' ' :: text⟩ := by
  have ended : chunkOrder.Refuses size .hidden (.one isIdentifierPart) ⟨6, ' ' :: text⟩ := rfl
  have starts : "return".toList <+: returning text := ⟨' ' :: text, rfl⟩
  have body : chunkOrder.Parses size .hidden (word "return") ⟨0, returning text⟩ ([] ++ [])
      ⟨6, ' ' :: text⟩ := Parses.seq (Parses.text starts) (Parses.absent ended)
  exact Parses.rule (by decide) body

/-- A word of a `return` and an expression up to the end of a source return the expression. -/
theorem parses_returnStatement {finish : Nat} {given : Reading Expression}
    (within : Cursor.Within size ⟨7, text⟩) (close : chunkGrammar.skip ⟨7, text⟩ = ⟨7, text⟩)
    (spans : Spans size ⟨7, text⟩ ⟨finish, []⟩ .expr given) :
    ∃ tree, chunkOrder.Parses size .spaced (.rule .returnStatement) ⟨0, returning text⟩
      [tree] ⟨finish, []⟩ ∧ readStatements [tree] = do return ⟨[], some [← given]⟩ := by
  obtain ⟨tree, parses, read⟩ := spans
  have items : chunkOrder.Parses size .spaced Rule.exprList.body ⟨7, text⟩ [tree] ⟨finish, []⟩ :=
    parses_separated within rfl parses rfl rfl (by decide)
  have unended : chunkOrder.Refuses size .spaced (.lit ";") ⟨finish, []⟩ :=
    refuses_at_end rfl rfl (by decide)
  have values : chunkOrder.Parses size .spaced
      (.seq (.optional (.rule .exprList)) (.optional (.lit ";"))) ⟨7, text⟩
      ([treeBetween .exprList ⟨7, text⟩ ⟨finish, []⟩ [tree]] ++ []) ⟨finish, []⟩ :=
    Parses.seq (Parses.optional (Parses.rule (by decide) items)) (Parses.optional_none unended)
  have gap : chunkGrammar.gap .spaced ⟨6, ' ' :: text⟩ = ⟨7, text⟩ := close
  have body : chunkOrder.Parses size .spaced Rule.returnStatement.body
      ⟨0, returning text⟩ _ ⟨finish, []⟩ := Parses.seq parses_returnKw (gap.symm ▸ values)
  refine ⟨_, Parses.rule (by decide) body, ?_⟩
  show (do return ⟨[], some (← readExpressions [tree])⟩ : Reading Block) = _
  rw [readExpressions, read]
  cases given <;> rfl

/-- A `return` up to the end of a source is a chunk. -/
theorem parses_chunk {finish : Nat} {tree : ChunkTree}
    (within : Cursor.Within size ⟨0, returning text⟩)
    (parses : chunkOrder.Parses size .spaced (.rule .returnStatement) ⟨0, returning text⟩
      [tree] ⟨finish, []⟩) :
    ∃ chunk, chunkOrder.Parses size .spaced (.rule .chunk) ⟨0, returning text⟩ [chunk]
      ⟨finish, []⟩ ∧ readChunk [chunk] = readStatements [tree] := by
  have gap : chunkGrammar.gap .spaced ⟨0, returning text⟩ = ⟨0, returning text⟩ := skip_return
  have statements : chunkOrder.Parses size .spaced (.many statement) ⟨0, returning text⟩ []
      ⟨0, returning text⟩ :=
    Parses.many rfl within gap (.none _) (gap.symm ▸ refuses_statement within)
  have block : chunkOrder.Parses size .spaced Rule.block.body ⟨0, returning text⟩ [tree]
      ⟨finish, []⟩ := Parses.seq statements (Parses.optional parses)
  have ended : chunkOrder.Parses size .spaced (.rule .endOfInput) ⟨finish, []⟩ _ ⟨finish, []⟩ :=
    Parses.rule (by decide) (if_pos rfl)
  have empty : chunkOrder.Parses size .spaced (.lit "") ⟨0, returning text⟩ []
      ⟨0, returning text⟩ := Parses.text List.nil_prefix
  have body : chunkOrder.Parses size .spaced Rule.chunk.body ⟨0, returning text⟩ _
      ⟨finish, []⟩ := Parses.seq empty (Parses.seq (Parses.rule (by decide) block) ended)
  exact ⟨_, Parses.rule (by decide) body, rfl⟩

/-- A source that returns what is read up to its end is a script of that. -/
theorem readScript_of_spans {finish : Nat} {given : Reading Expression}
    (close : chunkGrammar.skip ⟨7, text⟩ = ⟨7, text⟩)
    (spans : Spans (returning text).length ⟨7, text⟩ ⟨finish, []⟩ .expr given) :
    readScript (returning text) = do return ⟨[], some [← given]⟩ := by
  have within : Cursor.Within (returning text).length ⟨0, returning text⟩ := Nat.zero_add _
  have passed : Cursor.Leads ⟨0, returning text⟩ ⟨7, text⟩ :=
    Cursor.Leads.pass 0 "return ".toList text
  obtain ⟨returned, returns, read⟩ := parses_returnStatement (passed.within within) close spans
  obtain ⟨chunk, parses, same⟩ := parses_chunk within returns
  rw [readScript_of_parses parses, same, read]

/-- The source that returns a literal. -/
def returningLiteral (quote : Char) (word : List Char) : List Char :=
  returning (quote :: (word ++ [quote]))

/-- A source that returns a literal is read as what the literal is. -/
theorem readScript_returning (quoting : IsQuote quote) (content : Content quote word) :
    readScript (returningLiteral quote word) = do return ⟨[], some [← readLiteral 7 word]⟩ := by
  have within : Cursor.Within (returningLiteral quote word).length ⟨7, quote :: (word ++ [quote])⟩ :=
    (Cursor.Leads.pass 0 "return ".toList _).within (Nat.zero_add _)
  exact readScript_of_spans (skip_literal quoting)
    (Spans.expr within rfl (spans_unary quoting content within))

/-- A literal of a text that can stand between quotes is a script exactly if each of its backslashes
has a pair of the table, and then returns what the text stands for. Otherwise it is refused at the
literal. So every text is returned by each of its literals, and it has one in quotes of each kind. -/
theorem readScript_literal_iff (quoting : IsQuote quote)
    (accepted : (stringContent quote).Spells word) :
    (∀ block, readScript (returningLiteral quote word) = .ok block ↔
      ∃ value, Decodes word value ∧ block = ⟨[], some [.text (String.ofList value)]⟩) ∧
    ((¬∃ value, Decodes word value) →
      readScript (returningLiteral quote word) = .error (.defect .escape 7) ∧
        Defect.escape.message = "invalid escape sequence") ∧
    ∀ text : String, (∃ spelled, Spelling quote text.toList spelled) ∧
      ∀ spelled, Spelling quote text.toList spelled →
        readScript (returningLiteral quote spelled) = .ok ⟨[], some [.text text]⟩ := by
  have decoded {word value : List Char} (content : Content quote word)
      (decodes : Decodes word value) :
      readScript (returningLiteral quote word) = .ok ⟨[], some [.text (String.ofList value)]⟩ := by
    rw [readScript_returning quoting content, readLiteral, unescape?_eq_some_iff.mpr decodes]
    rfl
  have refused (meaningless : ¬∃ value, Decodes word value) :
      readScript (returningLiteral quote word) = .error (.defect .escape 7) := by
    have unknown : unescape? word = none := Option.eq_none_iff_forall_ne_some.mpr
      fun value known => meaningless ⟨value, unescape?_eq_some_iff.mp known⟩
    rw [readScript_returning quoting (spells_stringContent_iff.mp accepted), readLiteral, unknown]
    rfl
  refine ⟨fun block => ⟨fun read => ?_, ?_⟩, fun meaningless => ⟨refused meaningless, rfl⟩,
    fun text => ⟨?_, ?_⟩⟩
  · by_cases known : ∃ value, Decodes word value
    · obtain ⟨value, decodes⟩ := known
      have same := decoded (spells_stringContent_iff.mp accepted) decodes
      exact ⟨value, decodes, Except.ok.inj (read.symm.trans same)⟩
    · rw [refused known] at read
      contradiction
  · rintro ⟨value, decodes, rfl⟩
    exact decoded (spells_stringContent_iff.mp accepted) decodes
  · exact ⟨_, spelling_escape quoting text.toList⟩
  · intro spelled spelling
    have same := decoded spelling.content spelling.decodes
    rwa [String.ofList_toList] at same

/-- A backslash that is escaped escapes nothing, and one before another letter is refused. -/
theorem readScript_literal_iff_slashes :
    readScript (returningLiteral '\x22' ['\\', '\\', 'n']) = .ok ⟨[], some [.text "\\n"]⟩ ∧
      readScript (returningLiteral '\x22' ['\\', 'q']) = .error (.defect .escape 7) := by
  have quoting : IsQuote '\x22' := .inl rfl
  have paired : (stringContent '\x22').Spells ['\\', '\\', 'n'] :=
    spells_stringContent_iff.mpr (.pair _ (.plain (by decide) (by decide) (by decide) .nil))
  have unpaired : (stringContent '\x22').Spells ['\\', 'q'] :=
    spells_stringContent_iff.mpr (.pair _ .nil)
  have decodes : Decodes ['\\', '\\', 'n'] ['\\', 'n'] :=
    .pair (by decide) (.plain (by decide) .nil)
  have meaningless : ¬∃ value, Decodes ['\\', 'q'] value := by
    rintro ⟨value, decodes⟩
    have unknown : unescape? ['\\', 'q'] = none := rfl
    rw [unescape?_eq_some_iff.mpr decodes] at unknown
    contradiction
  refine ⟨((readScript_literal_iff quoting paired).1 _).mpr ⟨_, decodes, rfl⟩, ?_⟩
  exact ((readScript_literal_iff quoting unpaired).2.1 meaningless).1

end ScriptHost.Script
