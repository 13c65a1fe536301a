import ScriptHost.Proofs.Script.Operands

/-!
# Reading written scripts

A script that is written token by token, with blanks and comments between the tokens, is read
back as it was.
-/

namespace ScriptHost.Script

open ScriptHost.Grammar

variable {size : Nat} {token : Token} {tokens rest : List Token} {style : Style}

/-! ## Writable statements -/

/-- A statement that can be written with tokens. -/
def Statement.Writable (statement : Statement) : Prop :=
  statement.WellFormed ∧ statement.NumberFree

/-- Lists of writable expressions are recovered. -/
theorem recovered_each (size : Nat) (style : Style) {expressions : List Expression}
    (formed : Expression.AllWellFormed expressions)
    (free : Expression.AllNumberFree expressions) :
    ∀ expression ∈ expressions, Recovered size style expression :=
  fun expression member =>
    ((Expression.allWritable_iff expressions).mp ⟨formed, free⟩ expression member).recovered

/-! ## Statements -/

/-- A tree that is read as a statement. -/
def StatementAs (statement : Statement) (tree : ChunkTree) : Prop :=
  readStatement tree = .ok statement

/-- A statement that starts with a name or parentheses is no declaration. -/
theorem takes_undeclared {property : List ChunkTree → Prop} (opens : token.opensBase = true)
    (takes : Takes size (.choice (.rule .assignment) (.rule .callStatement)) (token :: tokens) rest
      property) :
    Takes size statement (token :: tokens) rest property := by
  suffices declined : Declines size (.lit ";") (token :: (tokens ++ rest)) ∧
      Declines size (.rule .localStatement) (token :: (tokens ++ rest)) from
    Takes.choice_second declined.1 (Takes.choice_second declined.2 takes)
  cases token with
  | fixed text =>
    obtain rfl : text = "(" := by simpa [Token.opensBase] using opens
    exact ⟨declines_of_shut 0 rfl (by decide), declines_of_shut 2 rfl (by decide)⟩
  | name text =>
    have shut : Shut 0 (.lit ";") nameOpenings := by decide
    exact ⟨declines_of_shut 0 rfl shut, Declines.rule rfl <| Declines.seq_first <|
      declines_word rfl rfl (by decide) (by simp)⟩
  | integer | literal => contradiction

/-- Trees that cover names one by one cover all of them. -/
theorem map_nameOf_of_forall {names : List String} {trees : List ChunkTree}
    (each : List.Forall₂ (fun name tree => nameOf tree = name) names trees) :
    trees.map nameOf = names := by
  induction each with
  | nil => rfl
  | cons same _ ih => rw [List.map_cons, same, ih]

/-- A list of names is read in front of what follows a list. -/
theorem takes_nameList {names : List String} (filled : names ≠ []) {closing : String}
    (known : closing ∈ fixedTexts) (foreign : isForeign "," closing = true)
    (loose : grip closing < unaryLevel + 1) :
    Takes size (.rule .nameList) (commaSeparated (names.map fun name => [.name name]))
      (.fixed closing :: rest) fun trees => ∃ start width children,
        trees = [.node .nameList start width children] ∧ children.map nameOf = names := by
  have follows : Follows (unaryLevel + 1) (.fixed closing :: rest) := ⟨_, rest, rfl, known, loose⟩
  have one (name : String) (rest : List Token) :
      Takes size (.rule .name) [.name name] rest (Single (fun name tree => nameOf tree = name) name) := by
    refine takes_name.mono ?_
    rintro _ ⟨start, width, rfl, named⟩
    exact ⟨_, rfl, named⟩
  refine Takes.rule rfl ((takes_items (fun _ => Takes.fixed ",") (by decide) follows rfl
    (declines_fixed foreign) filled fun name _ rest _ => one name rest).mono ?_)
  exact fun children named start finish => ⟨start, _, children, rfl, map_nameOf_of_forall named⟩

/-- A declaration is read in front of a semicolon. -/
theorem takes_declare {names : List String} {values : List Expression}
    (writable : (Statement.declare names values).Writable) :
    Takes size statement ((Statement.declare names values).openTokens style)
      (.fixed ";" :: rest) (Single StatementAs (.declare names values)) := by
  obtain ⟨⟨filled, -, formed⟩, free⟩ := writable
  refine Takes.choice_second (declines_of_shut 0 rfl (by decide)) <| Takes.choice_first <|
    Takes.rule rfl ?_
  rw [Statement.openTokens]
  refine Takes.seq_token (takes_word rfl rfl (by decide)) ?_
  rintro _ ⟨begin, extent, rfl⟩
  by_cases empty : values = []
  · subst empty
    have ended : Declines size (.seq (.lit "=") (.rule .exprList)) (.fixed ";" :: rest) :=
      Declines.seq_first (declines_fixed (by decide))
    rw [List.isEmpty_nil, if_pos rfl, List.append_nil]
    refine (Takes.unextended (takes_nameList filled (by decide) (by decide) (by decide)) ended).mono ?_
    rintro _ ⟨start, width, children, rfl, rfl⟩ _ _
    exact ⟨_, rfl, rfl⟩
  · have recovered := recovered_each size style formed free
    rw [List.isEmpty_eq_false_iff.mpr empty, if_neg Bool.false_ne_true]
    refine Takes.seq (takes_nameList filled (by decide) (by decide) (by decide)) ?_
    rintro _ ⟨start, width, children, rfl, rfl⟩
    refine Takes.optional <| Takes.mark <| (takes_exprList style empty
      (fun value member => (recovered value member).reads) (by decide) rfl (by decide)).mono ?_
    rintro _ ⟨valuesStart, valuesWidth, valueTrees, rfl, read⟩ _ _
    refine ⟨_, rfl, ?_⟩
    show readStatement (.node .localStatement _ _ [_, .node .nameList start width children,
      .node .exprList valuesStart valuesWidth valueTrees]) = _
    rw [readStatement, readList, read]
    rfl

/-- A target that is read. -/
def TargetAs (target : Expression) (tree : ChunkTree) : Prop :=
  ∃ start width children, tree = .node .suffixedExpr start width children ∧
    readSuffixed children = .ok target

/-- Targets that are read one by one are read together, if all of them can be assigned to. -/
theorem readTargets_of_forall {targets : List Expression} {trees : List ChunkTree}
    (each : List.Forall₂ TargetAs targets trees)
    (assignable : ∀ target ∈ targets, target.isAssignable = true) :
    readTargets trees = .ok targets := by
  induction each with
  | nil => rfl
  | cons read _ ih =>
    obtain ⟨start, width, children, rfl, read⟩ := read
    obtain ⟨first, others⟩ := List.forall_mem_cons.mp assignable
    rw [readTargets, read, ih others]
    show (if _ then _ else _) = _
    rw [if_pos first]
    rfl

/-- A list of bases is taken in front of what follows a list of targets. -/
theorem takes_targetList {targets : List Expression} (filled : targets ≠ [])
    (suffixed : ∀ target ∈ targets, Suffixed size (target.tokens style) target) {closing : String}
    (known : closing ∈ fixedTexts) (foreign : isForeign "," closing = true)
    (loose : grip closing < unaryLevel + 1) :
    Takes size (.rule .targetList) (Expression.listTokens style targets) (.fixed closing :: rest)
      fun trees => ∃ start width children, trees = [.node .targetList start width children] ∧
        List.Forall₂ TargetAs targets children := by
  have follows : Follows (unaryLevel + 1) (.fixed closing :: rest) := ⟨_, rest, rfl, known, loose⟩
  have one (target : Expression) (member : target ∈ targets) (rest : List Token)
      (follows : Follows (unaryLevel + 1) rest) :
      Takes size (.rule .suffixedExpr) (target.tokens style) rest (Single TargetAs target) := by
    refine ((suffixed target member).takes follows).mono ?_
    rintro _ ⟨start, width, children, rfl, read⟩
    exact ⟨_, rfl, start, width, children, rfl, read⟩
  rw [Expression.listTokens, Expression.allTokens_eq]
  refine Takes.rule rfl ((takes_items (fun _ => Takes.fixed ",") (by decide) follows rfl
    (declines_fixed foreign) filled one).mono ?_)
  exact fun children read start finish => ⟨start, _, children, rfl, read⟩

/-- A list of one expression has its tokens. -/
theorem listTokens_singleton (expression : Expression) :
    Expression.listTokens style [expression] = expression.tokens style := by
  rw [Expression.listTokens, Expression.allTokens_eq, List.map_singleton, commaSeparated,
    List.flatMap_nil, List.append_nil]

/-- An assignment is read in front of a semicolon. -/
theorem takes_assign {targets values : List Expression}
    (writable : (Statement.assign targets values).Writable) :
    Takes size statement ((Statement.assign targets values).openTokens style)
      (.fixed ";" :: rest) (Single StatementAs (.assign targets values)) := by
  obtain ⟨⟨targetsFilled, filled, assignable, targetsFormed, formed⟩, targetsFree, free⟩ := writable
  have targetsWritable := (Expression.allWritable_iff targets).mp ⟨targetsFormed, targetsFree⟩
  have base (target : Expression) (member : target ∈ targets) : target.isBase = true :=
    Expression.isBase_of_isAssignable (assignable target member)
  have suffixed (target : Expression) (member : target ∈ targets) :
      Suffixed size (target.tokens style) target :=
    (targetsWritable target member).recovered.suffixed (base target member)
  have recovered := recovered_each size style formed free
  have takes : Takes size (.choice (.rule .assignment) (.rule .callStatement))
      ((Statement.assign targets values).openTokens style) (.fixed ";" :: rest)
      (Single StatementAs (.assign targets values)) := by
    refine Takes.choice_first <| Takes.rule rfl <|
      Takes.seq (takes_targetList targetsFilled suffixed (by decide) (by decide) (by decide)) ?_
    rintro _ ⟨targetsStart, targetsWidth, targetTrees, rfl, each⟩
    refine Takes.mark ((takes_exprList style filled
      (fun value member => (recovered value member).reads) (by decide) rfl (by decide)).mono ?_)
    rintro _ ⟨start, width, children, rfl, read⟩ _ _
    refine ⟨_, rfl, ?_⟩
    show readStatement (.node .assignment _ _ [.node .targetList targetsStart targetsWidth targetTrees,
      .node .exprList start width children]) = _
    rw [readStatement, readTargets_of_forall each assignable, readList, read]
    rfl
  obtain ⟨target, others, rfl⟩ := List.exists_cons_of_ne_nil targetsFilled
  obtain ⟨first, more, spelled, opening⟩ :=
    (targetsWritable target List.mem_cons_self).opening style
  have opens := opening.base (base target List.mem_cons_self)
  rw [Statement.openTokens, Expression.listTokens, Expression.allTokens_eq, List.map_cons,
    commaSeparated, spelled] at takes ⊢
  exact takes_undeclared opens takes

/-- A call is read in front of a semicolon. -/
theorem takes_run {call : Expression} (writable : (Statement.run call).Writable) :
    Takes size statement ((Statement.run call).openTokens style)
      (.fixed ";" :: rest) (Single StatementAs (.run call)) := by
  obtain ⟨⟨called, formed⟩, free⟩ := writable
  have writable : call.Writable := ⟨formed, free⟩
  have base := Expression.isBase_of_isCall called
  have suffixed : Suffixed size (call.tokens style) call := writable.recovered.suffixed base
  have follows : Follows (unaryLevel + 1) (.fixed ";" :: rest) :=
    ⟨_, rest, rfl, by decide, by decide⟩
  have unassigned : Declines size (.rule .assignment) (call.tokens style ++ .fixed ";" :: rest) := by
    rw [← listTokens_singleton]
    exact Declines.rule rfl <| Declines.seq_second
      (takes_targetList (List.cons_ne_nil call []) (List.forall_mem_singleton.mpr suffixed)
        (by decide) (by decide) (by decide)) (Declines.seq_first (declines_fixed (by decide)))
  have takes : Takes size (.choice (.rule .assignment) (.rule .callStatement)) (call.tokens style)
      (.fixed ";" :: rest) (Single StatementAs (.run call)) := by
    refine Takes.choice_second unassigned (Takes.rule rfl ((suffixed.takes follows).mono ?_))
    rintro _ ⟨start, width, children, rfl, read⟩ _ _
    refine ⟨_, rfl, ?_⟩
    show readStatement (.node .callStatement _ _ [.node .suffixedExpr start width children]) = _
    rw [readStatement, read]
    exact if_pos called
  obtain ⟨first, others, spelled, opening⟩ := writable.opening style
  rw [Statement.openTokens]
  rw [spelled] at takes ⊢
  exact takes_undeclared (opening.base base) takes

/-- A statement is read in front of a semicolon. -/
theorem takes_statement {given : Statement} (writable : given.Writable) :
    Takes size statement (given.openTokens style) (.fixed ";" :: rest) (Single StatementAs given) := by
  cases given with
  | declare names values => exact takes_declare writable
  | assign targets values => exact takes_assign writable
  | run call => exact takes_run writable

/-! ## Blocks -/

/-- Statements are read one after another. -/
theorem runs_statements {statements : List Statement}
    (writable : ∀ given ∈ statements, given.Writable) :
    Runs size statement (statements.flatMap (Statement.tokens style)) rest
      (List.Forall₂ StatementAs statements) := by
  induction statements with
  | nil => exact Runs.none .nil
  | cons first others ih =>
    obtain ⟨one, more⟩ := List.forall_mem_cons.mp writable
    rw [List.flatMap_cons, Statement.tokens, List.append_assoc]
    refine Runs.turn (takes_statement one) ?_
    rintro _ ⟨tree, rfl, read⟩
    -- the semicolon is a turn of its own, an empty statement
    refine Runs.turn (Takes.choice_first (Takes.fixed ";")) ?_
    rintro _ rfl
    exact (ih more).mono fun back known => .cons read known

/-- The values of a `return` are read. -/
theorem takes_returnStatement {values : List Expression}
    (recovered : ∀ value ∈ values, Recovered size style value) :
    Takes size (.rule .returnStatement)
      (.fixed "return" :: (Expression.listTokens style values ++ [.fixed ";"])) rest fun trees =>
        ∃ start width children, trees = [.node .returnStatement start width children] ∧
          readResult children = .ok values := by
  have list : Takes size (.optional (.rule .exprList)) (Expression.listTokens style values)
      (.fixed ";" :: rest) (readResult · = .ok values) := by
    cases values with
    | nil =>
      have shut : Shut 14 (.rule .exprList) [';'] := by decide
      exact Takes.optional_none (declines_of_shut 14 rfl shut) rfl
    | cons first others =>
      refine Takes.optional ((takes_exprList style (List.cons_ne_nil first others)
        (fun value member => (recovered value member).reads) (by decide) rfl (by decide)).mono ?_)
      rintro _ ⟨start, width, children, rfl, read⟩
      exact read
  refine Takes.rule rfl (Takes.seq_token (takes_word rfl rfl (by decide)) ?_)
  rintro _ ⟨begin, extent, rfl⟩
  refine Takes.seq list fun front read => (Takes.optional (Takes.fixed ";")).mono ?_
  rintro _ rfl start finish
  refine ⟨start, _, _, rfl, ?_⟩
  rw [List.append_nil]
  exact read

/-- No statement starts with `return`. -/
theorem declines_statement : Declines size statement (.fixed "return" :: rest) := by
  have name : Declines size (.rule .name) (.fixed "return" :: rest) := declines_name nofun
  have base : Declines size (.rule .suffixedExpr) (.fixed "return" :: rest) :=
    Declines.rule rfl (Declines.seq_first (Declines.choice name (declines_of_shut 2 rfl (by decide))))
  have assignment : Declines size (.rule .assignment) (.fixed "return" :: rest) :=
    Declines.rule rfl (Declines.seq_first (Declines.rule rfl (Declines.seq_first base)))
  exact Declines.choice (declines_of_shut 0 rfl (by decide)) <|
    Declines.choice (declines_of_shut 3 rfl (by decide)) <|
    Declines.choice assignment (Declines.rule rfl base)

/-- Statements that are read one by one are read together, in front of a `return`. -/
theorem readStatements_of_forall {statements : List Statement} {trees back : List ChunkTree}
    {result : Option (List Expression)} (each : List.Forall₂ StatementAs statements trees)
    (read : readStatements back = .ok ⟨[], result⟩) :
    readStatements (trees ++ back) = .ok ⟨statements, result⟩ := by
  induction each with
  | nil => exact read
  | @cons given tree others trees given _ ih =>
    rw [List.cons_append, readStatements]
    · rw [given, ih]
      rfl
    · rintro start width children rfl -
      have malformed : readStatement (.node .returnStatement start width children) =
          .error .malformed := rfl
      have read := malformed.symm.trans given
      contradiction

/-- A script is read. -/
theorem takes_block {block : Block} (formed : block.WellFormed) (free : block.NumberFree) :
    Takes size (.rule .block) (block.tokens style) [] fun trees =>
      ∃ start width children, trees = [.node .block start width children] ∧
        readStatements children = .ok block := by
  obtain ⟨statements, result⟩ := block
  have writable (given : Statement) (member : given ∈ statements) : given.Writable :=
    ⟨formed.statements given member, free.statements given member⟩
  refine Takes.rule rfl ?_
  cases result with
  | none =>
    have ended : Declines size statement [] := declines_at_end 16 rfl (by decide)
    have unreturned : Declines size (.rule .returnStatement) [] :=
      declines_at_end 16 rfl (by decide)
    show Takes size _ (statements.flatMap (Statement.tokens style) ++ []) [] _
    rw [List.append_nil]
    refine (Takes.unextended (Takes.many rfl (runs_statements writable) ended) unreturned).mono ?_
    intro trees each start finish
    have read : readStatements (trees ++ []) = .ok ⟨statements, none⟩ :=
      readStatements_of_forall each rfl
    rw [List.append_nil] at read
    exact ⟨start, _, trees, rfl, read⟩
  | some values =>
    have recovered := recovered_each size style (formed.result values rfl) (free.result values rfl)
    refine Takes.seq (Takes.many rfl (runs_statements writable) declines_statement) fun front each => ?_
    refine (Takes.optional (takes_returnStatement recovered)).mono ?_
    rintro _ ⟨begin, extent, children, rfl, read⟩ start finish
    refine ⟨start, _, _, rfl, readStatements_of_forall each ?_⟩
    rw [readStatements, read]
    rfl

/-- A source that spells the tokens of a script is read as the script. -/
theorem readScript_of_upcoming {block : Block} (formed : block.WellFormed) (free : block.NumberFree)
    {source : List Char} (upcoming : Upcoming source.length ⟨0, source⟩ (block.tokens style)) :
    readScript source = .ok block := by
  have empty : Takes source.length (.lit "") [] (block.tokens style ++ []) (· = []) := by
    intro cursor upcoming
    refine ⟨[], _, Definition.Orderly.Parses.text List.nil_prefix, ?_, rfl⟩
    show Upcoming source.length (chunkGrammar.skip cursor) _
    rw [upcoming.close]
    exact upcoming
  have ended : Takes source.length (.rule .endOfInput) [] [] fun _ => True := by
    refine Takes.rule rfl fun cursor upcoming => ⟨[], cursor, ?_, ?_, fun _ _ => trivial⟩
    · have last : cursor.rest = [] := upcoming.spaced
      exact if_pos (last ▸ rfl)
    · rw [upcoming.close]
      exact upcoming
  have whole : Takes source.length (.rule .chunk) (block.tokens style) []
      fun trees => readChunk trees = .ok block := by
    refine Takes.rule rfl (Takes.behind_nothing empty ?_)
    refine Takes.before_nothing (takes_block formed free) ?_
    rintro _ ⟨start, width, children, rfl, read⟩
    exact ended.mono fun _ _ _ _ => read
  rw [← List.append_nil (block.tokens style)] at upcoming
  obtain ⟨trees, finish, parses, -, read⟩ := whole _ upcoming
  rw [readScript_of_parses parses]
  exact read

/-! ## Written scripts -/

/-- The tokens of a list of writable expressions are valid. -/
theorem allValid_list (style : Style) {expressions : List Expression}
    (formed : Expression.AllWellFormed expressions)
    (free : Expression.AllNumberFree expressions) :
    AllValid (Expression.listTokens style expressions) :=
  allValid_listTokens style fun expression member =>
    ((Expression.allWritable_iff expressions).mp ⟨formed, free⟩ expression member).allValid style

/-- The tokens of a writable statement are valid. -/
theorem Statement.Writable.allValid (style : Style) {given : Statement} (writable : given.Writable) :
    AllValid (given.tokens style) := by
  have ended : AllValid [.fixed ";"] := allValid_nil.fixed (by decide)
  refine AllValid.append ?_ ended
  cases given with
  | declare names values =>
    obtain ⟨⟨-, named, formed⟩, free⟩ := writable
    have nameTokens : AllValid (commaSeparated (names.map fun name => [.name name])) :=
      allValid_commaSeparated <| List.forall_mem_map.mpr fun name member =>
        allValid_nil.name (named name member)
    refine (nameTokens.append ?_).fixed (by decide)
    split
    · exact allValid_nil
    · exact (allValid_list style formed free).fixed (by decide)
  | assign targets values =>
    obtain ⟨⟨-, -, -, targetsFormed, formed⟩, targetsFree, free⟩ := writable
    exact (allValid_list style targetsFormed targetsFree).append
      ((allValid_list style formed free).fixed (by decide))
  | run call =>
    obtain ⟨⟨-, formed⟩, free⟩ := writable
    exact Expression.Writable.allValid style ⟨formed, free⟩

/-- The tokens of a well-formed script without fractional numbers are valid. -/
theorem Block.allValid (style : Style) {block : Block} (formed : block.WellFormed)
    (free : block.NumberFree) : AllValid (block.tokens style) := by
  refine AllValid.append ?_ ?_
  · intro token member
    obtain ⟨given, known, inside⟩ := List.mem_flatMap.mp member
    exact Statement.Writable.allValid style
      ⟨formed.statements given known, free.statements given known⟩ token inside
  · split
    · next values same =>
      have list := allValid_list style (formed.result values same) (free.result values same)
      exact (list.append (allValid_nil.fixed (by decide))).fixed (by decide)
    · exact allValid_nil

/-- A text of the tokens of a script with separators between them spells the script. -/
theorem upcoming_of_spaced {style : Style} {block : Block} (formed : block.WellFormed)
    (free : block.NumberFree) {text : List Char}
    (spaced : Spaced Separates (block.tokens style) text) :
    Upcoming text.length ⟨0, text⟩ (block.tokens style) :=
  ⟨Nat.zero_add _, Block.allValid style formed free, spaced⟩

/-- Every well-formed script without fractional numbers is read back from its tokens, in every style
and with any blanks and comments between them, as long as no comment follows a minus sign
directly. -/
theorem readScript_spaced {block : Block} (formed : block.WellFormed) (free : block.NumberFree)
    (style : Style) {text : List Char} (spaced : Spaced Separates (block.tokens style) text) :
    readScript text = .ok block :=
  readScript_of_upcoming formed free (upcoming_of_spaced formed free spaced)

/-- The script that returns a negated name. -/
def negation : Block := ⟨[], some [.unary .minus (.name "x")]⟩

/-- The script that returns a name. -/
def plainName : Block := ⟨[], some [.name "x"]⟩

/-- Names are written as they are and strings in double quotes. -/
def plainStyle : Style := ⟨true, true, false⟩

/-- The negated name is well-formed. -/
theorem wellFormed_negation : negation.WellFormed := by
  refine ⟨nofun, ?_⟩
  rintro _ ⟨⟩
  simp only [Expression.AllWellFormed, Expression.WellFormed, and_true]
  exact ⟨by decide, by decide⟩

/-- The negated name has no numbers. -/
theorem numberFree_negation : negation.NumberFree := by
  refine ⟨nofun, ?_⟩
  rintro _ ⟨⟩
  simp only [Expression.AllNumberFree, Expression.NumberFree, and_true]

/-- The name is well-formed. -/
theorem wellFormed_plainName : plainName.WellFormed := by
  refine ⟨nofun, ?_⟩
  rintro _ ⟨⟩
  simp only [Expression.AllWellFormed, Expression.WellFormed, and_true]
  decide

/-- The name has no numbers. -/
theorem numberFree_plainName : plainName.NumberFree := by
  refine ⟨nofun, ?_⟩
  rintro _ ⟨⟩
  simp only [Expression.AllNumberFree, Expression.NumberFree, and_true]

/-- One blank is a separator. -/
theorem isSeparator_blank : IsSeparator [' '] := ⟨by simp, .space rfl .none⟩

/-- A comment between blanks separates a minus sign from its operand. -/
theorem readScript_spaced_negation :
    readScript "return - --c\nx ;".toList = .ok negation := by
  have comment : IsSeparator " --c\n".toList :=
    ⟨by decide, .space rfl (@Blanks.comment ['c'] [] (by decide) .none)⟩
  refine readScript_spaced wellFormed_negation numberFree_negation plainStyle ?_
  refine ⟨[' '], "- --c\nx ;".toList, rfl, ⟨isSeparator_blank, nofun⟩, ?_⟩
  refine ⟨" --c\n".toList, "x ;".toList, rfl, ⟨comment, by decide⟩, ?_⟩
  exact ⟨[' '], [';'], rfl, ⟨isSeparator_blank, nofun⟩, rfl⟩

/-- A comment directly behind a minus sign takes the sign with it. -/
theorem readScript_not_always_spaced :
    ¬ ∀ (block : Block) (style : Style) (text : List Char), block.WellFormed → block.NumberFree →
      Spaced (fun _ => IsSeparator) (block.tokens style) text → readScript text = .ok block := by
  intro always
  have negated : Spaced (fun _ => IsSeparator) (negation.tokens plainStyle)
      "return ---c\nx ;".toList := by
    have comment : IsSeparator "--c\n".toList :=
      ⟨by decide, @Blanks.comment ['c'] [] (by decide) .none⟩
    refine ⟨[' '], "---c\nx ;".toList, rfl, isSeparator_blank, ?_⟩
    refine ⟨"--c\n".toList, "x ;".toList, rfl, comment, ?_⟩
    exact ⟨[' '], [';'], rfl, isSeparator_blank, rfl⟩
  have named : Spaced Separates (plainName.tokens plainStyle) "return ---c\nx ;".toList := by
    have comment : IsSeparator " ---c\n".toList :=
      ⟨by decide, .space rfl (@Blanks.comment ['-', 'c'] [] (by decide) .none)⟩
    refine ⟨" ---c\n".toList, "x ;".toList, rfl, ⟨comment, nofun⟩, ?_⟩
    exact ⟨[' '], [';'], rfl, ⟨isSeparator_blank, nofun⟩, rfl⟩
  have read := always negation plainStyle _ wellFormed_negation numberFree_negation negated
  have other := readScript_of_upcoming wellFormed_plainName numberFree_plainName
    (upcoming_of_spaced wellFormed_plainName numberFree_plainName named)
  have same : plainName = negation := Except.ok.inj (other.symm.trans read)
  exact absurd (congrArg Block.result same) nofun

end ScriptHost.Script
