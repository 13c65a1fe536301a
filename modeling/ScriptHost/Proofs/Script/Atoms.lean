import ScriptHost.Proofs.Script.Levels

/-!
# Atoms

Literals are told by their first token. What is neither a sign nor one of them is an
operand that starts with a name or parentheses, or a table.
-/

namespace ScriptHost.Script

open ScriptHost.Grammar

variable {size : Nat} {token : Token} {tokens more rest : List Token} {expression : Expression}

/-! ## Single tokens -/

/-- A token that is no minus sign does not start with one. -/
theorem declines_minus (differs : token ≠ .fixed "-") :
    Declines size (.lit "-") (token :: rest) := by
  intro cursor upcoming
  obtain ⟨first, others, spelled, -, bare⟩ := (upcoming.valid token (by simp)).head
  refine Definition.Orderly.Refuses.text (Bool.eq_false_iff.mpr fun starts => ?_)
  rw [upcoming.first.1, spelled] at starts
  have same : '-' = first := by simpa [List.isPrefixOf] using starts
  exact differs (bare same.symm).2

/-- A fixed text declines before a fixed token that it is told from. -/
theorem declines_fixed {text other : String} (foreign : isForeign other text = true) :
    Declines size (.lit other) (.fixed text :: rest) :=
  fun _ upcoming => upcoming.refuses_lit foreign

/-- Signs and negations decline before other tokens. -/
theorem declines_unaryOp (minus : token ≠ .fixed "-") (negation : token ≠ .fixed "not") :
    Declines size (.rule .unaryOp) (token :: rest) :=
  Declines.rule rfl <| Declines.choice (declines_minus minus) <|
    declines_word rfl rfl (by decide) negation

/-- A rule for a reserved word takes it. -/
theorem takes_word {rule : Rule} {text : String} (body : chunkGrammar.body rule = word text)
    (style : chunkGrammar.style rule = .hidden) (reserved : text ∈ reservedWords) :
    Takes size (.rule rule) [.fixed text] rest fun trees =>
      ∃ start width, trees = [.node rule start width []] := by
  refine Takes.token fun cursor upcoming =>
    ⟨[treeBetween rule cursor (cursor.past text.toList) []], ?_, cursor, _, rfl⟩
  refine Definition.Orderly.Parses.rule (by decide) ?_
  rw [body, style]
  exact upcoming.parses_word reserved

/-- Trees that cover a name. -/
def NamedAs (name : String) (trees : List ChunkTree) : Prop :=
  ∃ start width, trees = [.node .name start width []] ∧ String.ofList (start.take width) = name

/-- A name is taken as one. -/
theorem takes_name {name : String} : Takes size (.rule .name) [.name name] rest (NamedAs name) := by
  refine Takes.token fun cursor upcoming => ?_
  obtain ⟨_, parses, rfl, named⟩ := upcoming.parses_name (show Mode.spaced ≠ .hidden by decide)
  exact ⟨_, parses, cursor, _, rfl, named⟩

/-! ## Signs and literals -/

/-- A sign or a negation takes its token. -/
theorem takes_unaryOperator (op : UnaryOperator) :
    Takes size (.rule .unaryOp) [.fixed op.symbol] rest fun trees =>
      ∃ symbol, trees = [symbol] ∧ treeRule symbol = .unaryOp ∧ symbol.text = op.symbol.toList := by
  refine Takes.token fun cursor upcoming => ?_
  obtain ⟨symbol, parses, known⟩ := upcoming.parses_unaryOperator op
  exact ⟨[symbol], parses, symbol, rfl, known⟩

/-- A sign or a negation in front of an operand is read with it. -/
theorem reads_unary (op : UnaryOperator) (reads : Reads size .unaryExpr tokens expression) :
    Reads size .unaryExpr (.fixed op.symbol :: tokens) (.unary op expression) := by
  intro rest follows
  refine Takes.rule rfl (Takes.choice_first (Takes.seq (takes_unaryOperator op) ?_))
  rintro _ ⟨symbol, rfl, rooted, covered⟩
  refine (reads rest follows).mono ?_
  rintro _ ⟨operand, rfl, read⟩ start finish
  refine ⟨_, rfl, ?_⟩
  have meant : (if symbol.text = ['-'] then UnaryOperator.minus else .not) = op := by
    rw [covered]
    cases op <;> decide
  show readExpression (.node .unaryExpr _ _ [symbol, operand]) = _
  rw [readExpression, readUnary, if_pos rooted, read, meant]
  rfl

/-- An operand without a sign is read where no sign stands. -/
theorem reads_atom (minus : token ≠ .fixed "-") (negation : token ≠ .fixed "not")
    (takes : ∀ rest, Follows (unaryLevel + 1) rest →
      Takes size atom (token :: tokens) rest (ReadAs expression)) :
    Reads size .unaryExpr (token :: tokens) expression := by
  intro rest follows
  have declined := @declines_unaryOp size token (tokens ++ rest) minus negation
  refine Takes.rule rfl (Takes.choice_second (Declines.seq_first declined) ?_)
  refine (takes rest (follows.tighten (by decide))).mono ?_
  rintro _ ⟨tree, rfl, read⟩ start finish
  have other : treeRule tree ≠ .unaryOp := by
    obtain ⟨rule, start, width, children⟩ := tree
    rintro rfl
    have malformed : readExpression (.node .unaryOp start width children) = .error .malformed := rfl
    exact absurd (malformed.symm.trans read) nofun
  refine ⟨_, rfl, ?_⟩
  rw [treeBetween, readExpression, readUnary, if_neg other]
  exact read

/-- No literal word stands before other tokens. -/
theorem declines_nil (differs : token ≠ .fixed "nil") :
    Declines size (.rule .nilLiteral) (token :: rest) := declines_word rfl rfl (by decide) differs

/-- No literal word stands before other tokens. -/
theorem declines_true (differs : token ≠ .fixed "true") :
    Declines size (.rule .trueLiteral) (token :: rest) := declines_word rfl rfl (by decide) differs

/-- No literal word stands before other tokens. -/
theorem declines_false (differs : token ≠ .fixed "false") :
    Declines size (.rule .falseLiteral) (token :: rest) := declines_word rfl rfl (by decide) differs

/-- The word `nil` is read. -/
theorem reads_nil : Reads size .unaryExpr [.fixed "nil"] .nil := by
  refine reads_atom (by decide) (by decide) fun rest _ => ?_
  refine Takes.choice_first ((takes_word rfl rfl (by decide)).mono ?_)
  rintro _ ⟨start, width, rfl⟩
  exact ⟨_, rfl, rfl⟩

/-- The words `true` and `false` are read. -/
theorem reads_boolean (style : Style) (value : Bool) :
    Reads size .unaryExpr ((Expression.boolean value).tokens style) (.boolean value) := by
  cases value with
  | false =>
    refine reads_atom (by decide) (by decide) fun rest _ => ?_
    refine Takes.choice_second (declines_nil (by decide)) <|
      Takes.choice_second (declines_true (by decide)) <|
      Takes.choice_first ((takes_word rfl rfl (by decide)).mono ?_)
    rintro _ ⟨start, width, rfl⟩
    exact ⟨_, rfl, rfl⟩
  | true =>
    refine reads_atom (by decide) (by decide) fun rest _ => ?_
    refine Takes.choice_second (declines_nil (by decide)) <|
      Takes.choice_first ((takes_word rfl rfl (by decide)).mono ?_)
    rintro _ ⟨start, width, rfl⟩
    exact ⟨_, rfl, rfl⟩

/-- What can stand for an operand that is no reserved word. -/
def wordlessAtom : Expr Rule :=
  Expr.oneOf numberLiteral [.rule .string, .rule .varargs, .rule .tableConstructor,
    .rule .suffixedExpr]

/-- An operand that starts with neither a minus sign nor a reserved word is read behind the literal
words. -/
theorem reads_wordless (minus : token ≠ .fixed "-")
    (wordless : ∀ word ∈ reservedWords, token ≠ .fixed word)
    (takes : ∀ rest, Follows (unaryLevel + 1) rest →
      Takes size wordlessAtom (token :: tokens) rest (ReadAs expression)) :
    Reads size .unaryExpr (token :: tokens) expression :=
  reads_atom minus (wordless "not" (by decide)) fun rest follows =>
    Takes.choice_second (declines_nil (wordless "nil" (by decide))) <|
      Takes.choice_second (declines_true (wordless "true" (by decide))) <|
      Takes.choice_second (declines_false (wordless "false" (by decide))) <| takes rest follows

/-- An integer is read. -/
theorem reads_integer (value : Int64) : Reads size .unaryExpr [.integer value] (.integer value) := by
  refine reads_wordless nofun (fun _ _ => nofun) fun rest _ => ?_
  refine Takes.choice_first <| Takes.token fun cursor upcoming => ?_
  obtain ⟨tree, parses, read⟩ := upcoming.parses_integer
  exact ⟨[tree], parses, tree, rfl, read⟩

/-- A string literal is read. -/
theorem reads_text (quote : Char) (value : String) :
    Reads size .unaryExpr [.literal quote value] (.text value) := by
  refine reads_wordless nofun (fun _ _ => nofun) fun rest _ => ?_
  have shut : Shut 2 numberLiteral ['\x22', '\x27'] := by decide
  refine Takes.choice_second (declines_of_shut 2 rfl shut) <| Takes.choice_first <|
    Takes.token fun cursor upcoming => ?_
  obtain ⟨tree, parses, read⟩ := upcoming.parses_literal
  exact ⟨[tree], parses, tree, rfl, read⟩

/-- Three points are read as the extra arguments. -/
theorem reads_varargs : Reads size .unaryExpr [.fixed "..."] .varargs := by
  refine reads_wordless (by decide) (by decide) fun rest _ => ?_
  refine Takes.choice_second (declines_of_shut 2 rfl (by decide)) <|
    Takes.choice_second (declines_of_shut 2 rfl (by decide)) <| Takes.choice_first <|
    Takes.rule rfl ?_
  exact (Takes.fixed "...").mono fun _ _ _ _ => ⟨_, rfl, rfl⟩

end ScriptHost.Script
