import ScriptHost.Proofs.Script.Literals
import ScriptHost.Proofs.Script.Reading
import ScriptHost.Proofs.Script.Refusals

/-!
# Levels of operators

Tokens that are read as an expression at one level are read as it at every looser level, and
operators join what is read at the levels of their operands. Chains of operators that
group to the left grow at their end, so a chain is followed before its last operator is
known; concatenations grow at their front.
-/

namespace ScriptHost.Script

open ScriptHost.Grammar

/-! ## Reading trees -/

/-- Trees that are read as one expression. -/
def ReadAs (expression : Expression) (trees : List ChunkTree) : Prop :=
  ∃ tree, trees = [tree] ∧ readExpression tree = .ok expression

/-- Two steps that succeed together both succeed. -/
theorem Reading.of_bind {First Second : Type} {reading : Reading First}
    {next : First → Reading Second} {result : Second} (read : (reading >>= next) = .ok result) :
    ∃ value, reading = .ok value ∧ next value = .ok result := by
  cases reading with
  | ok value => exact ⟨value, rfl, read⟩
  | error reason => contradiction

/-- Operators and operands that are read one after the other are read together. -/
theorem readOperators_append : (front : List ChunkTree) → {left middle : Expression} →
    (back : List ChunkTree) → (read : readOperators left front = .ok middle) →
    readOperators left (front ++ back) = readOperators middle back
  | [], left, middle, back, read => by
    rw [readOperators] at read
    obtain rfl := Except.ok.inj read
    rfl
  | [_], _, _, _, read => by
    rw [readOperators] at read
    contradiction
  | symbol :: operand :: rest, left, middle, back, read => by
    rw [readOperators] at read
    rw [List.cons_append, List.cons_append, readOperators]
    cases known : BinaryOperator.ofSymbol (nameOf symbol) with
    | none =>
      rw [known] at read
      contradiction
    | some op =>
      rw [known] at read
      obtain ⟨right, operandRead, further⟩ := Reading.of_bind read
      dsimp only
      rw [operandRead]
      exact readOperators_append rest back further

/-- A chain grows by an operator and its right operand. -/
theorem readChain_snoc {trees : List ChunkTree} {left right : Expression} {op : BinaryOperator}
    {symbol operand : ChunkTree} (read : readChain trees = .ok left)
    (known : BinaryOperator.ofSymbol (nameOf symbol) = some op)
    (operandRead : readExpression operand = .ok right) :
    readChain (trees ++ [symbol, operand]) = .ok (.binary op left right) := by
  cases trees with
  | nil =>
    rw [readChain] at read
    contradiction
  | cons first rest =>
    rw [readChain] at read
    obtain ⟨start, firstRead, further⟩ := Reading.of_bind read
    rw [List.cons_append, readChain, firstRead]
    show readOperators start (rest ++ [symbol, operand]) = _
    rw [readOperators_append rest _ further, readOperators, known]
    dsimp only
    rw [operandRead]
    rfl

/-- A source that is matched as a chunk is read from its trees. -/
theorem readScript_of_parses {source : List Char} {trees : List ChunkTree} {finish : Cursor}
    (parses : chunkOrder.Parses source.length .spaced (.rule .chunk) ⟨0, source⟩ trees finish) :
    readScript source = readChunk trees := by
  rw [readScript, matchChunk_eq, show matching source.length .chunk .spaced ⟨0, source⟩ = _ from parses]

/-! ## What is read at a level -/

variable {size : Nat} {tokens leftTokens rightTokens : List Token}
  {expression left right : Expression}

/-- A rule takes tokens in front of what follows at its level, and its tree is read as an
expression. -/
def Reads (size : Nat) (rule : Rule) (tokens : List Token) (expression : Expression) : Prop :=
  ∀ rest, Follows (ruleLevel rule) rest → Takes size (.rule rule) tokens rest (ReadAs expression)

/-- A chain of operators of a level takes tokens, also in front of further operators of the level,
and its trees are read as an expression. -/
def Chained (size : Nat) (operator : Rule) (tokens : List Token) (expression : Expression) : Prop :=
  ∀ rest, Follows (ruleLevel operator + 1) rest →
    Begins size (.rule (operandRule operator))
      (.seq (.rule operator) (.rule (operandRule operator))) tokens rest
      (readChain · = .ok expression)

/-- The rule of the chains of an operator. -/
def chainRule : Rule → Rule
  | .orOp => .orExpr
  | .andOp => .andExpr
  | .cmpOp => .cmpExpr
  | .addOp => .addExpr
  | _ => .mulExpr

/-- An operator's rule takes its symbol. -/
theorem takes_operator (op : BinaryOperator) (rest : List Token) :
    Takes size (.rule op.rule) [.fixed op.symbol] rest fun trees =>
      ∃ symbol, trees = [symbol] ∧ BinaryOperator.ofSymbol (nameOf symbol) = some op := by
  refine Takes.token fun cursor upcoming => ?_
  obtain ⟨symbol, parses, known⟩ := upcoming.parses_operator op
  exact ⟨[symbol], parses, symbol, rfl, known⟩

/-- The rule of an operator is of its level. -/
theorem BinaryOperator.ruleLevel_rule (op : BinaryOperator) : ruleLevel op.rule = op.level := by
  cases op <;> rfl

/-- An operand is a chain without operators. -/
theorem Chained.of_operand {operator : Rule} (chained : isChainOperator operator = true)
    (reads : Reads size (operandRule operator) tokens expression) :
    Chained size operator tokens expression := by
  intro rest follows
  rw [← (ruleLevel_operandRule chained).2] at follows
  refine Begins.start ((reads rest follows).mono ?_)
  rintro _ ⟨tree, rfl, read⟩
  rw [readChain, read]
  rfl

/-- A chain grows by an operator of its level and a right operand. -/
theorem Chained.binary {op : BinaryOperator} (chained : isChainOperator op.rule = true)
    (leftChained : Chained size op.rule leftTokens left)
    (rightReads : Reads size (operandRule op.rule) rightTokens right) :
    Chained size op.rule (leftTokens ++ .fixed op.symbol :: rightTokens) (.binary op left right) := by
  intro rest follows
  have between : Follows (ruleLevel op.rule + 1) (.fixed op.symbol :: rightTokens ++ rest) :=
    follows_operator op (by rw [op.ruleLevel_rule]; exact Nat.lt_succ_self _)
  rw [← (ruleLevel_operandRule chained).2] at follows
  refine Begins.last (leftChained _ between) fun front leftRead => ?_
  refine Takes.seq (takes_operator op _) ?_
  rintro _ ⟨symbol, rfl, known⟩
  refine (rightReads rest follows).mono ?_
  rintro _ ⟨operand, rfl, operandRead⟩
  exact readChain_snoc leftRead known operandRead

/-- A chain is read by the rule of its level. -/
theorem Chained.reads {operator : Rule} (chained : isChainOperator operator = true)
    (begun : Chained size operator tokens expression) :
    Reads size (chainRule operator) tokens expression := by
  have level : ruleLevel (chainRule operator) = ruleLevel operator := by
    cases operator <;> first | contradiction | rfl
  have body : (chainRule operator).body = chain (operandRule operator) operator := by
    cases operator <;> first | contradiction | rfl
  have operating : operator ∈ operatorRules := by
    cases operator <;> first | contradiction | decide
  have known (start : Cursor) (width : Nat) (children : List ChunkTree) :
      readExpression (.node (chainRule operator) start width children) = readChain children := by
    cases operator <;> first | contradiction | rfl
  intro rest follows
  rw [level] at follows
  refine Takes.rule (by cases operator <;> first | contradiction | rfl) ?_
  rw [body]
  refine (Begins.stop ?_ (begun rest (follows.tighten (Nat.le_succ _))) ?_).mono ?_
  · cases operator <;> first | contradiction | rfl
  · exact Declines.seq_first (declines_operator operating follows (Nat.le_refl _))
  · intro children read start finish
    exact ⟨_, rfl, (known start _ children).trans read⟩

/-! ## Concatenation -/

/-- An operand of a concatenation is one without an operator. -/
theorem reads_concat_of_operand (reads : Reads size .addExpr tokens expression) :
    Reads size .concatExpr tokens expression := by
  intro rest follows
  have stopped : Declines size (.seq (.rule .concatOp) (.rule .concatExpr)) rest :=
    Declines.seq_first (declines_operator (by decide) follows (Nat.le_refl _))
  have operand := reads rest (follows.tighten (by decide))
  refine Takes.rule rfl ((Takes.unextended operand stopped).mono ?_)
  rintro _ ⟨tree, rfl, read⟩ start finish
  refine ⟨_, rfl, ?_⟩
  rw [treeBetween, readExpression, readConcat]
  exact read

/-- A concatenation grows at its front. -/
theorem reads_concat_binary (leftReads : Reads size .addExpr leftTokens left)
    (rightReads : Reads size .concatExpr rightTokens right) :
    Reads size .concatExpr (leftTokens ++ .fixed ".." :: rightTokens)
      (.binary .concat left right) := by
  intro rest follows
  have between : Follows (ruleLevel .addExpr) (.fixed ".." :: rightTokens ++ rest) :=
    follows_operator .concat (by decide)
  refine Takes.rule rfl (Takes.seq (leftReads _ between) ?_)
  rintro _ ⟨first, rfl, firstRead⟩
  refine Takes.optional (Takes.seq (takes_operator .concat _) ?_)
  rintro _ ⟨symbol, rfl, -⟩
  refine (rightReads rest follows).mono ?_
  rintro _ ⟨second, rfl, secondRead⟩ start finish
  refine ⟨_, rfl, ?_⟩
  show readExpression (.node .concatExpr _ _ [first, symbol, second]) = _
  rw [readExpression, readConcat, firstRead, secondRead]
  rfl

/-! ## All levels -/

/-- The loosest rule is read like a chain of `or`. -/
theorem reads_expr (reads : Reads size .orExpr tokens expression) :
    Reads size .expr tokens expression := by
  intro rest follows
  refine Takes.rule rfl ((reads rest follows).mono ?_)
  rintro _ ⟨tree, rfl, read⟩ start finish
  refine ⟨_, rfl, ?_⟩
  rw [treeBetween, readExpression, readFirst]
  exact read

/-- The rule that is tried at a level. -/
def levelRule : Nat → Rule
  | 0 => .expr
  | 1 => .orExpr
  | 2 => .andExpr
  | 3 => .cmpExpr
  | 4 => .concatExpr
  | 5 => .addExpr
  | 6 => .mulExpr
  | _ => .unaryExpr

/-- Tokens stand for an expression at a level: as a chain where operators group to the left, and as
a whole elsewhere. -/
def Enters (size : Nat) (tokens : List Token) (expression : Expression) : Nat → Prop
  | 0 => Reads size .expr tokens expression
  | 1 => Chained size .orOp tokens expression
  | 2 => Chained size .andOp tokens expression
  | 3 => Chained size .cmpOp tokens expression
  | 4 => Reads size .concatExpr tokens expression
  | 5 => Chained size .addOp tokens expression
  | 6 => Chained size .mulOp tokens expression
  | _ => Reads size .unaryExpr tokens expression

/-- What stands for an expression at a level is read by its rule. -/
theorem Enters.reads : {level : Nat} → Enters size tokens expression level →
    Reads size (levelRule level) tokens expression
  | 0, enters | 4, enters | _ + 7, enters => enters
  | 1, enters | 2, enters | 3, enters | 5, enters | 6, enters => Chained.reads rfl enters

/-- What stands for an expression at a level stands for it at the next looser one. -/
theorem Enters.step : {level : Nat} → Enters size tokens expression (level + 1) →
    Enters size tokens expression level
  | 0, enters => reads_expr enters.reads
  | 1, enters | 2, enters | 3, enters | 5, enters | 6, enters => Chained.of_operand rfl enters.reads
  | 4, enters => reads_concat_of_operand enters.reads
  | _ + 7, enters => enters

/-- What stands for an expression at a level stands for it at every looser one. -/
theorem Enters.loosen {level looser : Nat} (enters : Enters size tokens expression level)
    (loose : looser ≤ level) : Enters size tokens expression looser := by
  induction loose with
  | refl => exact enters
  | step _ ih => exact ih enters.step

/-- An operator stands for an expression at its level, between operands at the levels that it asks
for. -/
theorem enters_binary (op : BinaryOperator) (leftEnters : Enters size leftTokens left op.leftLevel)
    (rightEnters : Enters size rightTokens right op.rightLevel) :
    Enters size (leftTokens ++ .fixed op.symbol :: rightTokens) (.binary op left right) op.level := by
  by_cases grouped : op = .concat
  · subst grouped
    exact reads_concat_binary leftEnters.reads rightEnters.reads
  · have chained : isChainOperator op.rule = true := by
      cases op <;> first | contradiction | rfl
    have grows (tokens : List Token) (expression : Expression) :
        Enters size tokens expression op.level = Chained size op.rule tokens expression := by
      cases op <;> first | contradiction | rfl
    have leftLevel : op.leftLevel = op.level := by
      cases op <;> first | contradiction | rfl
    have rightRule : levelRule op.rightLevel = operandRule op.rule := by
      cases op <;> first | contradiction | rfl
    rw [leftLevel, grows] at leftEnters
    rw [grows]
    exact Chained.binary chained leftEnters (rightRule ▸ rightEnters.reads)

end ScriptHost.Script
