import ScriptHost.Proofs.Script.Suffixes

/-!
# Operands

The tokens of every writable expression are read back as the expression: a base in front of
any members and calls, anything else in front of what binds more loosely.
-/

namespace ScriptHost.Script

open ScriptHost.Grammar

variable {size : Nat} {token : Token} {tokens more rest : List Token} {expression : Expression}

variable (style : Style)

/-! ## Tables -/

/-- A tree that is read as a field in front of others. -/
def FieldAs (field : Field) (tree : ChunkTree) : Prop :=
  ∀ trees fields, readFields trees = .ok fields → readFields (tree :: trees) = .ok (field :: fields)

/-- Trees that are read as fields one by one are read as all of them. -/
theorem readFields_of_forall {fields : List Field} {trees : List ChunkTree}
    (each : List.Forall₂ FieldAs fields trees) : readFields trees = .ok fields := by
  induction each with
  | nil => rfl
  | cons read _ ih => exact read _ _ ih

/-- What follows the name of a field. -/
def assigned : Expr Rule := .seq (.absent (.lit "==")) (.seq (.lit "=") (.rule .expr))

/-- No value is assigned where no `=` stands. -/
theorem declines_assigned (differs : token ≠ .fixed "=") :
    Declines size assigned (token :: rest) := by
  intro cursor upcoming
  have valid := upcoming.valid token (by simp)
  refine (?_ : Declines size assigned (token :: rest)) cursor upcoming
  cases token with
  | fixed text =>
    by_cases equal : text = "=="
    · subst equal
      exact Declines.seq_first (Declines.absent (Takes.fixed "=="))
    · have foreign : ∀ text ∈ fixedTexts, text ≠ "=" → text ≠ "==" →
          isForeign "==" text = true ∧ isForeign "=" text = true := by decide
      have other : text ≠ "=" := fun same => differs (congrArg Token.fixed same)
      obtain ⟨double, single⟩ := foreign text valid other equal
      exact Declines.glance (declines_fixed double) (Declines.seq_first (declines_fixed single))
  | name text =>
    have shut : Shut 0 assigned nameOpenings := by decide
    exact declines_of_shut 0 rfl shut
  | integer value =>
    have shut : Shut 0 assigned digitOpenings := by decide
    exact declines_of_shut 0 rfl shut
  | literal quote value =>
    have shut : Shut 0 assigned ['\x22', '\x27'] := by decide
    exact declines_of_shut 0 rfl shut

/-- A keyed field declines before the first token of an expression. -/
theorem declines_keyedField (opens : token.opens = true) :
    Declines size (.rule .keyedField) (token :: rest) := by
  cases token with
  | fixed text =>
    have shut : ∀ text ∈ ["nil", "true", "false", "...", "-", "not", "(", "\x7b"],
        Shut 2 (.rule .keyedField) (text.toList.take 1) := by decide
    exact declines_of_shut 2 rfl (shut text (List.contains_iff_mem.mp opens))
  | name text =>
    have shut : Shut 2 (.rule .keyedField) nameOpenings := by decide
    exact declines_of_shut 2 rfl shut
  | integer value =>
    have shut : Shut 2 (.rule .keyedField) digitOpenings := by decide
    exact declines_of_shut 2 rfl shut
  | literal quote value =>
    have shut : Shut 2 (.rule .keyedField) ['\x22', '\x27'] := by decide
    exact declines_of_shut 2 rfl shut

/-- A value is read as a field without a key. -/
theorem takes_positional (writable : expression.Writable)
    (reads : Reads size .expr (expression.tokens style) expression) (follows : Follows 1 rest) :
    Takes size tableField (expression.tokens style) rest
      (Single FieldAs (.positional expression)) := by
  have value : Takes size (.rule .positionalField) (expression.tokens style) rest
      (Single FieldAs (.positional expression)) := by
    refine Takes.rule rfl ((reads rest follows).mono ?_)
    rintro _ ⟨tree, rfl, read⟩ start finish
    refine ⟨_, rfl, fun trees fields others => ?_⟩
    rw [treeBetween, readFields, read, others]
    rfl
  obtain ⟨first, others, spelled, opening⟩ := writable.opening style
  rw [spelled] at value ⊢
  refine Takes.choice_second (declines_keyedField opening.opens) <| Takes.choice_second ?_ value
  refine Declines.rule rfl ?_
  by_cases named : ∃ name, first = .name name
  · obtain ⟨name, rfl⟩ := named
    obtain ⟨text, more, rfl, known, loose⟩ := follows
    have unassigned : ∃ second tail, others ++ .fixed text :: more = second :: tail ∧
        second ≠ .fixed "=" := by
      cases others with
      | nil => exact ⟨_, _, rfl, by rintro ⟨⟩; exact absurd loose (by decide)⟩
      | cons second tail =>
        exact ⟨second, _, rfl, fun same => opening.unassigned name rfl (congrArg some same)⟩
    obtain ⟨second, tail, next, differs⟩ := unassigned
    have behind : Declines size assigned (others ++ .fixed text :: more) :=
      next ▸ declines_assigned differs
    have whole : Declines size (.seq (.rule .name) assigned)
        ([.name name] ++ (others ++ .fixed text :: more)) := Declines.seq_second takes_name behind
    exact whole
  · exact Declines.seq_first (declines_name fun name same => named ⟨name, same⟩)

/-- A field is read. -/
theorem takes_field {field : Field} (writable : field.Writable)
    (reads : field.Each fun expression => Reads size .expr (expression.tokens style) expression)
    (follows : Follows 1 rest) :
    Takes size tableField (field.tokens style) rest (Single FieldAs field) := by
  cases field with
  | positional value => exact takes_positional style writable reads follows
  | keyed key value =>
    obtain ⟨keyReads, valueReads⟩ := reads
    rw [Field.tokens]
    split
    · next name named =>
      obtain ⟨rfl, -⟩ := style.of_fieldName? named
      have shut : Shut 2 (.rule .keyedField) nameOpenings := by decide
      refine Takes.choice_second (declines_of_shut 2 rfl shut) <| Takes.choice_first <|
        Takes.rule rfl <| Takes.seq takes_name ?_
      rintro _ ⟨begin, extent, rfl, rfl⟩
      refine Takes.glance (declines_fixed (by decide)) <| Takes.mark <|
        (valueReads rest follows).mono ?_
      rintro _ ⟨tree, rfl, read⟩ start finish
      refine ⟨_, rfl, fun trees fields others => ?_⟩
      show readFields (.node .namedField _ _ [.node .name begin extent [], tree] :: trees) = _
      rw [readFields, read, others]
      rfl
    · have closing : Follows 1 (.fixed "]" :: .fixed "=" :: value.tokens style ++ rest) :=
        ⟨"]", _, rfl, by decide, by decide⟩
      refine Takes.choice_first <| Takes.rule rfl <| Takes.mark <| Takes.seq (keyReads _ closing) ?_
      rintro _ ⟨keyTree, rfl, keyRead⟩
      refine Takes.mark <| Takes.mark <| (valueReads rest follows).mono ?_
      rintro _ ⟨tree, rfl, read⟩ start finish
      refine ⟨_, rfl, fun trees fields others => ?_⟩
      show readFields (.node .keyedField _ _ [keyTree, tree] :: trees) = _
      rw [readFields, keyRead, read, others]
      rfl

/-- A table is read. -/
theorem reads_table {fields : List Field} (writable : ∀ field ∈ fields, field.Writable)
    (each : ∀ field ∈ fields,
      field.Each fun expression => Reads size .expr (expression.tokens style) expression) :
    Reads size .unaryExpr
      (.fixed "\x7b" :: (commaSeparated (Field.allTokens style fields) ++ [.fixed "\x7d"]))
      (.table fields) := by
  refine reads_wordless (by decide) (by decide) fun rest _ => ?_
  have inside : Takes size
      (.optional (.seq tableField
        (.seq (.many (.seq fieldSeparator tableField)) (.optional fieldSeparator))))
      (commaSeparated (Field.allTokens style fields)) (.fixed "\x7d" :: rest)
      (readFields · = .ok fields) := by
    rw [Field.allTokens_eq]
    cases fields with
    | nil =>
      have shut : Shut 16 tableField ['\x7d'] := by decide
      exact Takes.optional_none (Declines.seq_first (declines_of_shut 16 rfl shut)) rfl
    | cons first others =>
      have closing : Follows 1 (.fixed "\x7d" :: rest) := ⟨_, rest, rfl, by decide, by decide⟩
      have ended : Declines size fieldSeparator (.fixed "\x7d" :: rest) :=
        Declines.choice (declines_fixed (by decide)) (declines_fixed (by decide))
      have items := takes_items (fun _ => Takes.choice_first (Takes.fixed ",")) Nat.one_pos closing
        rfl ended (List.cons_ne_nil first others) fun field member rest follows =>
          takes_field style (writable field member) (each field member) follows
      refine Takes.optional (Takes.regroup (Takes.unextended (items.mono ?_) ended))
      exact fun trees read => readFields_of_forall read
  refine Takes.choice_second (declines_of_shut 2 rfl (by decide)) <|
    Takes.choice_second (declines_of_shut 2 rfl (by decide)) <|
    Takes.choice_second (declines_of_shut 2 rfl (by decide)) <| Takes.choice_first <|
    Takes.rule rfl <| Takes.mark <| Takes.closed (inside.mono ?_)
  intro children read start finish
  refine ⟨_, rfl, ?_⟩
  rw [treeBetween, readExpression, read]
  rfl

/-! ## Expressions -/

/-- The tokens of an expression stand for it at its level, and in front of anything if members and
calls can be taken of it. -/
structure Recovered (size : Nat) (style : Style) (expression : Expression) : Prop where
  enters : Enters size (expression.tokens style) expression expression.level
  suffixed : expression.isBase = true → Suffixed size (expression.tokens style) expression

variable {style}

/-- A recovered expression is read wherever an expression can stand. -/
theorem Recovered.reads (recovered : Recovered size style expression) :
    Reads size .expr (expression.tokens style) expression :=
  (recovered.enters.loosen (Nat.zero_le _)).reads

/-- What stands for an expression most tightly recovers it, if it is no base. -/
theorem Recovered.of_reads (reads : Reads size .unaryExpr (expression.tokens style) expression)
    (tight : expression.level = unaryLevel + 1) (base : expression.isBase = false) :
    Recovered size style expression := by
  constructor
  · rw [tight]
    exact reads
  · rw [base]
    exact nofun

/-- What stands for a base in front of anything recovers it. -/
theorem Recovered.of_suffixed (writable : expression.Writable) (base : expression.isBase = true)
    (suffixed : Suffixed size (expression.tokens style) expression) :
    Recovered size style expression := by
  refine ⟨?_, fun _ => suffixed⟩
  obtain ⟨first, others, spelled, opening⟩ := writable.opening style
  rw [Expression.level_of_isBase base]
  rw [spelled] at suffixed ⊢
  exact suffixed.reads (opening.base base)

/-- Writable expressions are recovered from their tokens. -/
theorem Expression.Writable.recovered {expression : Expression} (writable : expression.Writable) :
    Recovered size style expression := by
  induction expression using Expression.induction with
  | nil => exact .of_reads reads_nil rfl rfl
  | boolean value => exact .of_reads (reads_boolean style value) rfl rfl
  | integer value => exact .of_reads (reads_integer value) rfl rfl
  | number value =>
    obtain ⟨-, free⟩ := writable
    rw [NumberFree] at free
    contradiction
  | text value => exact .of_reads (reads_text style.quote value) rfl rfl
  | varargs => exact .of_reads reads_varargs rfl rfl
  | name name => exact .of_suffixed writable rfl (suffixed_name name)
  | index object key objectRecovered keyRecovered =>
    obtain ⟨base, objectWritable, keyWritable⟩ := writable.of_index
    have objectSuffixed := (objectRecovered objectWritable).suffixed base
    refine .of_suffixed writable rfl ?_
    rw [tokens]
    split
    · next name named =>
      obtain ⟨rfl, -⟩ := style.of_memberName? named
      exact objectSuffixed.point name
    · exact objectSuffixed.bracket (keyRecovered keyWritable).reads
  | call callee arguments calleeRecovered argumentsRecovered =>
    obtain ⟨base, calleeWritable, argumentsWritable⟩ := writable.of_call
    refine .of_suffixed writable rfl ?_
    rw [tokens]
    exact ((calleeRecovered calleeWritable).suffixed base).call style fun argument member =>
      (argumentsRecovered argument member (argumentsWritable argument member)).reads
  | method object name arguments objectRecovered argumentsRecovered =>
    obtain ⟨base, objectWritable, -, argumentsWritable⟩ := writable.of_method
    refine .of_suffixed writable rfl ?_
    rw [tokens]
    exact ((objectRecovered objectWritable).suffixed base).method style fun argument member =>
      (argumentsRecovered argument member (argumentsWritable argument member)).reads
  | binary op left right leftRecovered rightRecovered =>
    obtain ⟨leftTight, rightTight, leftWritable, rightWritable⟩ := writable.of_binary
    have leftEnters := (leftRecovered leftWritable).enters.loosen leftTight
    have rightEnters := (rightRecovered rightWritable).enters.loosen rightTight
    refine ⟨?_, fun base => absurd base Bool.false_ne_true⟩
    rw [tokens]
    exact enters_binary op leftEnters rightEnters
  | unary op operand operandRecovered =>
    obtain ⟨tight, operandWritable⟩ := writable.of_unary
    refine ⟨?_, fun base => absurd base Bool.false_ne_true⟩
    rw [tokens]
    exact reads_unary op ((operandRecovered operandWritable).enters.loosen tight)
  | table fields fieldsRecovered =>
    have fieldsWritable := writable.of_table
    refine .of_reads ?_ rfl rfl
    rw [tokens]
    refine reads_table style fieldsWritable fun field member => ?_
    have recovered := fieldsRecovered field member
    have known := fieldsWritable field member
    cases field with
    | positional value => exact (recovered known).reads
    | keyed key value => exact ⟨(recovered.1 known.1).reads, (recovered.2 known.2).reads⟩
  | paren inner innerRecovered =>
    refine .of_suffixed writable rfl ?_
    rw [tokens]
    exact suffixed_paren (innerRecovered writable.of_paren).reads

end ScriptHost.Script
