import Mathlib.Data.List.Forall2
import ScriptHost.Proofs.Script.Atoms
import ScriptHost.Proofs.Script.Writable

/-!
# Lists, members and calls

Lists are told by the commas between their items. Members and calls follow a name or
parentheses one after another, so what they are taken of is read before the next one is
known.
-/

namespace ScriptHost.Script

open ScriptHost.Grammar

variable {size : Nat} {token : Token} {tokens more rest : List Token} {expression : Expression}

/-! ## Lists -/

section Lists

variable {Value : Type} {spell : Value → List Token} {relation : Value → ChunkTree → Prop}
  {item separator : Expr Rule} {level : Nat}

/-- Trees of one item that has a relation to a value. -/
def Single (relation : Value → ChunkTree → Prop) (value : Value) (trees : List ChunkTree) : Prop :=
  ∃ tree, trees = [tree] ∧ relation value tree

/-- A comma or what follows all the items follows an item. -/
theorem follows_items (positive : 0 < level) (follows : Follows level rest) (parts : List (List Token)) :
    Follows level (parts.flatMap (.fixed "," :: ·) ++ rest) := by
  cases parts with
  | nil => exact follows
  | cons next others => exact ⟨",", _, rfl, by decide, positive⟩

/-- Items behind commas are taken one after another. -/
theorem runs_items (mark : ∀ rest, Takes size separator [.fixed ","] rest (· = []))
    (positive : 0 < level) (follows : Follows level rest) {values : List Value}
    (each : ∀ value ∈ values, ∀ rest, Follows level rest →
      Takes size item (spell value) rest (Single relation value)) :
    Runs size (.seq separator item) ((values.map spell).flatMap (.fixed "," :: ·)) rest
      (List.Forall₂ relation values) := by
  induction values with
  | nil => exact Runs.none .nil
  | cons value others ih =>
    obtain ⟨one, more⟩ := List.forall_mem_cons.mp each
    have between := follows_items positive follows (others.map spell)
    have turn : Takes size (.seq separator item) ([.fixed ","] ++ spell value)
        ((others.map spell).flatMap (.fixed "," :: ·) ++ rest) (Single relation value) := by
      refine Takes.seq (mark _) fun front none => ?_
      rw [none]
      exact one _ between
    refine Runs.turn turn ?_
    rintro _ ⟨tree, rfl, related⟩
    refine (ih more).mono ?_
    exact fun back known => .cons related known

/-- Items with commas between them are taken one after another. -/
theorem takes_items (mark : ∀ rest, Takes size separator [.fixed ","] rest (· = []))
    (positive : 0 < level) (follows : Follows level rest)
    (consuming : (Expr.seq separator item).consumes chunkOrder.solid = true)
    (stopped : Declines size separator rest) {values : List Value} (filled : values ≠ [])
    (each : ∀ value ∈ values, ∀ rest, Follows level rest →
      Takes size item (spell value) rest (Single relation value)) :
    Takes size (Expr.separated item separator) (commaSeparated (values.map spell)) rest
      (List.Forall₂ relation values) := by
  obtain ⟨first, others, rfl⟩ := List.exists_cons_of_ne_nil filled
  obtain ⟨one, more⟩ := List.forall_mem_cons.mp each
  have between := follows_items positive follows (others.map spell)
  refine Takes.seq (one _ between) ?_
  rintro _ ⟨tree, rfl, related⟩
  refine (Takes.many consuming (runs_items mark positive follows more)
    (Declines.seq_first stopped)).mono ?_
  exact fun back known => .cons related known

end Lists

/-- Trees that are read as expressions one by one are read as their list. -/
theorem readExpressions_of_forall {expressions : List Expression} {trees : List ChunkTree}
    (each : List.Forall₂ (fun expression tree => readExpression tree = .ok expression) expressions
      trees) : readExpressions trees = .ok expressions := by
  induction each with
  | nil => rfl
  | cons read _ ih =>
    rw [readExpressions, read, ih]
    rfl

/-- Trees of a list of expressions. -/
def ListedAs (expressions : List Expression) (trees : List ChunkTree) : Prop :=
  ∃ start width children, trees = [.node .exprList start width children] ∧
    readExpressions children = .ok expressions

variable (style : Style)

/-- A list of expressions is read in front of a closing token. -/
theorem takes_exprList {expressions : List Expression} (filled : expressions ≠ [])
    (each : ∀ expression ∈ expressions, Reads size .expr (expression.tokens style) expression)
    {closing : String} (known : closing ∈ fixedTexts) (loose : grip closing = 0)
    (foreign : isForeign "," closing = true) :
    Takes size (.rule .exprList) (Expression.listTokens style expressions) (.fixed closing :: rest)
      (ListedAs expressions) := by
  have follows : Follows 1 (.fixed closing :: rest) := ⟨closing, rest, rfl, known, by omega⟩
  rw [Expression.listTokens, Expression.allTokens_eq]
  refine Takes.rule rfl ((takes_items (fun _ => Takes.fixed ",") Nat.one_pos follows rfl
    (declines_fixed foreign) filled fun expression member => each expression member).mono ?_)
  exact fun children read start finish => ⟨start, _, children, rfl, readExpressions_of_forall read⟩

/-! ## Members and calls -/

/-- Arguments in parentheses are read. -/
theorem takes_callArgs {arguments : List Expression}
    (each : ∀ argument ∈ arguments, Reads size .expr (argument.tokens style) argument) :
    Takes size (.rule .callArgs)
      (.fixed "(" :: (commaSeparated (Expression.allTokens style arguments) ++ [.fixed ")"])) rest
      (readArguments · = .ok arguments) := by
  refine Takes.rule rfl (Takes.choice_first (Takes.mark (Takes.closed ?_)))
  cases arguments with
  | nil =>
    have shut : Shut 14 (.rule .exprList) [')'] := by decide
    exact Takes.optional_none (declines_of_shut 14 rfl shut) fun _ _ => rfl
  | cons first others =>
    refine Takes.optional ((takes_exprList style (by simp) each (by decide) rfl (by decide)).mono ?_)
    rintro _ ⟨start, width, children, rfl, read⟩ _ _
    exact read

/-- Members and calls that are read one after the other are read together. -/
theorem readSuffixes_append {front : List ChunkTree} {object middle : Expression}
    (back : List ChunkTree) (read : readSuffixes object front = .ok middle) :
    readSuffixes object (front ++ back) = readSuffixes middle back := by
  induction front generalizing object with
  | nil =>
    rw [readSuffixes] at read
    obtain rfl := Except.ok.inj read
    rfl
  | cons tree rest ih =>
    obtain ⟨rule, start, width, children⟩ := tree
    rw [readSuffixes.eq_def] at read
    rw [List.cons_append, readSuffixes.eq_def]
    dsimp only at read ⊢
    split at read
    · exact ih read
    · obtain ⟨key, keyRead, further⟩ := Reading.of_bind read
      rw [keyRead]
      exact ih further
    · obtain ⟨arguments, argumentsRead, further⟩ := Reading.of_bind read
      rw [argumentsRead]
      exact ih further
    · obtain ⟨arguments, argumentsRead, further⟩ := Reading.of_bind read
      rw [argumentsRead]
      exact ih further
    · contradiction

/-- A name or parentheses with what follows grows by a member or a call. -/
theorem readSuffixed_append {trees : List ChunkTree} {object : Expression} (back : List ChunkTree)
    (read : readSuffixed trees = .ok object) :
    readSuffixed (trees ++ back) = readSuffixes object back := by
  rw [readSuffixed.eq_def] at read
  split at read
  · rw [List.cons_append, readSuffixed]
    exact readSuffixes_append back read
  · obtain ⟨inner, innerRead, further⟩ := Reading.of_bind read
    rw [List.cons_append, readSuffixed, innerRead]
    exact readSuffixes_append back further
  · contradiction

/-- Tokens stand for an expression that members and calls can be taken of, in front of anything. -/
def Suffixed (size : Nat) (tokens : List Token) (expression : Expression) : Prop :=
  ∀ rest, Begins size (.choice (.rule .name) (.rule .parenExpr)) suffix tokens rest
    (readSuffixed · = .ok expression)

/-- A name is read. -/
theorem suffixed_name (name : String) : Suffixed size [.name name] (.name name) := by
  intro rest
  refine Begins.start (Takes.choice_first (takes_name.mono ?_))
  rintro _ ⟨start, width, rfl, rfl⟩
  rfl

/-- What stands in parentheses is read. -/
theorem suffixed_paren (reads : Reads size .expr tokens expression) :
    Suffixed size (.fixed "(" :: (tokens ++ [.fixed ")"])) (.paren expression) := by
  intro rest
  have closing : Follows 1 (.fixed ")" :: rest) := ⟨")", rest, rfl, by decide, by decide⟩
  refine Begins.start (Takes.choice_second (declines_name nofun) <| Takes.rule rfl <|
    Takes.mark (Takes.closed ((reads _ closing).mono ?_)))
  rintro _ ⟨tree, rfl, read⟩ start finish
  show readSuffixed [.node .parenExpr _ _ [tree]] = _
  rw [readSuffixed, readFirst, read]
  rfl

/-- A member or a call is read behind what it is taken of. -/
theorem Suffixed.extend {object : Expression} (suffixed : Suffixed size tokens object)
    (takes : ∀ rest, Takes size suffix more rest (readSuffixes object · = .ok expression)) :
    Suffixed size (tokens ++ more) expression := by
  intro rest
  refine Begins.last (suffixed _) fun front read => (takes rest).mono fun back further => ?_
  rw [readSuffixed_append back read]
  exact further

/-- A member is read by its name. -/
theorem Suffixed.point {object : Expression} (suffixed : Suffixed size tokens object)
    (name : String) :
    Suffixed size (tokens ++ [.fixed ".", .name name]) (.index object (.text name)) := by
  refine suffixed.extend fun rest => Takes.choice_first (Takes.rule rfl ?_)
  refine Takes.glance (declines_fixed (by decide)) (Takes.mark (takes_name.mono ?_))
  rintro _ ⟨start, width, rfl, rfl⟩ _ _
  rfl

/-- A member is read by its key. -/
theorem Suffixed.bracket {object key : Expression} (suffixed : Suffixed size tokens object)
    (reads : Reads size .expr more key) :
    Suffixed size (tokens ++ .fixed "[" :: (more ++ [.fixed "]"])) (.index object key) := by
  refine suffixed.extend fun rest => ?_
  have closing : Follows 1 (.fixed "]" :: rest) := ⟨"]", rest, rfl, by decide, by decide⟩
  refine Takes.choice_second (declines_of_shut 2 rfl (by decide)) <| Takes.choice_first <|
    Takes.rule rfl <| Takes.mark (Takes.closed ((reads _ closing).mono ?_))
  rintro _ ⟨tree, rfl, read⟩ start finish
  show readSuffixes object [.node .indexSuffix _ _ [tree]] = _
  rw [readSuffixes, read]
  rfl

/-- A call is read. -/
theorem Suffixed.call {callee : Expression} {arguments : List Expression}
    (suffixed : Suffixed size tokens callee)
    (each : ∀ argument ∈ arguments, Reads size .expr (argument.tokens style) argument) :
    Suffixed size
      (tokens ++
        .fixed "(" :: (commaSeparated (Expression.allTokens style arguments) ++ [.fixed ")"]))
      (.call callee arguments) := by
  refine suffixed.extend fun rest => ?_
  refine Takes.choice_second (declines_of_shut 2 rfl (by decide)) <|
    Takes.choice_second (declines_of_shut 2 rfl (by decide)) <|
    Takes.choice_second (declines_of_shut 2 rfl (by decide)) <|
    Takes.rule rfl ((takes_callArgs style each).mono ?_)
  intro trees read start finish
  show readSuffixes callee [.node .call _ _ trees] = _
  rw [readSuffixes, read]
  rfl

/-- A method call is read. -/
theorem Suffixed.method {object : Expression} {name : String} {arguments : List Expression}
    (suffixed : Suffixed size tokens object)
    (each : ∀ argument ∈ arguments, Reads size .expr (argument.tokens style) argument) :
    Suffixed size
      (tokens ++ .fixed ":" :: .name name ::
        .fixed "(" :: (commaSeparated (Expression.allTokens style arguments) ++ [.fixed ")"]))
      (.method object name arguments) := by
  refine suffixed.extend fun rest => ?_
  refine Takes.choice_second (declines_of_shut 2 rfl (by decide)) <|
    Takes.choice_second (declines_of_shut 2 rfl (by decide)) <| Takes.choice_first <|
    Takes.rule rfl <| Takes.mark <| Takes.seq takes_name ?_
  rintro _ ⟨begin, extent, rfl, rfl⟩
  refine (takes_callArgs style each).mono ?_
  intro trees read start finish
  show readSuffixes object [.node .methodCall _ _ (.node .name begin extent [] :: trees)] = _
  rw [readSuffixes, read]
  rfl

/-- Trees of a name or parentheses with what follows. -/
def SuffixedAs (expression : Expression) (trees : List ChunkTree) : Prop :=
  ∃ start width children, trees = [.node .suffixedExpr start width children] ∧
    readSuffixed children = .ok expression

/-- Members and calls are taken up to what binds like an operator. -/
theorem Suffixed.takes (suffixed : Suffixed size tokens expression)
    (follows : Follows (unaryLevel + 1) rest) :
    Takes size (.rule .suffixedExpr) tokens rest (SuffixedAs expression) := by
  refine Takes.rule rfl ((Begins.stop rfl (suffixed rest) (declines_suffix follows)).mono ?_)
  exact fun children read start finish => ⟨start, _, children, rfl, read⟩

/-- What starts with a name or parentheses is read as an operand. -/
theorem Suffixed.reads (suffixed : Suffixed size (token :: tokens) expression)
    (opens : token.opensBase = true) : Reads size .unaryExpr (token :: tokens) expression := by
  have other (text : String) (differs : text ≠ "(") : token ≠ .fixed text := by
    rintro rfl
    exact differs (by simpa [Token.opensBase] using opens)
  have declined (expr : Expr Rule) (turns : expr.turnsConsume chunkOrder.solid = true)
      (parenthesis : Shut 2 expr ['(']) (names : Shut 2 expr nameOpenings) (rest : List Token) :
      Declines size expr (token :: rest) := by
    refine declines_of_shut 2 turns ?_
    cases token with
    | fixed text =>
      obtain rfl : text = "(" := by simpa [Token.opensBase] using opens
      exact parenthesis
    | name text => exact names
    | integer | literal => contradiction
  refine reads_wordless (other "-" (by decide)) ?_ fun rest follows => ?_
  · exact fun word reserved => other word (by rintro rfl; exact absurd reserved (by decide))
  · refine Takes.choice_second (declined _ rfl (by decide) (by decide) _) <|
      Takes.choice_second (declined _ rfl (by decide) (by decide) _) <|
      Takes.choice_second (declined _ rfl (by decide) (by decide) _) <|
      Takes.choice_second (declined _ rfl (by decide) (by decide) _) <|
      (suffixed.takes follows).mono ?_
    rintro _ ⟨start, width, children, rfl, read⟩
    exact ⟨_, rfl, read⟩

end ScriptHost.Script
