import ScriptHost.Proofs.Script.Upcoming

/-!
# The tokens of writable scripts

A script can be written with tokens if it is well-formed and has no number literals other
than integers. Its tokens are all ones that scripts can have, and how the tokens of an
expression start tells it from everything else that can stand in its place.
-/

namespace ScriptHost.Script

/-! ## Induction over expressions -/

/-- A property of the expressions in a field. -/
def Field.Each (property : Expression → Prop) : Field → Prop
  | .positional value => property value
  | .keyed key value => property key ∧ property value

/-- A property holds of every expression, if it holds of each one whose parts have it. -/
@[elab_as_elim]
theorem Expression.induction {motive : Expression → Prop}
    (nil : motive .nil) (boolean : ∀ value, motive (.boolean value))
    (integer : ∀ value, motive (.integer value)) (number : ∀ value, motive (.number value))
    (text : ∀ value, motive (.text value)) (varargs : motive .varargs)
    (name : ∀ name, motive (.name name))
    (index : ∀ object key, motive object → motive key → motive (.index object key))
    (call : ∀ callee arguments, motive callee → (∀ argument ∈ arguments, motive argument) →
      motive (.call callee arguments))
    (method : ∀ object name arguments, motive object →
      (∀ argument ∈ arguments, motive argument) → motive (.method object name arguments))
    (binary : ∀ op left right, motive left → motive right → motive (.binary op left right))
    (unary : ∀ op operand, motive operand → motive (.unary op operand))
    (table : ∀ fields, (∀ field ∈ fields, Field.Each motive field) → motive (.table fields))
    (paren : ∀ inner, motive inner → motive (.paren inner)) (expression : Expression) :
    motive expression :=
  @Expression.rec motive (Field.Each motive) (∀ expression ∈ ·, motive expression)
    (∀ field ∈ ·, Field.Each motive field) nil boolean integer number text varargs name index call
    method binary unary table paren (fun _ => id) (fun _ _ => And.intro) nofun
    (fun _ _ first rest => List.forall_mem_cons.mpr ⟨first, rest⟩) nofun
    (fun _ _ first rest => List.forall_mem_cons.mpr ⟨first, rest⟩) expression

/-! ## Writable expressions -/

/-- An expression that can be written with tokens. -/
def Expression.Writable (expression : Expression) : Prop :=
  expression.WellFormed ∧ expression.NumberFree

/-- A field that can be written with tokens. -/
def Field.Writable (field : Field) : Prop := field.Each Expression.Writable

/-- Expressions are writable where each of them is. -/
theorem Expression.allWritable_iff (expressions : List Expression) :
    AllWellFormed expressions ∧ AllNumberFree expressions ↔
      ∀ expression ∈ expressions, expression.Writable := by
  induction expressions with
  | nil => simp [AllWellFormed, AllNumberFree]
  | cons first rest ih =>
    rw [AllWellFormed, AllNumberFree, List.forall_mem_cons, ← ih, Writable]
    exact and_and_and_comm

/-- Fields are writable where each of them is. -/
theorem Field.allWritable_iff (fields : List Field) :
    AllWellFormed fields ∧ AllNumberFree fields ↔ ∀ field ∈ fields, field.Writable := by
  induction fields with
  | nil => simp [AllWellFormed, AllNumberFree]
  | cons first rest ih =>
    rw [List.forall_mem_cons, ← ih]
    cases first with
    | positional value =>
      rw [AllWellFormed, AllNumberFree]
      exact and_and_and_comm
    | keyed key value =>
      rw [AllWellFormed, AllNumberFree]
      constructor
      · rintro ⟨⟨keyFormed, formed, restFormed⟩, keyFree, free, restFree⟩
        exact ⟨⟨⟨keyFormed, keyFree⟩, formed, free⟩, restFormed, restFree⟩
      · rintro ⟨⟨⟨keyFormed, keyFree⟩, formed, free⟩, restFormed, restFree⟩
        exact ⟨⟨keyFormed, formed, restFormed⟩, keyFree, free, restFree⟩

namespace Expression.Writable

/-- What a member is taken of is a base. -/
theorem of_index {object key : Expression} (writable : (Expression.index object key).Writable) :
    object.isBase = true ∧ object.Writable ∧ key.Writable := by
  obtain ⟨⟨base, objectFormed, keyFormed⟩, objectFree, keyFree⟩ := writable
  exact ⟨base, ⟨objectFormed, objectFree⟩, keyFormed, keyFree⟩

/-- What is called is a base. -/
theorem of_call {callee : Expression} {arguments : List Expression}
    (writable : (Expression.call callee arguments).Writable) :
    callee.isBase = true ∧ callee.Writable ∧ ∀ argument ∈ arguments, argument.Writable := by
  obtain ⟨⟨base, calleeFormed, formed⟩, calleeFree, free⟩ := writable
  exact ⟨base, ⟨calleeFormed, calleeFree⟩, (allWritable_iff arguments).mp ⟨formed, free⟩⟩

/-- What a method is called of is a base, and the method has a name. -/
theorem of_method {object : Expression} {name : String} {arguments : List Expression}
    (writable : (Expression.method object name arguments).Writable) :
    object.isBase = true ∧ object.Writable ∧ isName name = true ∧
      ∀ argument ∈ arguments, argument.Writable := by
  obtain ⟨⟨base, objectFormed, named, formed⟩, objectFree, free⟩ := writable
  exact ⟨base, ⟨objectFormed, objectFree⟩, named, (allWritable_iff arguments).mp ⟨formed, free⟩⟩

/-- The operands of an operator bind as tightly as it asks for. -/
theorem of_binary {op : BinaryOperator} {left right : Expression}
    (writable : (Expression.binary op left right).Writable) :
    op.leftLevel ≤ left.level ∧ op.rightLevel ≤ right.level ∧ left.Writable ∧ right.Writable := by
  obtain ⟨⟨leftTight, rightTight, leftFormed, rightFormed⟩, leftFree, rightFree⟩ := writable
  exact ⟨leftTight, rightTight, ⟨leftFormed, leftFree⟩, rightFormed, rightFree⟩

/-- The operand of a sign or a negation binds as tightly as it asks for. -/
theorem of_unary {op : UnaryOperator} {operand : Expression}
    (writable : (Expression.unary op operand).Writable) :
    unaryLevel ≤ operand.level ∧ operand.Writable := by
  obtain ⟨⟨tight, formed⟩, free⟩ := writable
  exact ⟨tight, formed, free⟩

/-- The fields of a table are writable. -/
theorem of_table {fields : List Field} (writable : (Expression.table fields).Writable) :
    ∀ field ∈ fields, field.Writable := (Field.allWritable_iff fields).mp writable

/-- What stands in parentheses is writable. -/
theorem of_paren {inner : Expression} (writable : (Expression.paren inner).Writable) :
    inner.Writable := writable

end Expression.Writable

/-! ## Tokens of lists -/

variable (style : Style)

/-- The tokens of a field. -/
def Field.tokens : Field → List Token
  | .positional value => value.tokens style
  | .keyed key value =>
    match style.fieldName? key with
    | some name => .name name :: .fixed "=" :: value.tokens style
    | none => .fixed "[" :: (key.tokens style ++ .fixed "]" :: .fixed "=" :: value.tokens style)

/-- The tokens of expressions are those of each. -/
theorem Expression.allTokens_eq (expressions : List Expression) :
    allTokens style expressions = expressions.map (Expression.tokens style) := by
  induction expressions with
  | nil => rw [allTokens, List.map_nil]
  | cons first rest ih => rw [allTokens, ih, List.map_cons]

/-- The tokens of fields are those of each. -/
theorem Field.allTokens_eq (fields : List Field) :
    allTokens style fields = fields.map (Field.tokens style) := by
  induction fields with
  | nil => rw [allTokens, List.map_nil]
  | cons first rest ih =>
    cases first with
    | positional value => rw [allTokens, ih, List.map_cons, Field.tokens]
    | keyed key value =>
      rw [allTokens, List.map_cons]
      exact congrArg (List.cons _) ih

/-- The name that a key is written with is one, and the key is its text. -/
theorem Expression.of_keyName? {key : Expression} {name : String} (named : key.keyName? = some name) :
    key = .text name ∧ isName name = true := by
  cases key <;> first | contradiction | skip
  case text value =>
    rw [keyName?] at named
    split at named
    · next proper =>
      obtain rfl := Option.some.inj named
      exact ⟨rfl, proper⟩
    · contradiction

/-- The name that a member is written with is its key. -/
theorem Style.of_memberName? {key : Expression} {name : String}
    (named : style.memberName? key = some name) : key = .text name ∧ isName name = true := by
  rw [memberName?] at named
  split at named
  · exact Expression.of_keyName? named
  · contradiction

/-- The name that a field is written with is its key. -/
theorem Style.of_fieldName? {key : Expression} {name : String}
    (named : style.fieldName? key = some name) : key = .text name ∧ isName name = true := by
  rw [fieldName?] at named
  split at named
  · exact Expression.of_keyName? named
  · contradiction

/-! ## Valid tokens -/

/-- Tokens that scripts can have. -/
def AllValid (tokens : List Token) : Prop := ∀ token ∈ tokens, token.Valid

/-- Tokens are valid where those of each part are. -/
theorem AllValid.append {front back : List Token} (first : AllValid front) (second : AllValid back) :
    AllValid (front ++ back) := List.forall_mem_append.mpr ⟨first, second⟩

/-- A fixed token can stand in front of tokens. -/
theorem AllValid.fixed {text : String} (known : text ∈ fixedTexts) {tokens : List Token}
    (valid : AllValid tokens) : AllValid (.fixed text :: tokens) :=
  List.forall_mem_cons.mpr ⟨known, valid⟩

/-- A name can stand in front of tokens. -/
theorem AllValid.name {text : String} (named : isName text = true) {tokens : List Token}
    (valid : AllValid tokens) : AllValid (.name text :: tokens) :=
  List.forall_mem_cons.mpr ⟨named, valid⟩

/-- No tokens are valid. -/
theorem allValid_nil : AllValid [] := List.forall_mem_nil _

/-- The quote of a style is one. -/
theorem Style.isQuote_quote : IsQuote style.quote := by
  unfold IsQuote quote
  cases style.single
  · exact .inl rfl
  · exact .inr rfl

/-- The symbol of an operator is a fixed token. -/
theorem BinaryOperator.symbol_mem (op : BinaryOperator) : op.symbol ∈ fixedTexts := by
  cases op <;> decide

/-- The symbol of an operator is a fixed token. -/
theorem UnaryOperator.symbol_mem (op : UnaryOperator) : op.symbol ∈ fixedTexts := by
  cases op <;> decide

/-- Parts with commas between them are valid where each of them is. -/
theorem allValid_commaSeparated {parts : List (List Token)} (valid : ∀ part ∈ parts, AllValid part) :
    AllValid (commaSeparated parts) := by
  cases parts with
  | nil => exact allValid_nil
  | cons first rest =>
    obtain ⟨one, others⟩ := List.forall_mem_cons.mp valid
    refine one.append fun token member => ?_
    obtain ⟨part, known, inside⟩ := List.mem_flatMap.mp member
    exact (others part known).fixed (by decide) token inside

/-- The tokens of expressions with commas between them are valid where those of each are. -/
theorem allValid_listTokens {expressions : List Expression}
    (valid : ∀ expression ∈ expressions, AllValid (expression.tokens style)) :
    AllValid (commaSeparated (Expression.allTokens style expressions)) := by
  rw [Expression.allTokens_eq]
  exact allValid_commaSeparated (List.forall_mem_map.mpr valid)

/-- The tokens of a field are valid where those of its expressions are. -/
theorem Field.allValid {field : Field}
    (valid : field.Each fun expression => AllValid (expression.tokens style)) :
    AllValid (field.tokens style) := by
  cases field with
  | positional value => exact valid
  | keyed key value =>
    rw [tokens]
    split
    · next name named =>
      exact (valid.2.fixed (by decide)).name (style.of_fieldName? named).2
    · exact (valid.1.append ((valid.2.fixed (by decide)).fixed (by decide))).fixed (by decide)

/-- The tokens of a writable expression are valid. -/
theorem Expression.Writable.allValid {expression : Expression} (writable : expression.Writable) :
    AllValid (expression.tokens style) := by
  induction expression using Expression.induction with
  | nil | varargs => exact allValid_nil.fixed (by decide)
  | boolean value => cases value <;> exact allValid_nil.fixed (by decide)
  | integer value =>
    obtain ⟨formed, -⟩ := writable
    rw [WellFormed] at formed
    exact List.forall_mem_singleton.mpr formed
  | number value =>
    obtain ⟨-, free⟩ := writable
    rw [NumberFree] at free
    contradiction
  | text value => exact List.forall_mem_singleton.mpr style.isQuote_quote
  | name name =>
    obtain ⟨formed, -⟩ := writable
    rw [WellFormed] at formed
    exact allValid_nil.name formed
  | index object key objectValid keyValid =>
    obtain ⟨-, objectWritable, keyWritable⟩ := writable.of_index
    rw [tokens]
    refine (objectValid objectWritable).append ?_
    split
    · next name named =>
      exact (allValid_nil.name (style.of_memberName? named).2).fixed (by decide)
    · exact ((keyValid keyWritable).append (allValid_nil.fixed (by decide))).fixed (by decide)
  | call callee arguments calleeValid argumentsValid =>
    obtain ⟨-, calleeWritable, writable⟩ := writable.of_call
    have inside := allValid_listTokens style fun argument member =>
      argumentsValid argument member (writable argument member)
    rw [tokens]
    refine (calleeValid calleeWritable).append ?_
    exact (inside.append (allValid_nil.fixed (by decide))).fixed (by decide)
  | method object name arguments objectValid argumentsValid =>
    obtain ⟨-, objectWritable, named, writable⟩ := writable.of_method
    have inside := allValid_listTokens style fun argument member =>
      argumentsValid argument member (writable argument member)
    rw [tokens]
    refine (objectValid objectWritable).append ?_
    exact (((inside.append (allValid_nil.fixed (by decide))).fixed (by decide)).name named).fixed
      (by decide)
  | binary op left right leftValid rightValid =>
    obtain ⟨-, -, leftWritable, rightWritable⟩ := writable.of_binary
    rw [tokens]
    exact (leftValid leftWritable).append ((rightValid rightWritable).fixed op.symbol_mem)
  | unary op operand operandValid =>
    rw [tokens]
    exact (operandValid writable.of_unary.2).fixed op.symbol_mem
  | table fields fieldsValid =>
    have inside : AllValid (commaSeparated (Field.allTokens style fields)) := by
      rw [Field.allTokens_eq]
      refine allValid_commaSeparated (List.forall_mem_map.mpr fun field member => ?_)
      have known := writable.of_table field member
      refine Field.allValid style ?_
      cases field with
      | positional value => exact fieldsValid _ member known
      | keyed key value =>
        exact ⟨(fieldsValid _ member).1 known.1, (fieldsValid _ member).2 known.2⟩
    rw [tokens]
    exact (inside.append (allValid_nil.fixed (by decide))).fixed (by decide)
  | paren inner innerValid =>
    rw [tokens]
    exact ((innerValid writable.of_paren).append (allValid_nil.fixed (by decide))).fixed (by decide)

/-! ## First tokens -/

/-- Whether an expression can start with a token. -/
def Token.opens : Token → Bool
  | fixed text => ["nil", "true", "false", "...", "-", "not", "(", "\x7b"].contains text
  | _ => true

/-- Whether a base can start with a token: a name or an opening parenthesis. -/
def Token.opensBase : Token → Bool
  | fixed text => text == "("
  | name _ => true
  | _ => false

/-- The first token of an expression and the others. No `=` follows a name. -/
structure Opening (expression : Expression) (first : Token) (others : List Token) : Prop where
  opens : first.opens = true
  base : expression.isBase = true → first.opensBase = true
  unassigned : ∀ name, first = .name name → others.head? ≠ some (.fixed "=")

/-- What extends an expression keeps its first token. -/
theorem Opening.extend {expression longer : Expression} {first mark : Token}
    {others tokens : List Token} (opening : Opening expression first others)
    (base : longer.isBase = true → expression.isBase = true) (plain : mark ≠ .fixed "=") :
    Opening longer first (others ++ mark :: tokens) := by
  refine ⟨opening.opens, fun known => opening.base (base known), fun name same => ?_⟩
  cases others with
  | nil => exact fun marked => plain (Option.some.inj marked)
  | cons second rest => exact opening.unassigned name same

/-- What starts with a fixed token is opened by it. -/
theorem Opening.of_fixed {expression : Expression} {text : String} {others : List Token}
    (opens : (Token.fixed text).opens = true)
    (base : expression.isBase = true → (Token.fixed text).opensBase = true) :
    Opening expression (.fixed text) others := ⟨opens, base, nofun⟩

/-- The symbol of an operator is no `=`. -/
theorem BinaryOperator.symbol_ne (op : BinaryOperator) : Token.fixed op.symbol ≠ .fixed "=" := by
  cases op <;> decide

/-- The tokens of a writable expression have an opening. -/
theorem Expression.Writable.opening {expression : Expression} (writable : expression.Writable) :
    ∃ first others, expression.tokens style = first :: others ∧ Opening expression first others := by
  induction expression using Expression.induction with
  | nil | varargs => exact ⟨_, _, rfl, .of_fixed (by decide) nofun⟩
  | boolean value => cases value <;> exact ⟨_, _, rfl, .of_fixed (by decide) nofun⟩
  | integer value => exact ⟨_, _, rfl, rfl, nofun, nofun⟩
  | number value =>
    obtain ⟨-, free⟩ := writable
    rw [NumberFree] at free
    contradiction
  | text value => exact ⟨_, _, rfl, rfl, nofun, nofun⟩
  | name name => exact ⟨_, _, rfl, rfl, fun _ => rfl, nofun⟩
  | index object key objectOpening _ =>
    obtain ⟨base, objectWritable, -⟩ := writable.of_index
    obtain ⟨first, others, spelled, opening⟩ := objectOpening objectWritable
    rw [tokens, spelled]
    split
    · exact ⟨first, _, rfl, opening.extend (fun _ => base) (by decide)⟩
    · exact ⟨first, _, rfl, opening.extend (fun _ => base) (by decide)⟩
  | call callee arguments calleeOpening _ =>
    obtain ⟨base, calleeWritable, -⟩ := writable.of_call
    obtain ⟨first, others, spelled, opening⟩ := calleeOpening calleeWritable
    rw [tokens, spelled]
    exact ⟨first, _, rfl, opening.extend (fun _ => base) (by decide)⟩
  | method object name arguments objectOpening _ =>
    obtain ⟨base, objectWritable, -⟩ := writable.of_method
    obtain ⟨first, others, spelled, opening⟩ := objectOpening objectWritable
    rw [tokens, spelled]
    exact ⟨first, _, rfl, opening.extend (fun _ => base) (by decide)⟩
  | binary op left right leftOpening _ =>
    obtain ⟨-, -, leftWritable, -⟩ := writable.of_binary
    obtain ⟨first, others, spelled, opening⟩ := leftOpening leftWritable
    rw [tokens, spelled]
    exact ⟨first, _, rfl, opening.extend nofun op.symbol_ne⟩
  | unary op operand _ =>
    rw [tokens]
    cases op <;> exact ⟨_, _, rfl, .of_fixed (by decide) nofun⟩
  | table fields _ =>
    rw [tokens]
    exact ⟨_, _, rfl, .of_fixed (by decide) nofun⟩
  | paren inner _ =>
    rw [tokens]
    exact ⟨_, _, rfl, .of_fixed (by decide) fun _ => by decide⟩

end ScriptHost.Script
