import ScriptHost.Proofs.Script.Leaves

/-!
# The shapes of trees

The rules that stand at the roots of a tree's children follow from the rule of the tree:
operands with operators between them, items with separators between them, a base with what
follows it.
-/

namespace ScriptHost.Script

open ScriptHost.Grammar

/-- The rules whose trees are read as expressions. -/
def isExpressionRule : Rule → Bool
  | .expr | .orExpr | .andExpr | .cmpExpr | .concatExpr | .addExpr | .mulExpr | .unaryExpr
  | .nilLiteral | .trueLiteral | .falseLiteral | .integer | .hexInteger | .float | .string
  | .varargs | .tableConstructor | .suffixedExpr => true
  | _ => false

/-- The rules of the operands between the operators of a level. -/
def operandRule : Rule → Rule
  | .orOp => .andExpr
  | .andOp => .cmpExpr
  | .cmpOp => .concatExpr
  | .addOp => .mulExpr
  | _ => .unaryExpr

/-- Operators and operands in turn. -/
def Alternates (operator operand : Rule) : List Rule → Prop
  | [] => True
  | [_] => False
  | first :: second :: rest => first = operator ∧ second = operand ∧ Alternates operator operand rest

/-- Turns that consist of an operator and an operand alternate. -/
theorem alternates_of_yields {operator operand : Rule} {roots : List Rule}
    (yields : (Expr.many (.seq (.rule operator) (.rule operand))).Yields roots) :
    Alternates operator operand roots := by
  obtain ⟨turns, rfl, each⟩ := yields
  induction turns with
  | nil => trivial
  | cons turn turns ih =>
    obtain ⟨this, others⟩ := List.forall_mem_cons.mp each
    obtain ⟨_, _, rfl, rfl, rfl⟩ := this
    exact ⟨rfl, rfl, ih others⟩

/-- What holds of the rules of every turn holds of all the rules of a repetition. -/
theorem forall_of_yields_many {inner : Expr Rule} {property : Rule → Prop} {roots : List Rule}
    (turns : ∀ turn, inner.Yields turn → ∀ root ∈ turn, property root)
    (yields : (Expr.many inner).Yields roots) : ∀ root ∈ roots, property root := by
  obtain ⟨parts, rfl, each⟩ := yields
  intro root member
  obtain ⟨turn, known, inside⟩ := List.mem_flatten.mp member
  exact turns turn (each turn known) root inside

/-- A list of one rule with separators between the items has only trees of that rule, and one at
least. -/
theorem of_yields_separated {item : Rule} {separator : String} {roots : List Rule}
    (yields : (Expr.separated (.rule item) (.lit separator)).Yields roots) :
    roots ≠ [] ∧ ∀ root ∈ roots, root = item := by
  obtain ⟨_, rest, rfl, rfl, turns⟩ := yields
  refine ⟨by simp, List.forall_mem_cons.mpr ⟨rfl, ?_⟩⟩
  refine forall_of_yields_many ?_ turns
  rintro _ ⟨_, _, rfl, rfl, rfl⟩ root member
  exact List.mem_singleton.mp member

/-- A level of operators stands between operands of the next level. -/
theorem ruleLevel_operandRule {operator : Rule} (chained : isChainOperator operator = true) :
    isExpressionRule (operandRule operator) = true ∧
      ruleLevel (operandRule operator) = ruleLevel operator + 1 := by
  cases operator <;> first | contradiction | exact ⟨rfl, rfl⟩

/-- The rules of the fields of a table. -/
def isFieldRule : Rule → Bool
  | .keyedField | .namedField | .positionalField => true
  | _ => false

/-- The trees of a table constructor are fields. -/
theorem isFieldRule_of_yields {roots : List Rule}
    (yields : Rule.tableConstructor.body.Yields roots) :
    ∀ root ∈ roots, isFieldRule root = true := by
  have single (turn : List Rule) (one : tableField.Yields turn) :
      ∀ root ∈ turn, isFieldRule root = true := by
    rcases one with rfl | rfl | rfl <;> decide
  obtain ⟨_, _, rfl, rfl, _, _, rfl, fields, rfl⟩ := yields
  rw [List.nil_append, List.append_nil]
  rcases fields with rfl | ⟨first, _, rfl, one, more, last, rfl, turns, trailing⟩
  · simp
  · have others : ∀ root ∈ more, isFieldRule root = true := by
      refine forall_of_yields_many (fun turn one => ?_) turns
      obtain ⟨_, _, rfl, separator, one⟩ := one
      rcases separator with rfl | rfl <;> exact single _ one
    obtain rfl : last = [] := by
      rcases trailing with rfl | rfl | rfl <;> rfl
    rw [List.append_nil]
    intro root member
    exact (List.mem_append.mp member).elim (single first one root) (others root)

/-- The rules of members and calls. -/
def isSuffixRule : Rule → Bool
  | .fieldSuffix | .indexSuffix | .methodCall | .call => true
  | _ => false

/-- Members and calls follow a name or parentheses. -/
theorem of_yields_suffixed {roots : List Rule} (yields : Rule.suffixedExpr.body.Yields roots) :
    ∃ first rest, roots = first :: rest ∧ (first = .name ∨ first = .parenExpr) ∧
      ∀ root ∈ rest, isSuffixRule root = true := by
  obtain ⟨_, rest, rfl, first, turns⟩ := yields
  have suffixes : ∀ root ∈ rest, isSuffixRule root = true := by
    refine forall_of_yields_many (fun turn one => ?_) turns
    rcases one with rfl | rfl | rfl | rfl <;> decide
  rcases first with rfl | rfl
  · exact ⟨.name, rest, rfl, .inl rfl, suffixes⟩
  · exact ⟨.parenExpr, rest, rfl, .inr rfl, suffixes⟩

/-- The rules of operands without a sign. -/
def isAtomRule : Rule → Bool
  | .nilLiteral | .trueLiteral | .falseLiteral | .integer | .hexInteger | .float | .string
  | .varargs | .tableConstructor | .suffixedExpr => true
  | _ => false

/-- A sign or a negation has an operand, and any other operand is alone. -/
theorem of_yields_unary {roots : List Rule} (yields : Rule.unaryExpr.body.Yields roots) :
    roots = [.unaryOp, .unaryExpr] ∨ ∃ root, roots = [root] ∧ isAtomRule root = true := by
  rcases yields with ⟨_, _, rfl, rfl, rfl⟩ | yields
  · exact .inl rfl
  · rcases yields with rfl | rfl | rfl | (rfl | rfl | rfl) | rfl | rfl | rfl | rfl
    all_goals exact .inr ⟨_, rfl, rfl⟩

/-- Operands without a sign are expressions and bind most tightly. -/
theorem ruleLevel_of_isAtomRule {rule : Rule} (atomic : isAtomRule rule = true) :
    isExpressionRule rule = true ∧ rule ≠ .unaryOp ∧ unaryLevel ≤ ruleLevel rule := by
  cases rule <;> first | contradiction | decide

/-- The rules of statements. -/
def isStatementRule : Rule → Bool
  | .localStatement | .assignment | .callStatement => true
  | _ => false

/-- The rule of a tree is the one at its root. -/
theorem treeRule_eq_root (tree : ChunkTree) : treeRule tree = tree.root := by
  cases tree
  rfl

/-- A tree of a name covers a name. -/
theorem isName_nameOf {size : Nat} {tree : ChunkTree} (grown : Grown size tree)
    (named : tree.root = .name) : isName (nameOf tree) = true := by
  obtain ⟨rule, start, width, children⟩ := tree
  obtain rfl : rule = .name := named
  exact Grown.isName grown

end ScriptHost.Script
