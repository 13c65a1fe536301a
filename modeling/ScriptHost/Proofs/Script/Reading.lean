import ScriptHost.Proofs.Script.Shapes

/-!
# Reading succeeds or finds a defect

The tree of a matched source has the shape that reading expects at every node, so reading
it gives a script or comes upon one of the four defects. What it gives is well-formed: the
levels of the grammar are the levels at which operators bind.
-/

namespace ScriptHost.Script

open ScriptHost.Grammar

/-! ## Readings without malformed trees -/

namespace Reading

variable {First Second : Type}

/-- A reading gives something with a property, or comes upon a defect. -/
def Sound (property : First → Prop) : Reading First → Prop
  | .ok result => property result
  | .error (.defect _ _) => True
  | .error _ => False

/-- Two sound steps are sound. -/
theorem Sound.bind {property : First → Prop} {goal : Second → Prop} {reading : Reading First}
    {next : First → Reading Second} (sound : Sound property reading)
    (further : ∀ result, property result → Sound goal (next result)) :
    Sound goal (reading >>= next) := by
  cases reading with
  | ok result => exact further result sound
  | error reason => cases reason <;> exact sound

/-- A sound reading has every weaker property. -/
theorem Sound.mono {property weaker : First → Prop} {reading : Reading First}
    (sound : Sound property reading) (weakens : ∀ result, property result → weaker result) :
    Sound weaker reading := by
  cases reading with
  | ok result => exact weakens result sound
  | error reason => cases reason <;> exact sound

end Reading

open Reading

/-- An expression that can stand where one binds at least as tightly as a level. -/
def Expression.Fits (level : Nat) (expression : Expression) : Prop :=
  level ≤ expression.level ∧ expression.WellFormed

/-- What can stand at a level can stand at every looser one. -/
theorem Expression.Fits.loosen {expression : Expression} {level looser : Nat}
    (fits : expression.Fits level) (loose : looser ≤ level) : expression.Fits looser :=
  ⟨Nat.le_trans loose fits.1, fits.2⟩

/-- An expression that members and calls can be taken of. -/
def Expression.Based (expression : Expression) : Prop :=
  expression.isBase = true ∧ expression.WellFormed

/-- A base can stand anywhere. -/
theorem Expression.Based.fits {expression : Expression} (based : expression.Based) :
    expression.Fits (unaryLevel + 1) :=
  ⟨Nat.le_of_eq (level_of_isBase based.1).symm, based.2⟩

/-- The content of a string literal has a value or an unknown escape. -/
theorem stringLiteral_sound (start : Nat) (children : List ChunkTree)
    (yields : Rule.string.body.Yields (children.map ParseTree.root)) :
    Sound (fun _ => True) (stringLiteral start children) := by
  cases children with
  | nil =>
    rcases yields with ⟨_, _, none, rfl, _, _, rfl, rfl, _⟩ | ⟨_, _, none, rfl, _, _, rfl, rfl, _⟩
    · contradiction
    · contradiction
  | cons content rest =>
    rw [stringLiteral]
    split <;> trivial

/-! ## Expressions -/

section Expressions

variable {size : Nat}

/-- A tree whose expressions are all read as ones that bind as tightly as their rules. -/
inductive Readable (size : Nat) : ChunkTree → Prop where
  | node {rule : Rule} {start : Cursor} {width : Nat} {children : List ChunkTree}
    (grown : Grown size (.node rule start width children))
    (sound : isExpressionRule rule = true →
      Sound (·.Fits (ruleLevel rule)) (readExpression (.node rule start width children)))
    (inner : ∀ child ∈ children, Readable size child) :
    Readable size (.node rule start width children)

namespace Readable

/-- A readable tree is grown. -/
theorem grown {tree : ChunkTree} (readable : Readable size tree) : Grown size tree := by
  cases readable with
  | node grown _ _ => exact grown

/-- A readable tree of an expression is read as one. -/
theorem sound {tree : ChunkTree} {rule : Rule} (readable : Readable size tree)
    (rooted : tree.root = rule) (expressive : isExpressionRule rule = true) :
    Sound (·.Fits (ruleLevel rule)) (readExpression tree) := by
  subst rooted
  cases readable with
  | node _ sound _ => exact sound expressive

/-- The children of a readable tree are readable, and in an order that its rule yields. -/
theorem inside {rule : Rule} {start : Cursor} {width : Nat} {children : List ChunkTree}
    (readable : Readable size (.node rule start width children)) :
    rule.body.Yields (children.map ParseTree.root) ∧ ∀ child ∈ children, Readable size child := by
  cases readable with
  | node grown _ inner => exact ⟨(Grown.inner grown).1, inner⟩

end Readable

/-- The first of some trees is read. -/
theorem readFirst_sound (rule : Rule) (expressive : isExpressionRule rule = true)
    {trees : List ChunkTree} (readable : ∀ tree ∈ trees, Readable size tree)
    (roots : trees.map ParseTree.root = [rule]) :
    Sound (·.Fits (ruleLevel rule)) (readFirst trees) := by
  obtain ⟨first, rfl, rooted⟩ := List.map_eq_singleton_iff.mp roots
  rw [readFirst]
  exact (readable first (by simp)).sound rooted expressive

/-- A list of expressions is read. -/
theorem readExpressions_sound {trees : List ChunkTree}
    (readable : ∀ tree ∈ trees, Readable size tree) (roots : ∀ tree ∈ trees, tree.root = .expr) :
    Sound (fun expressions => expressions.length = trees.length ∧
      Expression.AllWellFormed expressions) (readExpressions trees) := by
  induction trees with
  | nil =>
    rw [readExpressions]
    exact ⟨rfl, trivial⟩
  | cons tree rest ih =>
    obtain ⟨first, others⟩ := List.forall_mem_cons.mp readable
    obtain ⟨rooted, more⟩ := List.forall_mem_cons.mp roots
    rw [readExpressions]
    refine (first.sound rooted rfl).bind fun expression fits => ?_
    exact (ih others more).bind fun expressions all =>
      ⟨congrArg (· + 1) all.1, fits.2, all.2⟩

/-- Operators of one level and their right operands keep the level. -/
theorem readOperators_sound {operator : Rule} (chained : isChainOperator operator = true) :
    (trees : List ChunkTree) → (left : Expression) → left.Fits (ruleLevel operator) →
    (∀ tree ∈ trees, Readable size tree) →
    Alternates operator (operandRule operator) (trees.map ParseTree.root) →
    Sound (·.Fits (ruleLevel operator)) (readOperators left trees)
  | [], left, fits, _, _ => by
    rw [readOperators]
    exact fits
  | [_], _, _, _, alternates => by contradiction
  | symbol :: operand :: rest, left, fits, readable, ⟨symbolRoot, operandRoot, more⟩ => by
    obtain ⟨expressive, next⟩ := ruleLevel_operandRule chained
    obtain ⟨symbolReadable, readable⟩ := List.forall_mem_cons.mp readable
    obtain ⟨operandReadable, others⟩ := List.forall_mem_cons.mp readable
    obtain ⟨op, read, level, leftLevel, rightLevel⟩ :=
      Grown.operator symbolReadable.grown (symbolRoot ▸ chained)
    rw [symbolRoot] at level leftLevel rightLevel
    rw [readOperators, read]
    refine (operandReadable.sound operandRoot expressive).bind fun right tight => ?_
    rw [next] at tight
    refine readOperators_sound chained rest (.binary op left right)
      ⟨Nat.le_of_eq level.symm, ?_⟩ others more
    rw [Expression.WellFormed, leftLevel, rightLevel]
    exact ⟨fits.1, tight.1, fits.2, tight.2⟩

/-- Operands of one level are read as an expression that binds as tightly as its operators. -/
theorem readChain_sound (operator : Rule) (chained : isChainOperator operator = true)
    {trees : List ChunkTree} (readable : ∀ tree ∈ trees, Readable size tree)
    (yields : (chain (operandRule operator) operator).Yields (trees.map ParseTree.root)) :
    Sound (·.Fits (ruleLevel operator)) (readChain trees) := by
  obtain ⟨_, _, whole, rfl, turns⟩ := yields
  obtain ⟨first, rest, rfl, rooted, rfl⟩ := List.map_eq_cons_iff.mp whole
  obtain ⟨firstReadable, others⟩ := List.forall_mem_cons.mp readable
  obtain ⟨expressive, next⟩ := ruleLevel_operandRule chained
  rw [readChain]
  refine (firstReadable.sound rooted expressive).bind fun left fits => ?_
  exact readOperators_sound chained rest left (fits.loosen (next ▸ Nat.le_succ _)) others
    (alternates_of_yields turns)

/-- A concatenation is read as an expression of its level. -/
theorem readConcat_sound {trees : List ChunkTree} (readable : ∀ tree ∈ trees, Readable size tree)
    (yields : Rule.concatExpr.body.Yields (trees.map ParseTree.root)) :
    Sound (·.Fits (ruleLevel .concatExpr)) (readConcat trees) := by
  obtain ⟨_, _, whole, rfl, more⟩ := yields
  obtain ⟨first, rest, rfl, firstRoot, rfl⟩ := List.map_eq_cons_iff.mp whole
  obtain ⟨firstReadable, others⟩ := List.forall_mem_cons.mp readable
  have firstSound := firstReadable.sound firstRoot rfl
  rcases more with none | ⟨_, _, whole, rfl, rfl⟩
  · obtain rfl : rest = [] := List.map_eq_nil_iff.mp none
    rw [readConcat]
    exact firstSound.mono fun _ fits => fits.loosen (by decide)
  · obtain ⟨symbol, _, rfl, -, roots⟩ := List.map_eq_cons_iff.mp whole
    obtain ⟨second, rfl, secondRoot⟩ := List.map_eq_singleton_iff.mp roots
    rw [readConcat]
    refine firstSound.bind fun left leftFits => ?_
    refine ((others second (by simp)).sound secondRoot rfl).bind fun right rightFits =>
      ⟨Nat.le_refl _, ?_⟩
    rw [Expression.WellFormed]
    exact ⟨leftFits.1, rightFits.1, leftFits.2, rightFits.2⟩

/-- A sign or a negation is read with its operand, and any other operand alone. -/
theorem readUnary_sound {trees : List ChunkTree} (readable : ∀ tree ∈ trees, Readable size tree)
    (yields : Rule.unaryExpr.body.Yields (trees.map ParseTree.root)) :
    Sound (·.Fits (ruleLevel .unaryExpr)) (readUnary trees) := by
  rcases of_yields_unary yields with whole | ⟨_, whole, atomic⟩
  · obtain ⟨first, _, rfl, firstRoot, roots⟩ := List.map_eq_cons_iff.mp whole
    obtain ⟨second, rfl, secondRoot⟩ := List.map_eq_singleton_iff.mp roots
    rw [readUnary, if_pos (treeRule_eq_root first ▸ firstRoot)]
    refine ((readable second (by simp)).sound secondRoot rfl).bind fun operand fits =>
      ⟨Nat.le_refl _, ?_⟩
    rw [Expression.WellFormed]
    exact fits
  · obtain ⟨operand, rfl, rfl⟩ := List.map_eq_singleton_iff.mp whole
    obtain ⟨expressive, other, level⟩ := ruleLevel_of_isAtomRule atomic
    rw [readUnary, if_neg (treeRule_eq_root operand ▸ other)]
    exact ((readable operand (by simp)).sound rfl expressive).mono fun _ fits => fits.loosen level

/-- The fields of a table are read. -/
theorem readFields_sound {trees : List ChunkTree} (readable : ∀ tree ∈ trees, Readable size tree)
    (fields : ∀ tree ∈ trees, isFieldRule tree.root = true) :
    Sound Field.AllWellFormed (readFields trees) := by
  induction trees with
  | nil =>
    rw [readFields]
    trivial
  | cons tree rest ih =>
    obtain ⟨rule, start, width, children⟩ := tree
    obtain ⟨this, others⟩ := List.forall_mem_cons.mp readable
    obtain ⟨fielded, more⟩ := List.forall_mem_cons.mp fields
    obtain ⟨yields, inner⟩ := this.inside
    have further (field : Field) (one : field.WellFormed) :
        Sound Field.AllWellFormed (do return field :: (← readFields rest)) :=
      (ih others more).bind fun _ all => Field.allWellFormed_cons.mpr ⟨one, all⟩
    cases rule <;> first | contradiction | skip
    case keyedField =>
      obtain ⟨_, _, whole, rfl, _, _, rfl, rfl, _, _, rfl, rfl, _, _, rfl, rfl, rfl⟩ := yields
      obtain ⟨key, _, rfl, keyRoot, roots⟩ := List.map_eq_cons_iff.mp whole
      obtain ⟨value, rfl, valueRoot⟩ := List.map_eq_singleton_iff.mp roots
      rw [readFields]
      refine ((inner key (by simp)).sound keyRoot rfl).bind fun first keyFits => ?_
      refine ((inner value (by simp)).sound valueRoot rfl).bind fun second fits => ?_
      exact further (.keyed first second) ⟨keyFits.2, fits.2⟩
    case namedField =>
      obtain ⟨_, _, whole, rfl, _, _, rfl, rfl, _, _, rfl, rfl, rfl⟩ := yields
      obtain ⟨name, _, rfl, -, roots⟩ := List.map_eq_cons_iff.mp whole
      obtain ⟨value, rfl, valueRoot⟩ := List.map_eq_singleton_iff.mp roots
      rw [readFields]
      refine ((inner value (by simp)).sound valueRoot rfl).bind fun result fits => ?_
      exact further (.keyed (.text (nameOf name)) result) ⟨trivial, fits.2⟩
    case positionalField =>
      obtain ⟨value, rfl, valueRoot⟩ := List.map_eq_singleton_iff.mp yields
      rw [readFields]
      refine ((inner value (by simp)).sound valueRoot rfl).bind fun result fits => ?_
      exact further (.positional result) fits.2

/-- The arguments of a call are read. -/
theorem readArguments_sound {trees : List ChunkTree}
    (readable : ∀ tree ∈ trees, Readable size tree)
    (roots : trees.map ParseTree.root = [.callArgs]) :
    Sound Expression.AllWellFormed (readArguments trees) := by
  obtain ⟨⟨rule, start, width, children⟩, rfl, rooted⟩ := List.map_eq_singleton_iff.mp roots
  obtain rfl : rule = .callArgs := rooted
  obtain ⟨yields, inner⟩ := (List.forall_mem_singleton.mp readable).inside
  have alone {tree : ChunkTree} (whole : children = [tree])
      (expressive : isExpressionRule tree.root = true) :
      Sound Expression.AllWellFormed (do return [← readExpression tree]) :=
    ((inner tree (by simp [whole])).sound rfl expressive).bind fun _ fits => ⟨fits.2, trivial⟩
  rcases yields with ⟨_, _, whole, rfl, _, _, rfl, listed, rfl⟩ | whole | whole
  · rcases listed with rfl | rfl
    · obtain rfl : children = [] := List.map_eq_nil_iff.mp whole
      rw [readArguments]
      trivial
    · obtain ⟨⟨rule, start, width, expressions⟩, rfl, rooted⟩ := List.map_eq_singleton_iff.mp whole
      obtain rfl : rule = .exprList := rooted
      obtain ⟨yields, readable⟩ := (List.forall_mem_singleton.mp inner).inside
      rw [readArguments]
      have roots := List.forall_mem_map.mp (of_yields_separated yields).2
      exact (readExpressions_sound readable roots).mono fun _ all => all.2
  · obtain ⟨⟨rule, start, width, parts⟩, rfl, rooted⟩ := List.map_eq_singleton_iff.mp whole
    obtain rfl : rule = .string := rooted
    rw [readArguments]
    · exact alone rfl rfl
    · exact nofun
  · obtain ⟨⟨rule, start, width, parts⟩, rfl, rooted⟩ := List.map_eq_singleton_iff.mp whole
    obtain rfl : rule = .tableConstructor := rooted
    rw [readArguments]
    · exact alone rfl rfl
    · exact nofun

/-- Members and calls of a base are bases. -/
theorem readSuffixes_sound {trees : List ChunkTree} (readable : ∀ tree ∈ trees, Readable size tree)
    (suffixed : ∀ tree ∈ trees, isSuffixRule tree.root = true) {object : Expression}
    (based : object.Based) : Sound Expression.Based (readSuffixes object trees) := by
  induction trees generalizing object with
  | nil =>
    rw [readSuffixes]
    exact based
  | cons tree rest ih =>
    obtain ⟨rule, start, width, children⟩ := tree
    obtain ⟨this, others⟩ := List.forall_mem_cons.mp readable
    obtain ⟨suffix, more⟩ := List.forall_mem_cons.mp suffixed
    obtain ⟨yields, inner⟩ := this.inside
    cases rule <;> first | contradiction | skip
    case fieldSuffix =>
      obtain ⟨_, _, whole, rfl, _, _, rfl, rfl, rfl⟩ := yields
      obtain ⟨name, rfl, -⟩ := List.map_eq_singleton_iff.mp whole
      rw [readSuffixes]
      refine ih others more ⟨rfl, ?_⟩
      rw [Expression.WellFormed]
      exact ⟨based.1, based.2, trivial⟩
    case indexSuffix =>
      obtain ⟨_, _, whole, rfl, _, _, rfl, rfl, rfl⟩ := yields
      obtain ⟨key, rfl, keyed⟩ := List.map_eq_singleton_iff.mp whole
      rw [readSuffixes]
      refine ((inner key (by simp)).sound keyed rfl).bind fun value fits => ?_
      refine ih others more ⟨rfl, ?_⟩
      rw [Expression.WellFormed]
      exact ⟨based.1, based.2, fits.2⟩
    case methodCall =>
      obtain ⟨_, _, whole, rfl, _, _, rfl, rfl, rfl⟩ := yields
      obtain ⟨name, arguments, rfl, named, called⟩ := List.map_eq_cons_iff.mp whole
      obtain ⟨nameReadable, inner⟩ := List.forall_mem_cons.mp inner
      rw [readSuffixes]
      refine (readArguments_sound inner called).bind fun values all => ?_
      refine ih others more ⟨rfl, ?_⟩
      rw [Expression.WellFormed]
      exact ⟨based.1, based.2, isName_nameOf nameReadable.grown named, all⟩
    case call =>
      rw [readSuffixes]
      refine (readArguments_sound inner yields).bind fun values all => ?_
      refine ih others more ⟨rfl, ?_⟩
      rw [Expression.WellFormed]
      exact ⟨based.1, based.2, all⟩

/-- A name or parentheses with what follows is read as a base. -/
theorem readSuffixed_sound {trees : List ChunkTree} (readable : ∀ tree ∈ trees, Readable size tree)
    (yields : Rule.suffixedExpr.body.Yields (trees.map ParseTree.root)) :
    Sound Expression.Based (readSuffixed trees) := by
  obtain ⟨_, _, whole, first, suffixed⟩ := of_yields_suffixed yields
  obtain ⟨⟨rule, start, width, children⟩, suffixes, rfl, rooted, rfl⟩ :=
    List.map_eq_cons_iff.mp whole
  obtain rfl : rule = _ := rooted
  obtain ⟨this, others⟩ := List.forall_mem_cons.mp readable
  have more := List.forall_mem_map.mp suffixed
  rcases first with rfl | rfl
  · have named := Grown.isName this.grown
    rw [readSuffixed]
    refine readSuffixes_sound others more ⟨rfl, ?_⟩
    rwa [Expression.WellFormed]
  · obtain ⟨yields, inner⟩ := this.inside
    obtain ⟨_, _, whole, rfl, _, _, rfl, rfl, rfl⟩ := yields
    rw [readSuffixed]
    refine (readFirst_sound .expr rfl inner whole).bind fun expression fits => ?_
    refine readSuffixes_sound others more ⟨rfl, ?_⟩
    rw [Expression.WellFormed]
    exact fits.2

/-- The tree of an expression is read as one that binds as tightly as its rule, if the trees inside
are readable. -/
theorem readExpression_sound {rule : Rule} {start : Cursor} {width : Nat}
    {children : List ChunkTree} (grown : Grown size (.node rule start width children))
    (inner : ∀ child ∈ children, Readable size child) (expressive : isExpressionRule rule = true) :
    Sound (·.Fits (ruleLevel rule)) (readExpression (.node rule start width children)) := by
  have yields := (Grown.inner grown).1
  have spelled := Definition.Orderly.Grown.text grown
  cases rule <;> first | contradiction | rw [readExpression]
  case expr => exact readFirst_sound .orExpr rfl inner yields
  case orExpr => exact readChain_sound .orOp rfl inner yields
  case andExpr => exact readChain_sound .andOp rfl inner yields
  case cmpExpr => exact readChain_sound .cmpOp rfl inner yields
  case addExpr => exact readChain_sound .addOp rfl inner yields
  case mulExpr => exact readChain_sound .mulOp rfl inner yields
  case concatExpr => exact readConcat_sound inner yields
  case unaryExpr => exact readUnary_sound inner yields
  case nilLiteral | trueLiteral | falseLiteral | varargs => exact ⟨Nat.le_refl _, trivial⟩
  case integer =>
    obtain ⟨literal, read, wellFormed, level⟩ :=
      integerLiteral?_of_integer (spelled (by decide) (by decide))
    rw [read]
    exact ⟨Nat.le_of_eq level.symm, wellFormed⟩
  case float =>
    obtain ⟨value, read⟩ := numberLiteral?_of_float (spelled (by decide) (by decide))
    rw [read]
    exact ⟨Nat.le_refl _, trivial⟩
  case hexInteger =>
    cases read : hexLiteral? (start.take width) with
    | none => trivial
    | some literal =>
      obtain ⟨wellFormed, level⟩ := wellFormed_of_hexLiteral? read
      exact ⟨Nat.le_of_eq level.symm, wellFormed⟩
  case string =>
    exact (stringLiteral_sound start.offset children yields).bind fun text _ =>
      ⟨Nat.le_refl _, trivial⟩
  case tableConstructor =>
    have fields := List.forall_mem_map.mp (isFieldRule_of_yields yields)
    exact (readFields_sound inner fields).bind fun _ all => ⟨Nat.le_refl _, all⟩
  case suffixedExpr => exact (readSuffixed_sound inner yields).mono fun _ based => based.fits

/-- Every grown tree is readable. -/
theorem readable_of_grown : (tree : ChunkTree) → Grown size tree → Readable size tree
  | .node _ _ _ children, grown =>
    have inner (child : ChunkTree) (_ : child ∈ children) : Readable size child :=
      readable_of_grown child ((Grown.inner grown).2 child ‹_›)
    .node grown (readExpression_sound grown inner) inner

/-! ## Statements -/

/-- A list of expressions is read, with one expression at least. -/
theorem readList_sound {tree : ChunkTree} (readable : Readable size tree)
    (rooted : tree.root = .exprList) :
    Sound (fun values => values ≠ [] ∧ Expression.AllWellFormed values) (readList tree) := by
  obtain ⟨rule, start, width, children⟩ := tree
  obtain rfl : rule = .exprList := rooted
  obtain ⟨yields, inner⟩ := readable.inside
  obtain ⟨filled, roots⟩ := of_yields_separated yields
  rw [readList]
  refine (readExpressions_sound inner (List.forall_mem_map.mp roots)).mono
    fun values ⟨lengths, all⟩ => ⟨?_, all⟩
  rintro rfl
  exact filled (by simpa using List.length_eq_zero_iff.mp lengths.symm)

/-- Targets are read, as long as all of them can be assigned to. -/
theorem readTargets_sound {trees : List ChunkTree} (readable : ∀ tree ∈ trees, Readable size tree)
    (roots : ∀ tree ∈ trees, tree.root = .suffixedExpr) :
    Sound (fun targets => targets.length = trees.length ∧
      (∀ target ∈ targets, target.isAssignable = true) ∧ Expression.AllWellFormed targets)
      (readTargets trees) := by
  induction trees with
  | nil => exact ⟨rfl, by simp, trivial⟩
  | cons tree rest ih =>
    obtain ⟨rule, start, width, children⟩ := tree
    obtain ⟨this, others⟩ := List.forall_mem_cons.mp readable
    obtain ⟨rooted, more⟩ := List.forall_mem_cons.mp roots
    obtain rfl : rule = .suffixedExpr := rooted
    obtain ⟨yields, inner⟩ := this.inside
    rw [readTargets]
    refine (readSuffixed_sound inner yields).bind fun target based => ?_
    by_cases assignable : target.isAssignable = true
    · rw [if_pos assignable]
      refine (ih others more).bind fun targets ⟨lengths, all, wellFormed⟩ => ?_
      exact ⟨congrArg (· + 1) lengths, List.forall_mem_cons.mpr ⟨assignable, all⟩, based.2,
        wellFormed⟩
    · rw [if_neg assignable]
      trivial

/-- The statement of a tree is read, unless it has a defect. -/
theorem readStatement_sound {tree : ChunkTree} (readable : Readable size tree)
    (stated : isStatementRule tree.root = true) :
    Sound Statement.WellFormed (readStatement tree) := by
  obtain ⟨rule, start, width, children⟩ := tree
  obtain ⟨yields, inner⟩ := readable.inside
  cases rule <;> first | contradiction | skip
  case localStatement =>
    obtain ⟨_, _, whole, rfl, _, _, rfl, rfl, rest⟩ := yields
    obtain ⟨keyword, _, rfl, -, roots⟩ := List.map_eq_cons_iff.mp whole
    obtain ⟨⟨rule, start, width, names⟩, values, rfl, rooted, rfl⟩ := List.map_eq_cons_iff.mp roots
    obtain rfl : rule = .nameList := rooted
    obtain ⟨listReadable, valuesReadable⟩ :=
      List.forall_mem_cons.mp (List.forall_mem_cons.mp inner).2
    obtain ⟨yields, namesReadable⟩ := listReadable.inside
    obtain ⟨filled, named⟩ := of_yields_separated yields
    have declared : names.map nameOf ≠ [] := by simpa using filled
    have proper : ∀ name ∈ names.map nameOf, isName name = true := by
      refine List.forall_mem_map.mpr fun name member => ?_
      exact isName_nameOf (namesReadable name member).grown (named _ (List.mem_map_of_mem member))
    rcases rest with none | ⟨_, _, whole, rfl, rfl⟩
    · obtain rfl : values = [] := List.map_eq_nil_iff.mp none
      exact ⟨declared, proper, trivial⟩
    · obtain ⟨list, rfl, listed⟩ := List.map_eq_singleton_iff.mp whole
      exact (readList_sound (valuesReadable list (by simp)) listed).bind fun values all =>
        ⟨declared, proper, all.2⟩
  case assignment =>
    obtain ⟨_, _, whole, rfl, _, _, rfl, rfl, rfl⟩ := yields
    obtain ⟨⟨rule, start, width, targets⟩, _, rfl, rooted, roots⟩ := List.map_eq_cons_iff.mp whole
    obtain rfl : rule = .targetList := rooted
    obtain ⟨values, rfl, listed⟩ := List.map_eq_singleton_iff.mp roots
    obtain ⟨listReadable, valuesReadable⟩ := List.forall_mem_cons.mp inner
    obtain ⟨yields, targetsReadable⟩ := listReadable.inside
    obtain ⟨filled, suffixed⟩ := of_yields_separated yields
    refine (readTargets_sound targetsReadable (List.forall_mem_map.mp suffixed)).bind
      fun expressions ⟨lengths, assignable, all⟩ => ?_
    refine (readList_sound (valuesReadable values (by simp)) listed).bind
      fun results ⟨one, wellFormed⟩ => ⟨?_, one, assignable, all, wellFormed⟩
    rintro rfl
    exact filled (by simpa using List.length_eq_zero_iff.mp lengths.symm)
  case callStatement =>
    obtain ⟨⟨rule, begin, extent, parts⟩, rfl, rooted⟩ := List.map_eq_singleton_iff.mp yields
    obtain rfl : rule = .suffixedExpr := rooted
    obtain ⟨yields, partsReadable⟩ := (List.forall_mem_singleton.mp inner).inside
    rw [readStatement]
    refine (readSuffixed_sound partsReadable yields).bind fun call based => ?_
    by_cases called : call.isCall = true
    · rw [if_pos called]
      exact ⟨called, based.2⟩
    · rw [if_neg called]
      trivial

/-- The values after a `return` are read. -/
theorem readResult_sound {trees : List ChunkTree} (readable : ∀ tree ∈ trees, Readable size tree)
    (yields : Rule.returnStatement.body.Yields (trees.map ParseTree.root)) :
    Sound Expression.AllWellFormed (readResult trees) := by
  obtain ⟨_, _, whole, rfl, _, after, rfl, values, last⟩ := yields
  obtain rfl : after = [] := last.elim id id
  obtain ⟨⟨rule, start, width, children⟩, rest, rfl, rooted, roots⟩ := List.map_eq_cons_iff.mp whole
  obtain rfl : rule = .returnKw := rooted
  rw [List.append_nil] at roots
  rw [readResult]
  · rcases values with rfl | rfl
    · obtain rfl : rest = [] := List.map_eq_nil_iff.mp roots
      trivial
    · obtain ⟨⟨rule, start, width, children⟩, rfl, rooted⟩ := List.map_eq_singleton_iff.mp roots
      obtain rfl : rule = .exprList := rooted
      rw [readResult]
      have listReadable := (List.forall_mem_cons.mp (List.forall_mem_cons.mp readable).2).1
      exact (readList_sound listReadable rfl).mono fun _ all => all.2
  · exact nofun

/-- Statements are read, unless one of them has a defect. -/
theorem readStatements_sound {trees : List ChunkTree}
    (readable : ∀ tree ∈ trees, Readable size tree) {front back : List Rule}
    (roots : trees.map ParseTree.root = front ++ back)
    (stated : ∀ root ∈ front, isStatementRule root = true)
    (ended : back = [] ∨ back = [.returnStatement]) :
    Sound Block.WellFormed (readStatements trees) := by
  induction trees generalizing front with
  | nil => exact ⟨by simp, by simp⟩
  | cons tree rest ih =>
    obtain ⟨this, others⟩ := List.forall_mem_cons.mp readable
    cases front with
    | nil =>
      rcases ended with rfl | rfl
      · contradiction
      · obtain ⟨⟨rule, start, width, children⟩, single, rooted⟩ := List.map_eq_singleton_iff.mp roots
        obtain ⟨rfl, rfl⟩ := List.cons.inj single
        obtain rfl : rule = .returnStatement := rooted
        obtain ⟨yields, inner⟩ := this.inside
        rw [readStatements]
        refine (readResult_sound inner yields).bind fun values all => ⟨by simp, ?_⟩
        exact fun expressions same => Option.some.inj same ▸ all
    | cons first front =>
      obtain ⟨rooted, roots⟩ := List.cons.inj roots
      obtain ⟨statement, more⟩ := List.forall_mem_cons.mp stated
      rw [readStatements]
      · refine (readStatement_sound this (rooted ▸ statement)).bind fun first wellFormed => ?_
        refine (ih others roots more).bind fun block whole => ?_
        exact ⟨List.forall_mem_cons.mpr ⟨wellFormed, whole.statements⟩, whole.result⟩
      · rintro _ _ _ rfl -
        obtain rfl : Rule.returnStatement = first := rooted
        contradiction

end Expressions

/-- Statements of a block are followed by a `return` at most. -/
theorem of_yields_block {roots : List Rule} (yields : Rule.block.body.Yields roots) :
    ∃ front back, roots = front ++ back ∧ (∀ root ∈ front, isStatementRule root = true) ∧
      (back = [] ∨ back = [.returnStatement]) := by
  obtain ⟨front, back, rfl, turns, ended⟩ := yields
  refine ⟨front, back, rfl, forall_of_yields_many (fun turn one => ?_) turns, ended⟩
  rcases one with rfl | rfl | rfl | rfl <;> decide

/-- A source is read as a well-formed script, or it is no chunk, or it has a defect. -/
theorem readScript_cases (source : List Char) :
    (∃ block, readScript source = .ok block ∧ block.WellFormed) ∨
      readScript source = .error .mismatch ∨
      ∃ kind offset, readScript source = .error (.defect kind offset) := by
  unfold readScript
  cases given : matchChunk source with
  | refused => exact .inr (.inl rfl)
  | exhausted => exact absurd given (matchChunk_ne_exhausted source)
  | matched result =>
    obtain ⟨trees, finish⟩ := result
    suffices sound : Sound Block.WellFormed (readChunk trees) by
      dsimp only
      generalize readChunk trees = read at sound ⊢
      cases read with
      | ok block => exact .inl ⟨block, rfl, sound⟩
      | error reason =>
        cases reason with
        | defect kind offset => exact .inr (.inr ⟨kind, offset, rfl⟩)
        | mismatch | malformed => contradiction
    rw [matchChunk_eq] at given
    have within : Cursor.Within source.length ⟨0, source⟩ := Nat.zero_add _
    obtain ⟨⟨rule, start, width, children⟩, rfl, rooted, grown⟩ :=
      Definition.Orderly.grown_of_settled (by decide) within given
    obtain rfl : rule = .chunk := rooted
    obtain ⟨yields, inner⟩ := (readable_of_grown _ grown).inside
    obtain ⟨_, _, whole, rfl, _, _, rfl, rfl, rfl⟩ := yields
    obtain ⟨⟨rule, start, width, statements⟩, rest, rfl, rooted, -⟩ := List.map_eq_cons_iff.mp whole
    obtain rfl : rule = .block := rooted
    obtain ⟨yields, readable⟩ := (List.forall_mem_cons.mp inner).1.inside
    obtain ⟨front, back, roots, stated, ended⟩ := of_yields_block yields
    rw [readChunk]
    exact readStatements_sound readable roots stated ended

end ScriptHost.Script
