import ScriptHost.Proofs.Grammar.Settling

/-!
# What a match leaves

The trees that a match leaves are those of the rules its expression names, in an order
that the expression allows, and each of them is left by a match of its own. So the shape
of a whole tree is read off the grammar, rule by rule. The text that a rule without inner
rules covers is one that its expression spells.
-/

namespace ScriptHost.Grammar

variable {Rule : Type}

/-- The rule at the root of a tree. -/
def ParseTree.root : ParseTree Rule → Rule
  | .node rule _ _ _ => rule

namespace Expr

/-- The rules of the trees that a match can leave, in order. -/
def Yields : Expr Rule → List Rule → Prop
  | rule name, roots => roots = [name]
  | seq first second, roots =>
    ∃ before after, roots = before ++ after ∧ first.Yields before ∧ second.Yields after
  | choice first second, roots => first.Yields roots ∨ second.Yields roots
  | optional inner, roots => roots = [] ∨ inner.Yields roots
  | many inner, roots => ∃ turns : List (List Rule), roots = turns.flatten ∧
    ∀ turn ∈ turns, inner.Yields turn
  | one _, roots | text _, roots | absent _, roots | ending, roots => roots = []

/-- Whether an expression names no rules. -/
def isRuleFree : Expr Rule → Bool
  | rule _ => false
  | seq first second | choice first second => first.isRuleFree && second.isRuleFree
  | optional inner | many inner | absent inner => inner.isRuleFree
  | _ => true

/-- Whether an expression has no place for blanks. -/
def isSeamless : Expr Rule → Bool
  | seq _ _ | many _ => false
  | choice first second => first.isSeamless && second.isSeamless
  | optional inner => inner.isSeamless
  | _ => true

/-- The texts that an expression without rules can cover where no blanks are allowed, if what it
only looks at is left aside. -/
def Spells : Expr Rule → List Char → Prop
  | one accepts, word => ∃ character, word = [character] ∧ accepts character = true
  | text characters, word => word = characters
  | rule _, _ => False
  | seq first second, word =>
    ∃ before after, word = before ++ after ∧ first.Spells before ∧ second.Spells after
  | choice first second, word => first.Spells word ∨ second.Spells word
  | optional inner, word => word = [] ∨ inner.Spells word
  | many inner, word => ∃ turns : List (List Char), word = turns.flatten ∧
    ∀ turn ∈ turns, inner.Spells turn
  | absent _, word | ending, word => word = []

/-- No turns of a repetition. -/
theorem Yields.none (inner : Expr Rule) : (many inner).Yields [] := ⟨[], rfl, by simp⟩

/-- No turns of a repetition. -/
theorem Spells.none (inner : Expr Rule) : (many inner).Spells [] := ⟨[], rfl, by simp⟩

/-- One turn more of a repetition. -/
theorem Yields.more {inner : Expr Rule} {front back : List Rule} (turns : (many inner).Yields front)
    (last : inner.Yields back) : (many inner).Yields (front ++ back) := by
  obtain ⟨turns, rfl, each⟩ := turns
  refine ⟨turns ++ [back], by simp, fun turn member => ?_⟩
  rcases List.mem_append.mp member with earlier | same
  · exact each turn earlier
  · rwa [List.mem_singleton.mp same]

/-- One turn more of a repetition. -/
theorem Spells.more {inner : Expr Rule} {front back : List Char} (turns : (many inner).Spells front)
    (last : inner.Spells back) : (many inner).Spells (front ++ back) := by
  obtain ⟨turns, rfl, each⟩ := turns
  refine ⟨turns ++ [back], by simp, fun turn member => ?_⟩
  rcases List.mem_append.mp member with earlier | same
  · exact each turn earlier
  · rwa [List.mem_singleton.mp same]

end Expr

/-- A cursor in a source of some size. -/
def Cursor.Within (size : Nat) (cursor : Cursor) : Prop :=
  cursor.offset + cursor.rest.length = size

/-- Moving forward stays within the source. -/
theorem Cursor.Leads.within {start finish : Cursor} {size : Nat} (leads : start.Leads finish)
    (within : start.Within size) : finish.Within size := leads.total.trans within

/-- What lies between two places. -/
theorem Cursor.Leads.exists_passed {start finish : Cursor} (leads : start.Leads finish) :
    ∃ passed, start.rest = passed ++ finish.rest ∧
      start.take (finish.offset - start.offset) = passed := by
  obtain ⟨passed, whole⟩ := leads.suffix
  refine ⟨passed, whole.symm, ?_⟩
  have total := leads.total
  have lengths := congrArg List.length whole
  rw [List.length_append] at lengths
  have width : finish.offset - start.offset = passed.length := by omega
  rw [Cursor.take, width, ← whole, List.take_left]

namespace Definition.Orderly

variable {grammar : Definition Rule} (order : grammar.Orderly) {size : Nat}

/-- A tree that a match of its rule leaves. -/
inductive Grown (size : Nat) : ParseTree Rule → Prop where
  | matched {rule : Rule} {mode : Mode} {start finish : Cursor} {children : List (ParseTree Rule)}
    (shown : mode ≠ .hidden) (within : start.Within size)
    (body : (grammar.body rule).matchAt grammar size (order.settled size)
      ((grammar.style rule).mode mode) start = .matched (children, finish)) :
    Grown size (treeBetween rule start finish children)

variable {order}

/-- A rule that is not hidden leaves one tree. -/
theorem grown_of_settled {rule : Rule} {mode : Mode} {start finish : Cursor}
    {trees : List (ParseTree Rule)} (shown : mode ≠ .hidden) (within : start.Within size)
    (given : order.settled size rule mode start = .matched (trees, finish)) :
    ∃ tree, trees = [tree] ∧ tree.root = rule ∧ order.Grown size tree := by
  rw [order.settled_eq] at given
  obtain ⟨children, body, rfl⟩ := ruleOutcome_eq_matched.mp given
  exact ⟨_, if_neg shown, rfl, .matched shown within body⟩

/-- A grown tree is what its rule settles on where the tree starts. -/
theorem Grown.settled {rule : Rule} {start : Cursor} {width : Nat}
    {children : List (ParseTree Rule)} (grown : order.Grown size (.node rule start width children)) :
    ∃ mode finish, mode ≠ .hidden ∧ start.Within size ∧
      order.settled size rule mode start = .matched ([.node rule start width children], finish) := by
  cases grown with
  | @matched _ mode _ finish _ shown within body =>
    refine ⟨mode, finish, shown, within, ?_⟩
    rw [order.settled_eq]
    exact ruleOutcome_eq_matched.mpr ⟨children, body, (if_neg shown).symm⟩

/-- The trees that a match leaves are grown, and their rules are in an order that the expression
yields. -/
theorem yields_of_matches {mode : Mode} {expr : Expr Rule} {start finish : Cursor}
    {trees : List (ParseTree Rule)} (shown : mode ≠ .hidden ∨ expr.isRuleFree = true)
    (within : start.Within size)
    (found : expr.Matches grammar (order.settled size) mode start trees finish) :
    expr.Yields (trees.map ParseTree.root) ∧ ∀ tree ∈ trees, order.Grown size tree := by
  have inside {expr : Expr Rule} {start place : Cursor} {trees : List (ParseTree Rule)}
      (front : expr.Matches grammar (order.settled size) mode start trees place)
      (within : start.Within size) : (grammar.gap mode place).Within size :=
    (grammar.leads_gap order.skips mode place).within
      ((front.leads order.skips order.settled_advancing).within within)
  induction found with
  | one | text | absent | ending => exact ⟨rfl, by simp⟩
  | optionalNone => exact ⟨.inl rfl, by simp⟩
  | manyNone => exact ⟨.none _, by simp⟩
  | rule given =>
    rcases shown with shown | free
    · obtain ⟨tree, rfl, rooted, grown⟩ := grown_of_settled shown within given
      refine ⟨by simp [Expr.Yields, rooted], ?_⟩
      intro other member
      rwa [List.mem_singleton.mp member]
    · contradiction
  | seq front _ one two =>
    have free := shown.imp_right (Bool.and_eq_true _ _).mp
    obtain ⟨frontYields, frontGrown⟩ := one (free.imp_right And.left) within
    obtain ⟨backYields, backGrown⟩ := two (free.imp_right And.right) (inside front within)
    refine ⟨⟨_, _, List.map_append, frontYields, backYields⟩, fun tree member => ?_⟩
    exact (List.mem_append.mp member).elim (frontGrown tree) (backGrown tree)
  | choiceFirst _ one =>
    have free := shown.imp_right (Bool.and_eq_true _ _).mp
    exact (one (free.imp_right And.left) within).imp_left .inl
  | choiceSecond _ two =>
    have free := shown.imp_right (Bool.and_eq_true _ _).mp
    exact (two (free.imp_right And.right) within).imp_left .inr
  | optional _ one => exact (one shown within).imp_left .inr
  | manyOnce _ one =>
    obtain ⟨yields, grown⟩ := one shown within
    exact ⟨(Expr.Yields.none _).more yields, grown⟩
  | manyMore front _ one two =>
    obtain ⟨frontYields, frontGrown⟩ := one shown within
    obtain ⟨backYields, backGrown⟩ := two shown (inside front within)
    rw [List.map_append]
    refine ⟨frontYields.more backYields, fun tree member => ?_⟩
    exact (List.mem_append.mp member).elim (frontGrown tree) (backGrown tree)

/-- The children of a grown tree are grown, and their rules are in an order that its rule yields. -/
theorem Grown.children (free : ∀ rule, grammar.style rule = .hidden →
      (grammar.body rule).isRuleFree = true)
    {rule : Rule} {start : Cursor} {width : Nat} {children : List (ParseTree Rule)}
    (grown : order.Grown size (.node rule start width children)) :
    (grammar.body rule).Yields (children.map ParseTree.root) ∧
      ∀ child ∈ children, order.Grown size child := by
  cases grown with
  | @matched _ mode _ finish _ shown within body =>
    refine yields_of_matches ?_ within (Expr.matches_of_matchAt _ body)
    cases styled : grammar.style rule with
    | inherited => exact .inl shown
    | tight => exact .inl nofun
    | hidden => exact .inr (free rule styled)

/-- A match of an expression without rules covers a text that the expression spells, where no
blanks are allowed or there is no place for them. -/
theorem spells_of_matches {mode : Mode} {expr : Expr Rule} {start finish : Cursor}
    {trees : List (ParseTree Rule)} (free : expr.isRuleFree = true)
    (seamless : mode ≠ .spaced ∨ expr.isSeamless = true)
    (found : expr.Matches grammar (order.settled size) mode start trees finish) :
    ∃ word, start.rest = word ++ finish.rest ∧ expr.Spells word := by
  have gap (cursor : Cursor) (tight : mode ≠ .spaced) : grammar.gap mode cursor = cursor :=
    if_neg tight
  induction found with
  | @one _ character _ _ accepted => exact ⟨[character], rfl, character, rfl, accepted⟩
  | @text characters => exact ⟨characters, rfl, rfl⟩
  | rule => contradiction
  | optionalNone => exact ⟨[], rfl, .inl rfl⟩
  | manyNone => exact ⟨[], rfl, .none _⟩
  | absent | ending => exact ⟨[], rfl, rfl⟩
  | @seq _ _ _ place _ _ _ _ _ one two =>
    obtain ⟨firstFree, secondFree⟩ := (Bool.and_eq_true _ _).mp free
    rcases seamless with tight | seamless
    · obtain ⟨front, whole, spelled⟩ := one firstFree (.inl tight)
      obtain ⟨back, rest, more⟩ := two secondFree (.inl tight)
      rw [gap place tight] at rest
      exact ⟨front ++ back, by rw [whole, rest, List.append_assoc], front, back, rfl, spelled, more⟩
    · contradiction
  | choiceFirst _ one =>
    have seams := seamless.imp_right (Bool.and_eq_true _ _).mp
    obtain ⟨word, whole, spelled⟩ :=
      one ((Bool.and_eq_true _ _).mp free).1 (seams.imp_right And.left)
    exact ⟨word, whole, .inl spelled⟩
  | choiceSecond _ two =>
    have seams := seamless.imp_right (Bool.and_eq_true _ _).mp
    obtain ⟨word, whole, spelled⟩ :=
      two ((Bool.and_eq_true _ _).mp free).2 (seams.imp_right And.right)
    exact ⟨word, whole, .inr spelled⟩
  | optional _ one =>
    obtain ⟨word, whole, spelled⟩ := one free seamless
    exact ⟨word, whole, .inr spelled⟩
  | manyOnce _ one =>
    obtain ⟨word, whole, spelled⟩ := one free (.inl (seamless.resolve_right Bool.false_ne_true))
    exact ⟨word, whole, (Expr.Spells.none _).more spelled⟩
  | @manyMore _ _ place _ _ _ _ _ one two =>
    have tight : mode ≠ .spaced := seamless.resolve_right Bool.false_ne_true
    obtain ⟨front, whole, spelled⟩ := one free seamless
    obtain ⟨back, rest, more⟩ := two free (.inl tight)
    rw [gap place tight] at rest
    exact ⟨front ++ back, by rw [whole, rest, List.append_assoc], spelled.more more⟩

/-- A grown tree without inner rules covers a text that its rule spells. -/
theorem Grown.text {rule : Rule} {start : Cursor} {width : Nat} {children : List (ParseTree Rule)}
    (grown : order.Grown size (.node rule start width children))
    (free : (grammar.body rule).isRuleFree = true)
    (seamless : grammar.style rule ≠ .inherited ∨ (grammar.body rule).isSeamless = true) :
    (grammar.body rule).Spells (start.take width) := by
  cases grown with
  | @matched _ mode _ finish _ shown within body =>
    have tight : (grammar.style rule).mode mode ≠ .spaced ∨
        (grammar.body rule).isSeamless = true := by
      refine seamless.imp_left fun apart => ?_
      cases styled : grammar.style rule with
      | inherited => exact absurd styled apart
      | tight => exact nofun
      | hidden => exact nofun
    obtain ⟨word, whole, spelled⟩ := spells_of_matches free tight (Expr.matches_of_matchAt _ body)
    obtain ⟨passed, split, covered⟩ := (order.leads_of_matched body).exists_passed
    rw [covered, List.append_cancel_right (split.symm.trans whole)]
    exact spelled

end Definition.Orderly

end ScriptHost.Grammar
