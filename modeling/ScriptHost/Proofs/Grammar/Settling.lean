import ScriptHost.Proofs.Grammar.Progress

/-!
# Enough depth

A grammar is orderly where every rule reaches only rules of lower rank before it has
passed over a character, and where everything it repeats consumes. In an orderly grammar
a depth of rules that grows with the characters still to come is never used up, and any
greater depth gives the same outcome. So matching settles on an outcome for every rule,
and that outcome is what the rule's expression gives with the settled outcomes of the
rules it refers to.
-/

namespace ScriptHost.Grammar

variable {Rule : Type}

/-! ## More depth -/

/-- A way to match rules that agrees with another one wherever that does not run out of depth. -/
def Refines (coarse fine : Rule → Mode → Cursor → Match Rule) : Prop :=
  ∀ rule mode cursor, coarse rule mode cursor ≠ .exhausted →
    fine rule mode cursor = coarse rule mode cursor

/-- Turns that do not run out of depth stay when steps are refined. -/
theorem repeated_refined {coarse fine : Cursor → Match Rule}
    (refines : ∀ cursor, coarse cursor ≠ .exhausted → fine cursor = coarse cursor) (turns : Nat)
    (start : Cursor) (settled : repeated coarse turns start ≠ .exhausted) :
    repeated fine turns start = repeated coarse turns start := by
  induction turns generalizing start with
  | zero => rfl
  | succ turns ih =>
    rw [repeated] at settled
    rw [repeated, repeated]
    cases first : coarse start with
    | matched result =>
      obtain ⟨trees, place⟩ := result
      rw [first] at settled
      rw [refines start (by simp [first]), first]
      have rest : repeated coarse turns place ≠ .exhausted := by
        intro spent
        simp [Outcome.andThen, spent] at settled
      simp only [Outcome.andThen, ih place rest]
    | refused => rw [refines start (by simp [first]), first]
    | exhausted => simp [first] at settled

/-- An expression that does not run out of depth gives the same when rules are refined. -/
theorem Expr.matchAt_refined {grammar : Definition Rule} {size : Nat}
    {coarse fine : Rule → Mode → Cursor → Match Rule} (refines : Refines coarse fine) {mode : Mode}
    (expr : Expr Rule) (start : Cursor)
    (settled : expr.matchAt grammar size coarse mode start ≠ .exhausted) :
    expr.matchAt grammar size fine mode start = expr.matchAt grammar size coarse mode start := by
  induction expr generalizing start with
  | one | text | ending => rfl
  | rule name => exact refines name mode start settled
  | seq first second firstSame secondSame =>
    simp only [matchAt] at settled ⊢
    have before : first.matchAt grammar size coarse mode start ≠ .exhausted := by
      intro spent
      simp [Outcome.andThen, spent] at settled
    rw [firstSame start before]
    cases given : first.matchAt grammar size coarse mode start with
    | matched result =>
      obtain ⟨trees, place⟩ := result
      have after : second.matchAt grammar size coarse mode (grammar.gap mode place) ≠
          .exhausted := by
        intro spent
        simp [Outcome.andThen, given, spent] at settled
      simp only [Outcome.andThen, secondSame _ after]
    | refused => rfl
    | exhausted => rfl
  | choice first second firstSame secondSame =>
    simp only [matchAt] at settled ⊢
    have before : first.matchAt grammar size coarse mode start ≠ .exhausted := by
      intro spent
      simp [spent] at settled
    rw [firstSame start before]
    cases given : first.matchAt grammar size coarse mode start with
    | refused =>
      rw [given] at settled
      exact secondSame start settled
    | matched | exhausted => rfl
  | optional inner same =>
    simp only [matchAt] at settled ⊢
    have before : inner.matchAt grammar size coarse mode start ≠ .exhausted := by
      intro spent
      simp [spent] at settled
    rw [same start before]
  | many inner same =>
    simp only [matchAt] at settled ⊢
    have before : inner.matchAt grammar size coarse mode start ≠ .exhausted := by
      intro spent
      simp [spent] at settled
    rw [same start before]
    cases given : inner.matchAt grammar size coarse mode start with
    | matched result =>
      obtain ⟨trees, place⟩ := result
      have turns : repeated (fun next => inner.matchAt grammar size coarse mode
          (grammar.gap mode next)) (size - place.offset) place ≠ .exhausted := by
        intro spent
        simp [Outcome.andThen, given, spent] at settled
      have more := repeated_refined (fun next => same (grammar.gap mode next)) _ _ turns
      simp only [Outcome.andThen, more]
    | refused => rfl
    | exhausted => rfl
  | absent inner same =>
    simp only [matchAt] at settled ⊢
    have before : inner.matchAt grammar size coarse mode start ≠ .exhausted := by
      intro spent
      simp [spent] at settled
    rw [same start before]

/-- What a rule gives where its expression gives an outcome. -/
def Definition.ruleOutcome (rule : Rule) (mode : Mode) (start : Cursor) (body : Match Rule) :
    Match Rule :=
  match body with
  | .matched (children, finish) =>
    if mode = .hidden then .matched (children, finish)
    else .matched ([treeBetween rule start finish children], finish)
  | .refused => .refused
  | .exhausted => .exhausted

/-- A rule is matched by its expression, one rule less deep. -/
theorem Definition.matchRule_succ (grammar : Definition Rule) (size depth : Nat) (rule : Rule)
    (mode : Mode) (start : Cursor) :
    grammar.matchRule size (depth + 1) rule mode start =
      ruleOutcome rule mode start ((grammar.body rule).matchAt grammar size
        (grammar.matchRule size depth) ((grammar.style rule).mode mode) start) := rfl

/-- A rule's outcome is where its expression's is. -/
theorem Definition.ruleOutcome_eq_matched {rule : Rule} {mode : Mode} {start finish : Cursor}
    {body : Match Rule} {trees : List (ParseTree Rule)} :
    ruleOutcome rule mode start body = .matched (trees, finish) ↔
      ∃ children, body = .matched (children, finish) ∧
        trees = if mode = .hidden then children else [treeBetween rule start finish children] := by
  unfold ruleOutcome
  cases body with
  | matched result =>
    obtain ⟨children, place⟩ := result
    by_cases hidden : mode = .hidden
    · simp [hidden, eq_comm]
    · simp only [if_neg hidden, Outcome.matched.injEq, Prod.mk.injEq]
      constructor
      · rintro ⟨rfl, rfl⟩
        exact ⟨children, ⟨rfl, rfl⟩, rfl⟩
      · rintro ⟨_, ⟨rfl, rfl⟩, rfl⟩
        exact ⟨rfl, rfl⟩
  | refused => simp
  | exhausted => simp

/-- A rule runs out of depth only where its expression does. -/
theorem Definition.ruleOutcome_eq_exhausted {rule : Rule} {mode : Mode} {start : Cursor}
    {body : Match Rule} : ruleOutcome rule mode start body = .exhausted ↔ body = .exhausted := by
  unfold ruleOutcome
  cases body with
  | matched result =>
    dsimp only
    split <;> simp
  | refused => simp
  | exhausted => simp

/-- One more rule of depth refines matching. -/
theorem Definition.matchRule_refines_succ (grammar : Definition Rule) (size depth : Nat) :
    Refines (grammar.matchRule size depth) (grammar.matchRule size (depth + 1)) := by
  induction depth with
  | zero => exact fun _ _ _ settled => absurd rfl settled
  | succ depth ih =>
    intro rule mode start settled
    rw [matchRule_succ] at settled ⊢
    rw [matchRule_succ grammar size depth]
    rw [Expr.matchAt_refined ih]
    exact fun spent => settled (ruleOutcome_eq_exhausted.mpr spent)

/-- More depth refines matching. -/
theorem Definition.matchRule_refines (grammar : Definition Rule) (size : Nat) {depth deeper : Nat}
    (more : depth ≤ deeper) :
    Refines (grammar.matchRule size depth) (grammar.matchRule size deeper) := by
  induction more with
  | refl => exact fun _ _ _ _ => rfl
  | step _ ih =>
    intro rule mode start settled
    have same := ih rule mode start settled
    rw [matchRule_refines_succ grammar size _ rule mode start (same ▸ settled), same]

/-! ## Orderly grammars -/

/-- A grammar whose rules reach only rules of lower rank before they pass over a character, and
repeat only what consumes. -/
structure Definition.Orderly (grammar : Definition Rule) where
  /-- The rules that pass over a character. -/
  solid : Rule → Bool
  rank : Rule → Nat
  /-- A bound on the ranks. -/
  height : Nat
  skips : ∀ cursor : Cursor, cursor.Leads (grammar.skip cursor)
  rank_lt : ∀ rule, rank rule < height
  consumes : ∀ rule, solid rule = true → (grammar.body rule).consumes solid = true
  turns : ∀ rule, (grammar.body rule).turnsConsume solid = true
  opens : ∀ rule,
    (grammar.body rule).opensWithin solid (fun inner => decide (rank inner < rank rule)) = true

namespace Definition.Orderly

variable {grammar : Definition Rule} (order : grammar.Orderly) {size : Nat}

include order in
/-- Matching rules to any depth moves forward. -/
theorem advancing (depth : Nat) : Advancing order.solid (grammar.matchRule size depth) := by
  induction depth with
  | zero => exact ⟨fun given => by contradiction, fun _ given => by contradiction⟩
  | succ depth ih =>
    refine ⟨fun given => ?_, fun solid given => ?_⟩
    · obtain ⟨_, body, -⟩ := ruleOutcome_eq_matched.mp given
      exact Expr.matchAt_leads order.skips ih _ body
    · obtain ⟨_, body, -⟩ := ruleOutcome_eq_matched.mp given
      exact Expr.matchAt_consumes order.skips ih _ (order.consumes _ solid) body

/-- An expression does not run out of depth, if rules do not further on and those it opens with do
not where it starts. -/
theorem matchAt_ne_exhausted {call : Rule → Mode → Cursor → Match Rule}
    (advancing : Advancing order.solid call) (allowed : Rule → Bool) (length : Nat)
    (further : ∀ rule mode (cursor : Cursor), cursor.rest.length < length →
      call rule mode cursor ≠ .exhausted)
    (here : ∀ rule mode (cursor : Cursor), allowed rule = true → cursor.rest.length = length →
      call rule mode cursor ≠ .exhausted)
    {mode : Mode} (expr : Expr Rule) (turns : expr.turnsConsume order.solid = true) (start : Cursor)
    (near : start.rest.length < length ∨
      start.rest.length = length ∧ expr.opensWithin order.solid allowed = true) :
    expr.matchAt grammar size call mode start ≠ .exhausted := by
  induction expr generalizing start with
  | one accepts =>
    simp only [Expr.matchAt]
    split
    · split <;> simp
    · simp
  | text characters =>
    simp only [Expr.matchAt]
    split <;> simp
  | rule name =>
    rcases near with shorter | ⟨same, allowed⟩
    · exact further name mode start shorter
    · exact here name mode start allowed same
  | seq first second firstSettles secondSettles =>
    obtain ⟨firstTurns, secondTurns⟩ := (Bool.and_eq_true _ _).mp turns
    refine Outcome.andThen_ne_exhausted (firstSettles firstTurns start ?_) ?_
    · exact near.imp_right fun even => ⟨even.1, ((Bool.and_eq_true _ _).mp even.2).1⟩
    · intro trees place given
      have led := (first.matchAt_leads order.skips advancing given).length_le
      have gap := (grammar.leads_gap order.skips mode place).length_le
      refine secondSettles secondTurns _ ?_
      rcases near with shorter | ⟨same, opens⟩
      · exact .inl (by omega)
      · rcases (Bool.or_eq_true _ _).mp ((Bool.and_eq_true _ _).mp opens).2 with eager | later
        · have less := first.matchAt_consumes order.skips advancing eager given
          exact .inl (by omega)
        · by_cases shorter : (grammar.gap mode place).rest.length < length
          · exact .inl shorter
          · exact .inr ⟨by omega, later⟩
  | choice first second firstSettles secondSettles =>
    obtain ⟨firstTurns, secondTurns⟩ := (Bool.and_eq_true _ _).mp turns
    have left := firstSettles firstTurns start
      (near.imp_right fun even => ⟨even.1, ((Bool.and_eq_true _ _).mp even.2).1⟩)
    have right := secondSettles secondTurns start
      (near.imp_right fun even => ⟨even.1, ((Bool.and_eq_true _ _).mp even.2).2⟩)
    simp only [Expr.matchAt]
    split
    · exact right
    · exact left
  | optional inner settles =>
    have once := settles turns start near
    simp only [Expr.matchAt]
    split
    · simp
    · exact once
  | many inner settles =>
    obtain ⟨innerTurns, consumes⟩ := (Bool.and_eq_true _ _).mp turns
    have once := settles innerTurns start near
    simp only [Expr.matchAt]
    split
    · next trees place given =>
      have less := inner.matchAt_consumes order.skips advancing consumes given
      refine Outcome.andThen_ne_exhausted (by simp) fun _ _ same => ?_
      obtain ⟨rfl, rfl⟩ := Prod.mk.inj (Outcome.matched.inj same)
      refine repeated_ne_exhausted _ _ (fun cursor led => ?_) fun cursor _ _ turn => ?_
      · have onward := led.length_le
        have gap := (grammar.leads_gap order.skips mode cursor).length_le
        exact settles innerTurns _ (.inl (by omega))
      · exact (grammar.leads_gap order.skips mode cursor).trans
          (inner.matchAt_leads order.skips advancing turn)
    · simp
    · next spent => exact absurd spent once
  | absent inner settles =>
    have once := settles turns start near
    simp only [Expr.matchAt]
    split
    · simp
    · simp
    · next spent => exact absurd spent once
  | ending =>
    simp only [Expr.matchAt]
    split <;> simp

/-- The depth that a rule needs at most. -/
def need (rule : Rule) (cursor : Cursor) : Nat :=
  order.height * cursor.rest.length + order.rank rule + 1

/-- No rule runs out of the depth that it needs. -/
theorem matchRule_ne_exhausted {depth : Nat} {rule : Rule} {mode : Mode} {cursor : Cursor}
    (enough : order.need rule cursor ≤ depth) :
    grammar.matchRule size depth rule mode cursor ≠ .exhausted := by
  induction depth generalizing rule mode cursor with
  | zero => exact absurd enough (by simp [need])
  | succ depth ih =>
    rw [matchRule_succ]
    intro spent
    refine matchAt_ne_exhausted order (order.advancing depth)
      (fun inner => decide (order.rank inner < order.rank rule))
      cursor.rest.length ?_ ?_ (grammar.body rule) (order.turns rule) cursor
      (.inr ⟨rfl, order.opens rule⟩) (ruleOutcome_eq_exhausted.mp spent)
    · intro inner mode place shorter
      refine ih ?_
      have low := order.rank_lt inner
      have grows : order.height * (place.rest.length + 1) ≤ order.height * cursor.rest.length :=
        Nat.mul_le_mul_left _ shorter
      rw [Nat.mul_add_one] at grows
      unfold need at enough ⊢
      omega
    · intro inner mode place lower same
      have below : order.rank inner < order.rank rule := of_decide_eq_true lower
      refine ih ?_
      unfold need at enough ⊢
      rw [same]
      omega

/-! ## Settled outcomes -/

/-- The outcome that matching a rule settles on. -/
def settled (size : Nat) (rule : Rule) (mode : Mode) (cursor : Cursor) : Match Rule :=
  grammar.matchRule size (order.need rule cursor) rule mode cursor

/-- Matching settles. -/
theorem settled_ne_exhausted (size : Nat) (rule : Rule) (mode : Mode) (cursor : Cursor) :
    order.settled size rule mode cursor ≠ .exhausted :=
  order.matchRule_ne_exhausted (Nat.le_refl _)

/-- Any depth that is enough gives the settled outcome. -/
theorem matchRule_eq_settled {depth : Nat} {rule : Rule} {mode : Mode} {cursor : Cursor}
    (enough : order.need rule cursor ≤ depth) :
    grammar.matchRule size depth rule mode cursor = order.settled size rule mode cursor :=
  grammar.matchRule_refines size enough rule mode cursor (order.settled_ne_exhausted size _ _ _)

/-- What any depth gives is the settled outcome. -/
theorem refines_settled (depth : Nat) :
    Refines (grammar.matchRule size depth) (order.settled size) := by
  intro rule mode cursor given
  have deep : grammar.matchRule size _ rule mode cursor = order.settled size rule mode cursor :=
    order.matchRule_eq_settled (Nat.le_max_right depth (order.need rule cursor))
  rw [← deep]
  exact grammar.matchRule_refines size (Nat.le_max_left _ _) rule mode cursor given

/-- The settled outcome of a rule is that of its expression over settled outcomes. -/
theorem settled_eq (size : Nat) (rule : Rule) (mode : Mode) (cursor : Cursor) :
    order.settled size rule mode cursor =
      ruleOutcome rule mode cursor ((grammar.body rule).matchAt grammar size (order.settled size)
        ((grammar.style rule).mode mode) cursor) := by
  have settles := order.settled_ne_exhausted size rule mode cursor
  have unfolded : order.settled size rule mode cursor =
      ruleOutcome rule mode cursor ((grammar.body rule).matchAt grammar size
        (grammar.matchRule size (order.height * cursor.rest.length + order.rank rule))
        ((grammar.style rule).mode mode) cursor) := rfl
  rw [unfolded] at settles ⊢
  rw [Expr.matchAt_refined (order.refines_settled _)]
  exact fun spent => settles (ruleOutcome_eq_exhausted.mpr spent)

/-- Settled matching moves forward. -/
theorem settled_advancing : Advancing order.solid (order.settled size) where
  leads given := (order.advancing _).leads given
  shorter solid given := (order.advancing _).shorter solid given

/-- Matching an expression over settled outcomes moves forward. -/
theorem leads_of_matched {mode : Mode} {expr : Expr Rule} {start finish : Cursor}
    {trees : List (ParseTree Rule)}
    (given : expr.matchAt grammar size (order.settled size) mode start = .matched (trees, finish)) :
    start.Leads finish :=
  expr.matchAt_leads order.skips order.settled_advancing given

end Definition.Orderly

end ScriptHost.Grammar
