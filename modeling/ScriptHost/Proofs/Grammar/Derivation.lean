import ScriptHost.Proofs.Grammar.Forest

/-!
# Deriving matches

In an orderly grammar, what an expression matches at a place follows from what its parts
match: there is one law for each way an expression matches, and one for each way it is
refused. The parts of a sequence of a spaced rule meet where the blanks between them end.
-/

namespace ScriptHost.Grammar

variable {Rule : Type} {grammar : Definition Rule}

/-- The place behind some characters. -/
def Cursor.past (cursor : Cursor) (characters : List Char) : Cursor :=
  ⟨cursor.offset + characters.length, cursor.rest.drop characters.length⟩

namespace Definition.Orderly

variable (order : grammar.Orderly) (size : Nat) (mode : Mode)

/-- An expression matches from one place to another and leaves some trees. -/
def Parses (expr : Expr Rule) (start : Cursor) (trees : List (ParseTree Rule)) (finish : Cursor) :
    Prop :=
  expr.matchAt grammar size (order.settled size) mode start = .matched (trees, finish)

/-- An expression does not match at a place. -/
def Refuses (expr : Expr Rule) (start : Cursor) : Prop :=
  expr.matchAt grammar size (order.settled size) mode start = .refused

variable {order size mode} {first second inner : Expr Rule} {start place finish : Cursor}
  {trees more : List (ParseTree Rule)}

/-- Matching moves forward. -/
theorem Parses.leads (parses : order.Parses size mode inner start trees finish) :
    start.Leads finish := order.leads_of_matched parses

/-! ## Rules -/

/-- A rule that is not hidden leaves one tree, over those of its expression. -/
theorem Parses.rule {rule : Rule} (shown : mode ≠ .hidden)
    (body : order.Parses size ((grammar.style rule).mode mode) (grammar.body rule) start trees
      finish) :
    order.Parses size mode (.rule rule) start [treeBetween rule start finish trees] finish := by
  unfold Parses at body
  show order.settled size rule mode start = _
  rw [order.settled_eq, body]
  exact if_neg shown

/-- A rule is refused where its expression is. -/
theorem Refuses.rule {rule : Rule}
    (body : order.Refuses size ((grammar.style rule).mode mode) (grammar.body rule) start) :
    order.Refuses size mode (.rule rule) start := by
  unfold Refuses at body
  show order.settled size rule mode start = _
  rw [order.settled_eq, body]
  rfl

/-! ## Characters and texts -/

/-- A character of the class matches. -/
theorem Parses.one {accepts : Char → Bool} {character : Char} {offset : Nat} {rest : List Char}
    (accepted : accepts character = true) :
    order.Parses size mode (.one accepts) ⟨offset, character :: rest⟩ [] ⟨offset + 1, rest⟩ :=
  if_pos accepted

/-- A fixed text matches where it stands. -/
theorem Parses.text {characters : List Char} (starts : characters <+: start.rest) :
    order.Parses size mode (.text characters) start [] (start.past characters) :=
  if_pos (List.isPrefixOf_iff_prefix.mpr starts)

/-- A fixed text is refused where it does not stand. -/
theorem Refuses.text {characters : List Char}
    (differs : characters.isPrefixOf start.rest = false) :
    order.Refuses size mode (.text characters) start := by
  unfold Refuses Expr.matchAt
  rw [differs]
  rfl

/-! ## Sequences and choices -/

/-- Two parts match one after the other, the second one behind the gap. -/
theorem Parses.seq (one : order.Parses size mode first start trees place)
    (two : order.Parses size mode second (grammar.gap mode place) more finish) :
    order.Parses size mode (.seq first second) start (trees ++ more) finish :=
  Outcome.andThen_eq_matched.mpr ⟨trees, place, more, one, two, rfl⟩

/-- A sequence is refused where its first part is. -/
theorem Refuses.seq_first (one : order.Refuses size mode first start) :
    order.Refuses size mode (.seq first second) start := by
  unfold Refuses at one
  unfold Refuses Expr.matchAt
  rw [one, Outcome.andThen_refused]

/-- A sequence is refused where its second part is, behind the first one. -/
theorem Refuses.seq_second (one : order.Parses size mode first start trees place)
    (two : order.Refuses size mode second (grammar.gap mode place)) :
    order.Refuses size mode (.seq first second) start := by
  unfold Parses at one
  unfold Refuses at two
  unfold Refuses Expr.matchAt
  rw [one]
  exact Outcome.andThen_of_refused trees two

/-- The first alternative matches. -/
theorem Parses.choice_first (one : order.Parses size mode first start trees finish) :
    order.Parses size mode (.choice first second) start trees finish := by
  unfold Parses at one ⊢
  rw [Expr.matchAt, one]

/-- The second alternative matches where the first one is refused. -/
theorem Parses.choice_second (one : order.Refuses size mode first start)
    (two : order.Parses size mode second start trees finish) :
    order.Parses size mode (.choice first second) start trees finish := by
  unfold Refuses at one
  unfold Parses at two ⊢
  rw [Expr.matchAt, one]
  exact two

/-- A choice is refused where both alternatives are. -/
theorem Refuses.choice (one : order.Refuses size mode first start)
    (two : order.Refuses size mode second start) :
    order.Refuses size mode (.choice first second) start := by
  unfold Refuses at one two ⊢
  rw [Expr.matchAt, one]
  exact two

/-- An optional part matches. -/
theorem Parses.optional (one : order.Parses size mode inner start trees finish) :
    order.Parses size mode (.optional inner) start trees finish := by
  unfold Parses at one ⊢
  rw [Expr.matchAt, one]

/-- An optional part is left out where it is refused. -/
theorem Parses.optional_none (one : order.Refuses size mode inner start) :
    order.Parses size mode (.optional inner) start [] start := by
  unfold Refuses at one
  unfold Parses
  rw [Expr.matchAt, one]

/-- What is looked for is absent. -/
theorem Parses.absent (one : order.Refuses size mode inner start) :
    order.Parses size mode (.absent inner) start [] start := by
  unfold Refuses at one
  unfold Parses
  rw [Expr.matchAt, one]

/-- What must be absent is there. -/
theorem Refuses.absent (one : order.Parses size mode inner start trees finish) :
    order.Refuses size mode (.absent inner) start := by
  unfold Parses at one
  unfold Refuses
  rw [Expr.matchAt, one]

/-! ## Repetitions -/

/-- A turn of a repetition, behind the gap. -/
def nextTurn (order : grammar.Orderly) (size : Nat) (mode : Mode) (inner : Expr Rule)
    (cursor : Cursor) : Match Rule :=
  inner.matchAt grammar size (order.settled size) mode (grammar.gap mode cursor)

/-- One more turn in front. -/
theorem Parses.turn (one : order.Parses size mode inner (grammar.gap mode start) trees place)
    (rest : Turns (order.nextTurn size mode inner) place more finish) :
    Turns (order.nextTurn size mode inner) start (trees ++ more) finish := .turn one rest

/-- One more turn at the end. -/
theorem Parses.lastTurn (turns : Turns (order.nextTurn size mode inner) start trees place)
    (one : order.Parses size mode inner (grammar.gap mode place) more finish) :
    Turns (order.nextTurn size mode inner) start (trees ++ more) finish := turns.snoc one

/-- A repetition takes its turns until one is refused, if each of them consumes and no gap stands
where it starts. -/
theorem Parses.many (consuming : inner.consumes order.solid = true) (within : start.Within size)
    (close : grammar.gap mode start = start)
    (turns : Turns (order.nextTurn size mode inner) start trees finish)
    (stopped : order.Refuses size mode inner (grammar.gap mode finish)) :
    order.Parses size mode (.many inner) start trees finish := by
  have consumes (cursor : Cursor) (trees : List (ParseTree Rule)) (place : Cursor)
      (given : order.nextTurn size mode inner cursor = .matched (trees, place)) :
      place.rest.length < cursor.rest.length := by
    have less := inner.matchAt_consumes order.skips order.settled_advancing consuming given
    have gap := (grammar.leads_gap order.skips mode cursor).length_le
    omega
  unfold Parses
  cases turns with
  | none =>
    rw [close] at stopped
    unfold Refuses at stopped
    rw [Expr.matchAt, stopped]
  | @turn _ place _ trees more one rest =>
    have led : place.Within size := by
      unfold nextTurn at one
      rw [close] at one
      exact (Parses.leads one).within within
    have enough : place.rest.length ≤ size - place.offset := by
      unfold Cursor.Within at led
      omega
    have others := repeated_of_turns consumes rest stopped enough
    unfold nextTurn at one
    rw [close] at one
    rw [Expr.matchAt, one]
    exact Outcome.andThen_eq_matched.mpr ⟨trees, place, more, rfl, others, rfl⟩

end Definition.Orderly

end ScriptHost.Grammar
