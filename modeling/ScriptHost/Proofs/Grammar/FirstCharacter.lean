import ScriptHost.Proofs.Grammar.Derivation

/-!
# What the next character rules out

Most rules are ruled out at a place by the next character alone, or by there being none.
Which ones are is computed from the grammar, down to a nesting depth of rules.
-/

namespace ScriptHost.Grammar

variable {Rule : Type} {grammar : Definition Rule}

namespace Expr

/-- Whether an expression only looks ahead. -/
def isGlance : Expr Rule → Bool
  | absent _ => true
  | _ => false

/-- Whether the next character rules an expression out, given the rules that it rules out. -/
def rejects (known : Rule → Bool) (next : Option Char) : Expr Rule → Bool
  | one accepts => !next.any accepts
  | text characters => !characters.isEmpty && characters.head? != next
  | rule name => known name
  | seq first second =>
    first.rejects known next || (first.isGlance && second.rejects known next)
  | choice first second => first.rejects known next && second.rejects known next
  | ending => next.isSome
  | optional _ | many _ | absent _ => false

end Expr

/-- Whether the next character rules a rule out, looking at rules down to a depth. -/
def Definition.rejects (grammar : Definition Rule) (next : Option Char) : Nat → Rule → Bool
  | 0, _ => false
  | depth + 1, rule => (grammar.body rule).rejects (grammar.rejects next depth) next

namespace Definition.Orderly

variable {order : grammar.Orderly} {size : Nat} {mode : Mode} {start : Cursor}

/-- Matching over settled outcomes settles. -/
theorem matchAt_settles (expr : Expr Rule) (turns : expr.turnsConsume order.solid = true) :
    expr.matchAt grammar size (order.settled size) mode start ≠ .exhausted :=
  matchAt_ne_exhausted order order.settled_advancing (fun _ => true) (start.rest.length + 1)
    (fun _ _ _ _ => order.settled_ne_exhausted size _ _ _)
    (fun _ _ _ _ _ => order.settled_ne_exhausted size _ _ _) expr turns start
    (.inl (Nat.lt_succ_self _))

/-- An expression that the next character rules out is refused where no gap stands. -/
theorem refuses_of_rejected {known : Rule → Bool}
    (sound : ∀ mode name, known name = true → order.Refuses size mode (.rule name) start)
    (close : grammar.gap mode start = start) (expr : Expr Rule)
    (turns : expr.turnsConsume order.solid = true)
    (rejected : expr.rejects known start.rest.head? = true) :
    order.Refuses size mode expr start := by
  induction expr with
  | one accepts =>
    obtain ⟨offset, rest⟩ := start
    cases rest with
    | nil => rfl
    | cons character rest =>
      have other : accepts character = false := by simpa [Expr.rejects] using rejected
      unfold Refuses Expr.matchAt
      simp [other]
  | text characters =>
    refine Refuses.text ?_
    obtain ⟨offset, rest⟩ := start
    cases characters with
    | nil => simp [Expr.rejects] at rejected
    | cons first others =>
      cases rest with
      | nil => rfl
      | cons character rest =>
        have differs : first ≠ character := by simpa [Expr.rejects] using rejected
        simp [List.isPrefixOf, differs]
  | rule name => exact sound mode name rejected
  | seq first second firstRefused secondRefused =>
    obtain ⟨firstTurns, secondTurns⟩ := (Bool.and_eq_true _ _).mp turns
    rcases (Bool.or_eq_true _ _).mp rejected with here | after
    · exact Refuses.seq_first (firstRefused firstTurns here)
    · obtain ⟨glance, there⟩ := (Bool.and_eq_true _ _).mp after
      have later := secondRefused secondTurns there
      cases first <;> first | contradiction | skip
      case absent inner =>
        cases found : inner.matchAt grammar size (order.settled size) mode start with
        | matched result => exact Refuses.seq_first (Refuses.absent found)
        | refused =>
          refine Refuses.seq_second (Parses.absent found) ?_
          rwa [close]
        | exhausted => exact absurd found (matchAt_settles inner firstTurns)
  | choice first second firstRefused secondRefused =>
    obtain ⟨firstTurns, secondTurns⟩ := (Bool.and_eq_true _ _).mp turns
    obtain ⟨here, there⟩ := (Bool.and_eq_true _ _).mp rejected
    exact Refuses.choice (firstRefused firstTurns here) (secondRefused secondTurns there)
  | optional | many | absent => contradiction
  | ending =>
    obtain ⟨offset, rest⟩ := start
    cases rest with
    | nil => contradiction
    | cons character rest => rfl

/-- A rule that the next character rules out is refused where no blanks stand. -/
theorem refuses_of_rejects (depth : Nat) {rule : Rule} (close : grammar.skip start = start)
    (rejected : grammar.rejects start.rest.head? depth rule = true) :
    order.Refuses size mode (.rule rule) start := by
  have everywhere (mode : Mode) : grammar.gap mode start = start := by
    unfold Definition.gap
    rw [close, ite_self]
  induction depth generalizing mode rule with
  | zero => contradiction
  | succ depth ih =>
    exact Refuses.rule <| refuses_of_rejected (fun _ _ known => ih known) (everywhere _) _
      (order.turns rule) rejected

end Definition.Orderly

end ScriptHost.Grammar
