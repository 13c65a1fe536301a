import ScriptHost.Grammar.Chunk
import ScriptHost.Proofs.Grammar.Settling

/-!
# The order of the chunk grammar

The chunk grammar is orderly: from a statement list down to an operator the rules have
falling ranks, and only a block, the content of a string and the end of the source can be
empty. So the depth that matching a chunk starts with is never used up, whatever the source.
-/

namespace ScriptHost.Grammar

/-! ## Blanks -/

/-- Passing over blanks moves forward. -/
theorem skipBlanks_leads (offset : Nat) (inComment : Bool) (rest : List Char) :
    Cursor.Leads ⟨offset, rest⟩ (skipBlanks offset inComment rest) := by
  fun_induction skipBlanks offset inComment rest with
  | case1 => exact .refl _
  | case2 offset character rest ih => exact (Cursor.Leads.pass offset [character] rest).trans ih
  | case3 offset _ character rest _ _ ih =>
    exact (Cursor.Leads.pass offset [character] rest).trans ih
  | case4 offset _ _ comment _ ih => exact (Cursor.Leads.pass offset ['-', '-'] comment).trans ih
  | case5 => exact .refl _

/-! ## Ranks -/

/-- Whether every match of a rule passes over a character. -/
def Rule.isSolid : Rule → Bool
  | .chunk | .block | .dqContent | .sqContent | .endOfInput => false
  | _ => true

/-- How many rules can stand inside one another before a rule passes over a character. -/
def Rule.rank : Rule → Nat
  | .exprList | .positionalField => 10
  | .expr => 9
  | .orExpr => 8
  | .andExpr => 7
  | .cmpExpr => 6
  | .concatExpr | .chunk => 5
  | .addExpr | .block => 4
  | .mulExpr | .assignment => 3
  | .unaryExpr | .call | .targetList | .callStatement => 2
  | .unaryOp | .suffixedExpr | .callArgs | .namedField | .nameList | .localStatement
  | .returnStatement => 1
  | _ => 0

/-- The chunk grammar is orderly. -/
def chunkOrder : chunkGrammar.Orderly where
  solid := Rule.isSolid
  rank := Rule.rank
  height := 11
  skips cursor := skipBlanks_leads cursor.offset false cursor.rest
  rank_lt rule := by cases rule <;> decide
  consumes rule := by cases rule <;> decide
  turns rule := by cases rule <;> decide
  opens rule := by cases rule <;> decide

/-- The outcome that a rule of the chunk grammar settles on in a source of some size. -/
abbrev matching (size : Nat) (rule : Rule) (mode : Mode) (cursor : Cursor) : Match Rule :=
  chunkOrder.settled size rule mode cursor

/-- Matching a source as a chunk settles. -/
theorem matchChunk_eq (source : List Char) :
    matchChunk source = matching source.length .chunk .spaced ⟨0, source⟩ := by
  refine chunkOrder.matchRule_eq_settled ?_
  show 11 * source.length + 5 + 1 ≤ 16 * (source.length + 2)
  omega

/-- The depth for a chunk is never used up. -/
theorem matchChunk_ne_exhausted (source : List Char) : matchChunk source ≠ .exhausted := by
  rw [matchChunk_eq]
  exact chunkOrder.settled_ne_exhausted _ _ _ _

end ScriptHost.Grammar
