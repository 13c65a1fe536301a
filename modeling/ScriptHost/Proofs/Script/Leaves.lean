import ScriptHost.Proofs.Grammar.Words
import ScriptHost.Proofs.Script.WellFormed
import ScriptHost.Script.Reading

/-!
# Leaves of chunk trees

The trees without inner rules cover texts of a fixed form: a name tree covers a name, an
operator tree the symbol of an operator of its level, and a number tree a text that is
read as a number.
-/

namespace ScriptHost.Script

open ScriptHost.Binary ScriptHost.Grammar ScriptHost.Grammar.Expr

/-- A tree that a match in a source of some size leaves. -/
abbrev Grown (size : Nat) (tree : ChunkTree) : Prop := chunkOrder.Grown size tree

/-- A hidden rule of the chunk grammar names no rules. -/
theorem isRuleFree_of_hidden (rule : Rule) (hidden : chunkGrammar.style rule = .hidden) :
    (chunkGrammar.body rule).isRuleFree = true := by
  revert hidden
  cases rule <;> decide

section Trees

variable {size : Nat} {rule : Rule} {start : Cursor} {width : Nat} {children : List ChunkTree}

/-- The children of a grown tree are grown, and their rules are in an order that its rule yields. -/
theorem Grown.inner (grown : Grown size (.node rule start width children)) :
    rule.body.Yields (children.map ParseTree.root) ∧ ∀ child ∈ children, Grown size child :=
  Definition.Orderly.Grown.children isRuleFree_of_hidden grown

/-- A name tree covers a name. -/
theorem Grown.isName (grown : Grown size (.node .name start width children)) :
    isName (String.ofList (start.take width)) = true := by
  obtain ⟨mode, finish, shown, within, given⟩ := Definition.Orderly.Grown.settled grown
  have known := matching_name size shown within
  unfold matching at known
  rw [given] at known
  split at known
  · next named =>
    obtain ⟨tree, -⟩ := Prod.mk.inj (Outcome.matched.inj known)
    injection tree with tree
    injection tree with _ _ wide
    have covered : start.take width = leadingWord start.rest := by
      have whole := congrArg (List.take width) (leadingWord_append_afterWord start.rest)
      rwa [wide, List.take_left, ← wide, eq_comm] at whole
    rwa [Script.isName, String.toList_ofList, covered]
  · contradiction

end Trees

/-! ## Operators -/

/-- How tightly what a rule matches binds. -/
def ruleLevel : Rule → Nat
  | .expr | .orExpr | .orOp => 1
  | .andExpr | .andOp => 2
  | .cmpExpr | .cmpOp => 3
  | .concatExpr | .concatOp => 4
  | .addExpr | .addOp => 5
  | .mulExpr | .mulOp => 6
  | .unaryExpr | .unaryOp => unaryLevel
  | _ => unaryLevel + 1

/-- The operators of the levels that group to the left. -/
def isChainOperator : Rule → Bool
  | .orOp | .andOp | .cmpOp | .addOp | .mulOp => true
  | _ => false

/-- A tree of an operator covers the symbol of an operator of its level. -/
theorem Grown.operator {size : Nat} {tree : ChunkTree} (grown : Grown size tree)
    (chained : isChainOperator tree.root = true) :
    ∃ op, BinaryOperator.ofSymbol (nameOf tree) = some op ∧ op.level = ruleLevel tree.root ∧
      op.leftLevel = ruleLevel tree.root ∧ op.rightLevel = ruleLevel tree.root + 1 := by
  obtain ⟨rule, start, width, children⟩ := tree
  have spelled := Definition.Orderly.Grown.text grown
  have covered : nameOf (.node rule start width children) = String.ofList (start.take width) := rfl
  rw [covered]
  generalize start.take width = text at spelled ⊢
  cases rule <;> first | contradiction | skip
  all_goals
    replace spelled := spelled (by decide) (by decide)
    simp only [chunkGrammar, Rule.body, word, wordEnd, lit, oneOf, Expr.Spells] at spelled
  case orOp =>
    obtain ⟨_, _, rfl, rfl, rfl⟩ := spelled
    exact ⟨.or, rfl, rfl, rfl, rfl⟩
  case andOp =>
    obtain ⟨_, _, rfl, rfl, rfl⟩ := spelled
    exact ⟨.and, rfl, rfl, rfl, rfl⟩
  case cmpOp =>
    rcases spelled with rfl | rfl | rfl | rfl | rfl | rfl
    · exact ⟨.eq, rfl, rfl, rfl, rfl⟩
    · exact ⟨.notEq, rfl, rfl, rfl, rfl⟩
    · exact ⟨.lessEq, rfl, rfl, rfl, rfl⟩
    · exact ⟨.greaterEq, rfl, rfl, rfl, rfl⟩
    · exact ⟨.less, rfl, rfl, rfl, rfl⟩
    · exact ⟨.greater, rfl, rfl, rfl, rfl⟩
  case addOp =>
    rcases spelled with rfl | rfl
    · exact ⟨.add, rfl, rfl, rfl, rfl⟩
    · exact ⟨.sub, rfl, rfl, rfl, rfl⟩
  case mulOp =>
    rcases spelled with rfl | rfl | rfl
    · exact ⟨.mul, rfl, rfl, rfl, rfl⟩
    · exact ⟨.div, rfl, rfl, rfl, rfl⟩
    · exact ⟨.mod, rfl, rfl, rfl, rfl⟩

/-! ## Numbers -/

/-- Digits are what digit after digit spells. -/
theorem spells_digits {text : List Char}
    (spelled : (atLeastOnce (.one Char.isDigit) : Expr Rule).Spells text) :
    text ≠ [] ∧ ∀ character ∈ text, character.isDigit = true := by
  obtain ⟨_, _, rfl, ⟨first, rfl, digit⟩, turns, rfl, each⟩ := spelled
  refine ⟨by simp, ?_⟩
  rw [List.singleton_append, List.forall_mem_cons]
  refine ⟨digit, fun character member => ?_⟩
  obtain ⟨turn, known, inside⟩ := List.mem_flatten.mp member
  obtain ⟨other, rfl, also⟩ := each turn known
  rwa [List.mem_singleton.mp inside]

/-- Digits are a whole number. -/
theorem wholeNumber?_of_digits {text : List Char} (filled : text ≠ [])
    (digits : ∀ character ∈ text, character.isDigit = true) :
    wholeNumber? text = some (digitsValue 10 text) := by
  unfold wholeNumber?
  rw [if_pos]
  simp [filled, List.all_eq_true.mpr digits]

/-- What the exponent of a number spells is read as one. -/
theorem readScale?_of_spells {text : List Char} (spelled : exponentPart.Spells text) :
    ∃ scale, readScale? text = some scale := by
  simp only [exponentPart, Expr.sequence, oneOf, lit, Expr.Spells] at spelled
  obtain ⟨mark, _, rfl, marked, sign, digits, rfl, signed, spelled⟩ := spelled
  obtain ⟨filled, numeric⟩ := spells_digits spelled
  have whole := wholeNumber?_of_digits filled numeric
  obtain ⟨scale, read⟩ : ∃ scale, readExponent? (sign ++ digits) = some scale := by
    rcases signed with rfl | rfl | rfl
    · refine ⟨Int.ofNat (digitsValue 10 digits), ?_⟩
      rw [List.nil_append]
      unfold readExponent?
      split
      · exact absurd (numeric '+' (by simp)) (by decide)
      · exact absurd (numeric '-' (by simp)) (by decide)
      · rw [whole, Option.map_some]
    · exact ⟨_, congrArg (Option.map Int.ofNat) whole⟩
    · exact ⟨_, congrArg (Option.map fun value => -Int.ofNat value) whole⟩
  refine ⟨scale, ?_⟩
  rcases marked with rfl | rfl <;> exact read

/-- The exponent of a number does not start with a digit. -/
theorem stops_of_exponent {text : List Char} (spelled : exponentPart.Spells text) :
    Stops Char.isDigit text := by
  simp only [exponentPart, Expr.sequence, oneOf, lit, Expr.Spells] at spelled
  obtain ⟨mark, rest, rfl, marked, -⟩ := spelled
  intro character first
  rcases marked with rfl | rfl
  all_goals
    obtain rfl := Option.some.inj first
    rfl

/-- What a number with a point or an exponent spells is read as a number. -/
theorem numberLiteral?_of_float {text : List Char} (spelled : Rule.float.body.Spells text) :
    ∃ value, numberLiteral? text = some (.number value) := by
  obtain ⟨whole, after, rfl, spelled, tail⟩ := spelled
  obtain ⟨filled, digits⟩ := spells_digits spelled
  suffices known : ∃ decimal, readDecimal? (whole ++ after) = some decimal by
    obtain ⟨decimal, known⟩ := known
    exact ⟨Datum.ofDecimal decimal, by rw [numberLiteral?, known, Option.map_some]⟩
  rcases tail with ⟨point, _, rfl, rfl, fraction, scale, rfl, spelled, scaled⟩ | scaled
  · obtain ⟨-, more⟩ := spells_digits spelled
    have stops : Stops Char.isDigit scale := by
      rcases scaled with rfl | scaled
      · exact nofun
      · exact stops_of_exponent scaled
    obtain ⟨exponent, read⟩ : ∃ exponent, readScale? scale = some exponent := by
      rcases scaled with rfl | scaled
      · exact ⟨0, rfl⟩
      · exact readScale?_of_spells scaled
    have pointed : Stops Char.isDigit (".".toList ++ (fraction ++ scale)) := by
      intro character first
      obtain rfl := Option.some.inj first
      rfl
    unfold readDecimal?
    rw [takeWhile_of_stops digits pointed, dropWhile_of_stops digits pointed]
    show ∃ decimal, (if (whole ++ (fraction ++ scale).takeWhile Char.isDigit).isEmpty = true then none
      else (readScale? ((fraction ++ scale).dropWhile Char.isDigit)).map _) = some decimal
    rw [dropWhile_of_stops more stops, read, if_neg (by simp [filled])]
    exact ⟨_, rfl⟩
  · have stops := stops_of_exponent scaled
    obtain ⟨exponent, read⟩ := readScale?_of_spells scaled
    have bare : ∀ rest, after ≠ '.' :: rest := by
      rintro rest rfl
      simp only [exponentPart, Expr.sequence, oneOf, lit, Expr.Spells] at scaled
      obtain ⟨mark, _, whole, rfl | rfl, -⟩ := scaled
      · exact absurd (List.cons.inj whole).1 (by decide)
      · exact absurd (List.cons.inj whole).1 (by decide)
    unfold readDecimal?
    rw [takeWhile_of_stops digits stops, dropWhile_of_stops digits stops]
    split
    next fraction afterDigits parts =>
    split at parts
    · next rest => exact absurd rfl (bare rest)
    · obtain ⟨rfl, rfl⟩ := Prod.mk.inj parts
      rw [read, if_neg (by simp [filled])]
      exact ⟨_, rfl⟩

/-- An integer up to the largest one has no sign. -/
theorem zero_le_ofNat {value : Nat} (fits : (value : Int) ≤ largestInt64) : 0 ≤ Int64.ofNat value := by
  rw [Int64.le_iff_toInt_le, Int64.toInt_ofNat_of_lt (by unfold largestInt64 at fits; omega)]
  simp

/-- What an integer spells is read as an integer without a sign or as a number. -/
theorem integerLiteral?_of_integer {text : List Char} (spelled : Rule.integer.body.Spells text) :
    ∃ literal, integerLiteral? text = some literal ∧ literal.WellFormed ∧
      literal.level = unaryLevel + 1 := by
  obtain ⟨filled, digits⟩ := spells_digits spelled
  unfold integerLiteral?
  rw [wholeNumber?_of_digits filled digits]
  dsimp only
  split
  · next fits => exact ⟨_, rfl, by simpa [Expression.WellFormed] using zero_le_ofNat fits, rfl⟩
  · have all : text.takeWhile Char.isDigit = text := by
      simpa using @takeWhile_of_stops Char.isDigit text [] digits nofun
    have none : text.dropWhile Char.isDigit = [] := by
      simpa using @dropWhile_of_stops Char.isDigit text [] digits nofun
    obtain ⟨value, read⟩ : ∃ value, numberLiteral? text = some (.number value) := by
      unfold numberLiteral? readDecimal?
      rw [all, none]
      dsimp only
      rw [if_neg (by simpa using filled)]
      exact ⟨_, rfl⟩
    exact ⟨_, read, by simp [Expression.WellFormed], rfl⟩

/-- A hexadecimal literal that is not too large is an integer without a sign. -/
theorem wellFormed_of_hexLiteral? {text : List Char} {literal : Expression}
    (read : hexLiteral? text = some literal) :
    literal.WellFormed ∧ literal.level = unaryLevel + 1 := by
  unfold hexLiteral? at read
  dsimp only at read
  split at read
  · next fits =>
    obtain rfl := Option.some.inj read
    exact ⟨by simpa [Expression.WellFormed] using zero_le_ofNat fits, rfl⟩
  · contradiction

end ScriptHost.Script
