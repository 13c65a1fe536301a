import ScriptHost.Proofs.Grammar.Words
import ScriptHost.Script.Block

/-!
# Well-formed scripts

The scripts that can be written without further parentheses: names are identifiers,
integers have no sign, what is assigned to is a name or a member, what is run is a call,
what a member or a call is taken of is itself a name, a member, a call or in parentheses,
and every operand binds at least as tightly as its place asks for. Operators group to the
left, concatenation to the right.
-/

namespace ScriptHost.Script

open ScriptHost.Grammar

/-! ## How tightly operators bind -/

namespace BinaryOperator

/-- How tightly an operator binds, from `or` up to multiplication. -/
def level : BinaryOperator → Nat
  | or => 1
  | and => 2
  | eq | notEq | less | lessEq | greater | greaterEq => 3
  | concat => 4
  | add | sub => 5
  | mul | div | mod => 6

/-- How tightly the left operand binds at least. -/
def leftLevel : BinaryOperator → Nat
  | concat => 5
  | op => op.level

/-- How tightly the right operand binds at least. -/
def rightLevel : BinaryOperator → Nat
  | concat => 4
  | op => op.level + 1

end BinaryOperator

/-- How tightly signs and negations bind. -/
def unaryLevel : Nat := 7

namespace Expression

/-- How tightly an expression binds. -/
def level : Expression → Nat
  | binary op _ _ => op.level
  | unary _ _ => unaryLevel
  | _ => unaryLevel + 1

/-- Whether members and calls can be taken of an expression. -/
def isBase : Expression → Bool
  | name _ | paren _ | index _ _ | call _ _ | method _ _ _ => true
  | _ => false

end Expression

/-- Whether a text is a name. -/
def isName (name : String) : Bool := isNameText name.toList

/-! ## Well-formed expressions and statements -/

mutual

/-- Expressions that can be written as they are. -/
def Expression.WellFormed : Expression → Prop
  | .nil | .boolean _ | .number _ | .text _ | .varargs => True
  | .integer value => 0 ≤ value
  | .name name => isName name = true
  | .index object key => object.isBase = true ∧ object.WellFormed ∧ key.WellFormed
  | .call callee arguments =>
    callee.isBase = true ∧ callee.WellFormed ∧ Expression.AllWellFormed arguments
  | .method object name arguments =>
    object.isBase = true ∧ object.WellFormed ∧ isName name = true ∧
      Expression.AllWellFormed arguments
  | .binary op left right =>
    op.leftLevel ≤ left.level ∧ op.rightLevel ≤ right.level ∧ left.WellFormed ∧ right.WellFormed
  | .unary _ operand => unaryLevel ≤ operand.level ∧ operand.WellFormed
  | .table fields => Field.AllWellFormed fields
  | .paren inner => inner.WellFormed

/-- Lists of expressions that can be written. -/
def Expression.AllWellFormed : List Expression → Prop
  | [] => True
  | expression :: rest => expression.WellFormed ∧ Expression.AllWellFormed rest

/-- Fields of a table that can be written. -/
def Field.AllWellFormed : List Field → Prop
  | [] => True
  | .positional value :: rest => value.WellFormed ∧ Field.AllWellFormed rest
  | .keyed key value :: rest =>
    key.WellFormed ∧ value.WellFormed ∧ Field.AllWellFormed rest

end

/-- Statements that can be written. -/
def Statement.WellFormed : Statement → Prop
  | .declare names values =>
    names ≠ [] ∧ (∀ name ∈ names, isName name = true) ∧ Expression.AllWellFormed values
  | .assign targets values =>
    targets ≠ [] ∧ values ≠ [] ∧ (∀ target ∈ targets, target.isAssignable = true) ∧
      Expression.AllWellFormed targets ∧ Expression.AllWellFormed values
  | .run call => call.isCall = true ∧ call.WellFormed

/-- Scripts that can be written. -/
structure Block.WellFormed (block : Block) : Prop where
  statements : ∀ statement ∈ block.statements, statement.WellFormed
  result : ∀ expressions, block.result = some expressions → Expression.AllWellFormed expressions

/-- A field of a table that can be written. -/
def Field.WellFormed : Field → Prop
  | .positional value => value.WellFormed
  | .keyed key value => key.WellFormed ∧ value.WellFormed

/-- Fields are well-formed where the first one and the others are. -/
theorem Field.allWellFormed_cons {field : Field} {rest : List Field} :
    AllWellFormed (field :: rest) ↔ field.WellFormed ∧ AllWellFormed rest := by
  cases field with
  | positional value => rfl
  | keyed key value => exact and_assoc.symm

/-- Assignable expressions are bases. -/
theorem Expression.isBase_of_isAssignable {expression : Expression}
    (assignable : expression.isAssignable = true) : expression.isBase = true := by
  cases expression <;> first | rfl | contradiction

/-- Calls are bases. -/
theorem Expression.isBase_of_isCall {expression : Expression}
    (called : expression.isCall = true) : expression.isBase = true := by
  cases expression <;> first | rfl | contradiction

/-- A base binds most tightly. -/
theorem Expression.level_of_isBase {expression : Expression} (base : expression.isBase = true) :
    expression.level = unaryLevel + 1 := by
  cases expression <;> first | rfl | contradiction

end ScriptHost.Script
