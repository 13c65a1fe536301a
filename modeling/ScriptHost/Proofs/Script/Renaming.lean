import ScriptHost.Script.Block

/-!
# Renaming

A renaming puts one name in the place of another wherever a script means a variable: in the
names it reads or assigns to and in the locals it declares. The names of members and methods
are text and stay as they are.
-/

namespace ScriptHost.Script

/-- A name after a renaming. -/
def renameName (old new name : String) : String := if name = old then new else name

/-- Every other name stays. -/
theorem renameName_of_ne {old name : String} (new : String) (other : name ≠ old) :
    renameName old new name = name :=
  if_neg other

/-- Names other than the new one stay apart. -/
theorem renameName_inj {old new first second : String} (firstOld : first ≠ new)
    (secondOld : second ≠ new) :
    renameName old new first = renameName old new second ↔ first = second := by
  constructor
  · intro same
    unfold renameName at same
    split at same <;> split at same <;> simp_all
  · rintro rfl
    rfl

mutual

/-- An expression after a renaming. -/
def Expression.rename (old new : String) : Expression → Expression
  | .nil => .nil
  | .boolean value => .boolean value
  | .integer value => .integer value
  | .number value => .number value
  | .text value => .text value
  | .varargs => .varargs
  | .name name => .name (renameName old new name)
  | .index object key => .index (object.rename old new) (key.rename old new)
  | .call callee arguments =>
    .call (callee.rename old new) (Expression.renameAll old new arguments)
  | .method object name arguments =>
    .method (object.rename old new) name (Expression.renameAll old new arguments)
  | .binary op left right => .binary op (left.rename old new) (right.rename old new)
  | .unary op operand => .unary op (operand.rename old new)
  | .table fields => .table (Field.renameAll old new fields)
  | .paren inner => .paren (inner.rename old new)

/-- A list of expressions after a renaming. -/
def Expression.renameAll (old new : String) : List Expression → List Expression
  | [] => []
  | expression :: rest => expression.rename old new :: Expression.renameAll old new rest

/-- The fields of a table after a renaming. -/
def Field.renameAll (old new : String) : List Field → List Field
  | [] => []
  | .positional value :: rest => .positional (value.rename old new) :: Field.renameAll old new rest
  | .keyed key value :: rest =>
    .keyed (key.rename old new) (value.rename old new) :: Field.renameAll old new rest

end

/-- A statement after a renaming. -/
def Statement.rename (old new : String) : Statement → Statement
  | .declare names values =>
    .declare (names.map (renameName old new)) (Expression.renameAll old new values)
  | .assign targets values =>
    .assign (Expression.renameAll old new targets) (Expression.renameAll old new values)
  | .run call => .run (call.rename old new)

/-- A block after a renaming. -/
def Block.rename (old new : String) (block : Block) : Block where
  statements := block.statements.map (Statement.rename old new)
  result := block.result.map (Expression.renameAll old new)

mutual

/-- The variables that an expression names. -/
def Expression.variables : Expression → List String
  | .nil | .boolean _ | .integer _ | .number _ | .text _ | .varargs => []
  | .name name => [name]
  | .index object key => object.variables ++ key.variables
  | .call callee arguments => callee.variables ++ Expression.allVariables arguments
  | .method object _ arguments => object.variables ++ Expression.allVariables arguments
  | .binary _ left right => left.variables ++ right.variables
  | .unary _ operand => operand.variables
  | .table fields => Field.allVariables fields
  | .paren inner => inner.variables

/-- The variables that a list of expressions names. -/
def Expression.allVariables : List Expression → List String
  | [] => []
  | expression :: rest => expression.variables ++ Expression.allVariables rest

/-- The variables that the fields of a table name. -/
def Field.allVariables : List Field → List String
  | [] => []
  | .positional value :: rest => value.variables ++ Field.allVariables rest
  | .keyed key value :: rest => key.variables ++ value.variables ++ Field.allVariables rest

end

/-- The variables that a statement declares or names. -/
def Statement.variables : Statement → List String
  | .declare names values => names ++ Expression.allVariables values
  | .assign targets values => Expression.allVariables targets ++ Expression.allVariables values
  | .run call => call.variables

/-- The variables that a block declares or names. -/
def Block.variables (block : Block) : List String :=
  block.statements.flatMap Statement.variables ++
    (block.result.map Expression.allVariables).getD []

end ScriptHost.Script
