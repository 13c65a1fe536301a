import ScriptHost.Binary.Datum

/-!
# Scripts

A script is a block of statements that can end by returning values. Calls and the
extra arguments are the only expressions that give a number of values other than
one, and parentheses cut those to one.
-/

namespace ScriptHost.Script

open ScriptHost.Binary

/-- Operators with two operands. -/
inductive BinaryOperator where
  | add | sub | mul | div | mod | concat | eq | notEq | less | lessEq | greater | greaterEq
  | and | or
deriving DecidableEq, Repr

/-- The operator that a symbol stands for. -/
def BinaryOperator.ofSymbol : String → Option BinaryOperator
  | "+" => some .add
  | "-" => some .sub
  | "*" => some .mul
  | "/" => some .div
  | "%" => some .mod
  | ".." => some .concat
  | "==" => some .eq
  | "~=" => some .notEq
  | "<" => some .less
  | "<=" => some .lessEq
  | ">" => some .greater
  | ">=" => some .greaterEq
  | "and" => some .and
  | "or" => some .or
  | _ => none

/-- The name of an operator. -/
def BinaryOperator.label : BinaryOperator → String
  | .add => "Add"
  | .sub => "Sub"
  | .mul => "Mul"
  | .div => "Div"
  | .mod => "Mod"
  | .concat => "Concat"
  | .eq => "Eq"
  | .notEq => "NotEq"
  | .less => "Less"
  | .lessEq => "LessEq"
  | .greater => "Greater"
  | .greaterEq => "GreaterEq"
  | .and => "And"
  | .or => "Or"

/-- Operators with one operand. -/
inductive UnaryOperator where
  | minus | not
deriving DecidableEq, Repr

/-- The name of an operator. -/
def UnaryOperator.label : UnaryOperator → String
  | .minus => "Minus"
  | .not => "Not"

mutual

/-- Expressions. -/
inductive Expression where
  | nil
  | boolean (value : Bool)
  | integer (value : Int64)
  | number (value : Double)
  | text (value : String)
  /-- The arguments beyond the parameters. -/
  | varargs
  | name (name : String)
  /-- A member of an object. A field name is a text key. -/
  | index (object key : Expression)
  | call (callee : Expression) (arguments : List Expression)
  /-- A method call, which passes or selects the object itself. -/
  | method (object : Expression) (name : String) (arguments : List Expression)
  | binary (op : BinaryOperator) (left right : Expression)
  | unary (op : UnaryOperator) (operand : Expression)
  | table (fields : List Field)
  /-- Parentheses keep one value. -/
  | paren (inner : Expression)

/-- Fields of a table constructor. -/
inductive Field where
  /-- A value at the next position. -/
  | positional (value : Expression)
  | keyed (key value : Expression)

end

namespace Expression

/-- Whether an expression is a call. -/
def isCall : Expression → Bool
  | call .. | method .. => true
  | _ => false

/-- Whether an expression can be assigned to. -/
def isAssignable : Expression → Bool
  | name .. | index .. => true
  | _ => false

/-- Whether an expression gives a variable number of values. -/
def isMultiple : Expression → Bool
  | varargs => true
  | expression => expression.isCall

end Expression

/-- Statements. -/
inductive Statement where
  /-- Declares locals. -/
  | declare (names : List String) (values : List Expression)
  /-- Assigns to names and members. -/
  | assign (targets values : List Expression)
  /-- A call whose results are dropped. -/
  | run (call : Expression)

/-- Statements and the values returned after them, if there is a `return`. -/
structure Block where
  statements : List Statement
  result : Option (List Expression)

end ScriptHost.Script
