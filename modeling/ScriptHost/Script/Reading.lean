import ScriptHost.Binary.Decimal
import ScriptHost.Binary.Integral
import ScriptHost.Grammar.Chunk
import ScriptHost.Script.Block

/-!
# Reading scripts

A source is matched as a chunk first, as a whole. The tree then becomes a block,
statement by statement; on the way literals get their values, and four things that
the grammar allows are refused: an assignment to something that is no name or
member, a statement that is no call, an unknown escape in a string literal, and a
hexadecimal literal beyond the largest integer.
-/

namespace ScriptHost.Script

open ScriptHost.Binary ScriptHost.Grammar

/-- What the grammar allows and a script may not contain. -/
inductive Defect where
  | target
  | statement
  | escape
  | hexadecimal
deriving DecidableEq, Repr

/-- The wording of a defect. -/
def Defect.message : Defect → String
  | .target => "cannot assign to this expression"
  | .statement => "syntax error: expression is not a statement"
  | .escape => "invalid escape sequence"
  | .hexadecimal => "hexadecimal literal is too large"

/-- Why a source is no script. -/
inductive ReadError where
  /-- The grammar does not match. -/
  | mismatch
  /-- A defect of the part that starts after `offset` characters. -/
  | defect (kind : Defect) (offset : Nat)
  /-- A tree that no match gives. -/
  | malformed
deriving DecidableEq, Repr

/-- The wording of an error. -/
def ReadError.message : ReadError → String
  | .defect kind _ => kind.message
  | _ => "syntax"

/-- A tree of the chunk grammar. -/
abbrev ChunkTree : Type := ParseTree Rule

/-- The rule of a tree. -/
def treeRule : ChunkTree → Rule
  | .node rule _ _ _ => rule

/-- The number of a text of digits in a base up to sixteen. -/
def digitsValue (base : Nat) (digits : List Char) : Nat :=
  digits.foldl (fun value digit => value * base + digitValue digit) 0
where
  /-- The value of one digit. -/
  digitValue (digit : Char) : Nat :=
    if digit.isDigit then digit.toNat - '0'.toNat
    else if 'a' ≤ digit then digit.toNat - 'a'.toNat + 10
    else digit.toNat - 'A'.toNat + 10

/-- A hexadecimal literal with its two leading characters, absent if it is too large. -/
def hexLiteral? (text : List Char) : Option Expression :=
  let value := digitsValue 16 (text.drop 2)
  if value ≤ largestInt64 then some (.integer (Int64.ofNat value)) else none

/-- The number of a text of one or more decimal digits, absent for any other text. -/
def wholeNumber? (text : List Char) : Option Nat :=
  if !text.isEmpty && text.all Char.isDigit then some (digitsValue 10 text) else none

/-- An exponent with an optional sign, absent for a text that is none. -/
def readExponent? : List Char → Option Int
  | '+' :: digits => (wholeNumber? digits).map Int.ofNat
  | '-' :: digits => (wholeNumber? digits).map fun value => -Int.ofNat value
  | digits => (wholeNumber? digits).map Int.ofNat

/-- What follows the digits of a number: nothing, or the mark of an exponent and the exponent. -/
def readScale? : List Char → Option Int
  | [] => some 0
  | mark :: exponent => if mark == 'e' || mark == 'E' then readExponent? exponent else none

/-- A number as a decimal: digits with at most one point among them, then an exponent if there is
one. Absent for any other text. -/
def readDecimal? (text : List Char) : Option Decimal :=
  let whole := text.takeWhile Char.isDigit
  let (fraction, afterDigits) :=
    match text.dropWhile Char.isDigit with
    | '.' :: rest => (rest.takeWhile Char.isDigit, rest.dropWhile Char.isDigit)
    | rest => ([], rest)
  if (whole ++ fraction).isEmpty then none
  else
    (readScale? afterDigits).map fun scale =>
      ⟨digitsValue 10 (whole ++ fraction), scale - fraction.length⟩

/-- A number literal, absent for a text that is no number. -/
def numberLiteral? (text : List Char) : Option Expression :=
  (readDecimal? text).map fun decimal => .number (Datum.ofDecimal decimal)

/-- An integer literal. One beyond the largest integer is a number. -/
def integerLiteral? (text : List Char) : Option Expression :=
  match wholeNumber? text with
  | some value =>
    if value ≤ largestInt64 then some (.integer (Int64.ofNat value)) else numberLiteral? text
  | none => numberLiteral? text

/-- The character that an escape stands for. -/
def escaped? : Char → Option Char
  | 'n' => some '\n'
  | 't' => some '\t'
  | 'r' => some '\r'
  | '0' => some '\x00'
  | '\\' => some '\\'
  | '\x22' => some '\x22'
  | '\x27' => some '\x27'
  | _ => none

/-- The content of a string literal with its escapes replaced, absent if one is unknown. -/
def unescape? : List Char → Option (List Char)
  | [] => some []
  | '\\' :: character :: rest => do
    let value ← escaped? character
    let values ← unescape? rest
    some (value :: values)
  | ['\\'] => none
  | character :: rest => (unescape? rest).map (character :: ·)

/-- A step of reading. -/
abbrev Reading (Result : Type) : Type := Except ReadError Result

/-- A value that every matched text has. -/
def valueOrMalformed {Result : Type} : Option Result → Reading Result
  | some value => .ok value
  | none => .error .malformed

/-- The value of a string literal. -/
def stringLiteral (start : Nat) : List ChunkTree → Reading String
  | content :: _ =>
    match unescape? content.text with
    | some value => .ok (String.ofList value)
    | none => .error (.defect .escape start)
  | [] => .error .malformed

/-- The name that a tree covers. -/
def nameOf (tree : ChunkTree) : String := String.ofList tree.text

mutual

/-- The expression of a tree. -/
def readExpression : ChunkTree → Reading Expression
  | .node rule start size children =>
    match rule with
    | .expr => readFirst children
    | .orExpr | .andExpr | .cmpExpr | .addExpr | .mulExpr => readChain children
    | .concatExpr => readConcat children
    | .unaryExpr => readUnary children
    | .nilLiteral => .ok .nil
    | .trueLiteral => .ok (.boolean true)
    | .falseLiteral => .ok (.boolean false)
    | .integer => valueOrMalformed (integerLiteral? (start.take size))
    | .hexInteger =>
      match hexLiteral? (start.take size) with
      | some value => .ok value
      | none => .error (.defect .hexadecimal start.offset)
    | .float => valueOrMalformed (numberLiteral? (start.take size))
    | .string => do return .text (← stringLiteral start.offset children)
    | .varargs => .ok .varargs
    | .tableConstructor => do return .table (← readFields children)
    | .suffixedExpr => readSuffixed children
    | _ => .error .malformed

/-- The expression of the first tree. -/
def readFirst : List ChunkTree → Reading Expression
  | first :: _ => readExpression first
  | [] => .error .malformed

/-- Operands of one level, grouped from the left. -/
def readChain : List ChunkTree → Reading Expression
  | first :: rest => do readOperators (← readExpression first) rest
  | [] => .error .malformed

/-- Operators and their right operands, applied one after another. -/
def readOperators (left : Expression) : List ChunkTree → Reading Expression
  | [] => .ok left
  | operator :: operand :: rest =>
    match BinaryOperator.ofSymbol (nameOf operator) with
    | some op => do readOperators (.binary op left (← readExpression operand)) rest
    | none => .error .malformed
  | [_] => .error .malformed

/-- A concatenation, grouped from the right. -/
def readConcat : List ChunkTree → Reading Expression
  | [first] => readExpression first
  | first :: _ :: second :: _ => do
    let left ← readExpression first
    return .binary .concat left (← readExpression second)
  | _ => .error .malformed

/-- A sign or a negation with its operand, or an operand alone. -/
def readUnary : List ChunkTree → Reading Expression
  | [] => .error .malformed
  | [operand] => if treeRule operand = .unaryOp then .error .malformed else readExpression operand
  | first :: second :: _ =>
    if treeRule first = .unaryOp then do
      return .unary (if first.text = ['-'] then .minus else .not) (← readExpression second)
    else readExpression first

/-- A name or parentheses, with whatever follows it. -/
def readSuffixed : List ChunkTree → Reading Expression
  | .node .name start size _ :: suffixes =>
    readSuffixes (.name (String.ofList (start.take size))) suffixes
  | .node .parenExpr _ _ children :: suffixes => do
    readSuffixes (.paren (← readFirst children)) suffixes
  | _ => .error .malformed

/-- Members and calls, applied one after another. -/
def readSuffixes (object : Expression) : List ChunkTree → Reading Expression
  | [] => .ok object
  | .node rule _ _ children :: rest =>
    match rule, children with
    | .fieldSuffix, name :: _ => readSuffixes (.index object (.text (nameOf name))) rest
    | .indexSuffix, key :: _ => do readSuffixes (.index object (← readExpression key)) rest
    | .methodCall, name :: arguments => do
      readSuffixes (.method object (nameOf name) (← readArguments arguments)) rest
    | .call, arguments => do readSuffixes (.call object (← readArguments arguments)) rest
    | _, _ => .error .malformed

/-- The arguments of a call: a list in parentheses, one string or one table. -/
def readArguments : List ChunkTree → Reading (List Expression)
  | .node .callArgs _ _ children :: _ =>
    match children with
    | [] => .ok []
    | .node .exprList _ _ expressions :: _ => readExpressions expressions
    | argument :: _ => do return [← readExpression argument]
  | _ => .error .malformed

/-- The expressions of several trees. -/
def readExpressions : List ChunkTree → Reading (List Expression)
  | [] => .ok []
  | tree :: rest => do
    let expression ← readExpression tree
    return expression :: (← readExpressions rest)

/-- The fields of a table constructor. -/
def readFields : List ChunkTree → Reading (List Field)
  | [] => .ok []
  | .node rule _ _ children :: rest => do
    let field ←
      match rule, children with
      | .positionalField, value :: _ => do pure (Field.positional (← readExpression value))
      | .namedField, name :: value :: _ => do
        pure (Field.keyed (.text (nameOf name)) (← readExpression value))
      | .keyedField, key :: value :: _ => do
        let key ← readExpression key
        pure (Field.keyed key (← readExpression value))
      | _, _ => .error .malformed
    return field :: (← readFields rest)

end

/-- The expressions of a list. -/
def readList : ChunkTree → Reading (List Expression)
  | .node _ _ _ children => readExpressions children

/-- The targets of an assignment, each refused before the next one is read. -/
def readTargets : List ChunkTree → Reading (List Expression)
  | [] => .ok []
  | .node _ start _ children :: rest => do
    let target ← readSuffixed children
    if target.isAssignable then return target :: (← readTargets rest)
    else .error (.defect .target start.offset)

/-- The statement of a tree. -/
def readStatement : ChunkTree → Reading Statement
  | .node .localStatement _ _ (_ :: .node _ _ _ names :: values) => do
    let values ←
      match values with
      | [] => pure []
      | list :: _ => readList list
    return .declare (names.map nameOf) values
  | .node .assignment _ _ (.node _ _ _ targets :: values :: _) => do
    let targets ← readTargets targets
    return .assign targets (← readList values)
  | .node .callStatement start _ (.node _ _ _ children :: _) => do
    let call ← readSuffixed children
    if call.isCall then return .run call else .error (.defect .statement start.offset)
  | _ => .error .malformed

/-- The values after a `return`. -/
def readResult : List ChunkTree → Reading (List Expression)
  | [] => .ok []
  | .node .exprList _ _ children :: _ => readExpressions children
  | _ :: rest => readResult rest

/-- Statements and the `return` that may end them. -/
def readStatements : List ChunkTree → Reading Block
  | [] => .ok ⟨[], none⟩
  | [.node .returnStatement _ _ children] => do return ⟨[], some (← readResult children)⟩
  | tree :: rest => do
    let statement ← readStatement tree
    let block ← readStatements rest
    return ⟨statement :: block.statements, block.result⟩

/-- The block of a chunk's trees. -/
def readChunk : List ChunkTree → Reading Block
  | .node .chunk _ _ (.node .block _ _ statements :: _) :: _ => readStatements statements
  | _ => .error .malformed

/-- The script of a source. -/
def readScript (source : List Char) : Reading Block :=
  match matchChunk source with
  | .matched (trees, _) => readChunk trees
  | .refused => .error .mismatch
  | .exhausted => .error .malformed

/-- The line and column of an offset, from one. A column counts characters. -/
def position (source : List Char) (offset : Nat) : Nat × Nat :=
  (source.take offset).foldl
    (fun (line, column) character =>
      if character = '\n' then (line + 1, 1) else (line, column + 1)) (1, 1)

end ScriptHost.Script
