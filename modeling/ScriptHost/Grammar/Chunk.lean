import ScriptHost.Grammar.Matching

/-!
# The grammar of chunks

A chunk is a block: statements, then an optional `return`. Binary operators bind in
six levels, from `or` up to multiplication. Blanks are spaces, tabs, line breaks and
comments, which run from two hyphens to the end of their line.
-/

namespace ScriptHost.Grammar

/-- The rules that leave trees. -/
inductive Rule where
  | chunk | block | localStatement | assignment | callStatement | returnStatement
  | nameList | targetList | exprList
  | expr | orExpr | andExpr | cmpExpr | concatExpr | addExpr | mulExpr | unaryExpr
  | orOp | andOp | notOp | cmpOp | concatOp | addOp | mulOp | unaryOp
  | nilLiteral | trueLiteral | falseLiteral | varargs
  | hexInteger | float | integer | string | dqContent | sqContent
  | suffixedExpr | parenExpr | fieldSuffix | indexSuffix | methodCall | call | callArgs
  | tableConstructor | keyedField | namedField | positionalField
  | name | localKw | returnKw | endOfInput
deriving DecidableEq, Repr

/-- The name of a rule in tree listings. -/
def Rule.label : Rule → String
  | .chunk => "chunk" | .block => "block" | .localStatement => "local_statement"
  | .assignment => "assignment" | .callStatement => "call_statement"
  | .returnStatement => "return_statement" | .nameList => "name_list"
  | .targetList => "target_list" | .exprList => "expr_list" | .expr => "expr"
  | .orExpr => "or_expr" | .andExpr => "and_expr" | .cmpExpr => "cmp_expr"
  | .concatExpr => "concat_expr" | .addExpr => "add_expr" | .mulExpr => "mul_expr"
  | .unaryExpr => "unary_expr" | .orOp => "or_op" | .andOp => "and_op" | .notOp => "not_op"
  | .cmpOp => "cmp_op" | .concatOp => "concat_op" | .addOp => "add_op" | .mulOp => "mul_op"
  | .unaryOp => "unary_op" | .nilLiteral => "nil_literal" | .trueLiteral => "true_literal"
  | .falseLiteral => "false_literal" | .varargs => "varargs" | .hexInteger => "hex_integer"
  | .float => "float" | .integer => "integer" | .string => "string"
  | .dqContent => "dq_content" | .sqContent => "sq_content" | .suffixedExpr => "suffixed_expr"
  | .parenExpr => "paren_expr" | .fieldSuffix => "field_suffix"
  | .indexSuffix => "index_suffix" | .methodCall => "method_call" | .call => "call"
  | .callArgs => "call_args" | .tableConstructor => "table_constructor"
  | .keyedField => "keyed_field" | .namedField => "named_field"
  | .positionalField => "positional_field" | .name => "name" | .localKw => "local_kw"
  | .returnKw => "return_kw" | .endOfInput => "EOI"

namespace Expr

/-- A fixed text given as a string. -/
def lit (text : String) : Expr Rule := .text text.toList

/-- One part after another. -/
def sequence : Expr Rule → List (Expr Rule) → Expr Rule
  | first, [] => first
  | first, second :: rest => .seq first (sequence second rest)

/-- Alternatives in order. -/
def oneOf : Expr Rule → List (Expr Rule) → Expr Rule
  | first, [] => first
  | first, second :: rest => .choice first (oneOf second rest)

/-- Items with separators between them. -/
def separated (item separator : Expr Rule) : Expr Rule := .seq item (.many (.seq separator item))

end Expr

open ScriptHost.Grammar.Expr

/-- An ASCII letter. -/
def isLetter (character : Char) : Bool := character.isAlpha

/-- A character that can follow the first one of an identifier. -/
def isIdentifierPart (character : Char) : Bool := character.isAlphanum || character == '_'

/-- A character that can start an identifier. -/
def isIdentifierStart (character : Char) : Bool := isLetter character || character == '_'

/-- An ASCII hexadecimal digit. -/
def isHexDigit (character : Char) : Bool :=
  character.isDigit || ('a' ≤ character && character ≤ 'f') || ('A' ≤ character && character ≤ 'F')

/-- No identifier character follows. -/
def wordEnd : Expr Rule := .absent (.one isIdentifierPart)

/-- A reserved word, not followed by an identifier character. -/
def word (text : String) : Expr Rule := .seq (lit text) wordEnd

/-- The reserved words. -/
def reservedWord : Expr Rule :=
  .seq (oneOf (lit "local") [lit "return", lit "nil", lit "true", lit "false", lit "and", lit "or",
    lit "not"]) wordEnd

/-- An expression at least once. -/
def atLeastOnce (inner : Expr Rule) : Expr Rule := .seq inner (.many inner)

/-- The exponent of a number. -/
def exponentPart : Expr Rule :=
  sequence (oneOf (lit "e") [lit "E"])
    [.optional (oneOf (lit "+") [lit "-"]), atLeastOnce (.one Char.isDigit)]

/-- A backslash and the character it escapes. -/
def escapePair : Expr Rule := .seq (lit "\\") (.one fun _ => true)

/-- The characters of a string literal up to its closing quote. -/
def stringContent (quote : Char) : Expr Rule :=
  .many (.choice escapePair
    (.one fun character => character != quote && character != '\\' && character != '\n'))

/-- A number in any notation. -/
def numberLiteral : Expr Rule := oneOf (.rule .hexInteger) [.rule .float, .rule .integer]

/-- An operand without a sign. -/
def atom : Expr Rule :=
  oneOf (.rule .nilLiteral) [.rule .trueLiteral, .rule .falseLiteral, numberLiteral, .rule .string,
    .rule .varargs, .rule .tableConstructor, .rule .suffixedExpr]

/-- What can follow an expression that names a place or a value. -/
def suffix : Expr Rule :=
  oneOf (.rule .fieldSuffix) [.rule .indexSuffix, .rule .methodCall, .rule .call]

/-- One field of a table constructor. -/
def tableField : Expr Rule :=
  oneOf (.rule .keyedField) [.rule .namedField, .rule .positionalField]

/-- What separates the fields of a table constructor. -/
def fieldSeparator : Expr Rule := oneOf (lit ",") [lit ";"]

/-- One statement or an empty one. -/
def statement : Expr Rule :=
  oneOf (lit ";") [.rule .localStatement, .rule .assignment, .rule .callStatement]

/-- Operands of one level with operators between them. -/
def chain (operand operator : Rule) : Expr Rule := separated (.rule operand) (.rule operator)

/-- The expression of each rule. -/
def Rule.body : Rule → Expr Rule
  | .chunk => sequence (lit "") [.rule .block, .rule .endOfInput]
  | .block => .seq (.many statement) (.optional (.rule .returnStatement))
  | .localStatement =>
    sequence (.rule .localKw)
      [.rule .nameList, .optional (.seq (lit "=") (.rule .exprList))]
  | .assignment => sequence (.rule .targetList) [lit "=", .rule .exprList]
  | .callStatement => .rule .suffixedExpr
  | .returnStatement =>
    sequence (.rule .returnKw) [.optional (.rule .exprList), .optional (lit ";")]
  | .nameList => separated (.rule .name) (lit ",")
  | .targetList => separated (.rule .suffixedExpr) (lit ",")
  | .exprList => separated (.rule .expr) (lit ",")
  | .expr => .rule .orExpr
  | .orExpr => chain .andExpr .orOp
  | .andExpr => chain .cmpExpr .andOp
  | .cmpExpr => chain .concatExpr .cmpOp
  | .concatExpr =>
    .seq (.rule .addExpr) (.optional (.seq (.rule .concatOp) (.rule .concatExpr)))
  | .addExpr => chain .mulExpr .addOp
  | .mulExpr => chain .unaryExpr .mulOp
  | .unaryExpr => .choice (.seq (.rule .unaryOp) (.rule .unaryExpr)) atom
  | .orOp => word "or"
  | .andOp => word "and"
  | .notOp => word "not"
  | .cmpOp => oneOf (lit "==") [lit "~=", lit "<=", lit ">=", lit "<", lit ">"]
  | .concatOp => .seq (.absent (lit "...")) (lit "..")
  | .addOp => oneOf (lit "+") [lit "-"]
  | .mulOp => oneOf (lit "*") [lit "/", lit "%"]
  | .unaryOp => .choice (lit "-") (.rule .notOp)
  | .nilLiteral => word "nil"
  | .trueLiteral => word "true"
  | .falseLiteral => word "false"
  | .varargs => lit "..."
  | .hexInteger => sequence (lit "0") [oneOf (lit "x") [lit "X"], atLeastOnce (.one isHexDigit)]
  | .float =>
    .seq (atLeastOnce (.one Char.isDigit))
      (.choice
        (sequence (lit ".") [atLeastOnce (.one Char.isDigit), .optional exponentPart])
        exponentPart)
  | .integer => atLeastOnce (.one Char.isDigit)
  | .string =>
    .choice (sequence (lit "\"") [.rule .dqContent, lit "\""])
      (sequence (lit "'") [.rule .sqContent, lit "'"])
  | .dqContent => stringContent '\x22'
  | .sqContent => stringContent '\x27'
  | .suffixedExpr => .seq (.choice (.rule .name) (.rule .parenExpr)) (.many suffix)
  | .parenExpr => sequence (lit "(") [.rule .expr, lit ")"]
  | .fieldSuffix => sequence (.absent (lit "..")) [lit ".", .rule .name]
  | .indexSuffix => sequence (lit "[") [.rule .expr, lit "]"]
  | .methodCall => sequence (lit ":") [.rule .name, .rule .callArgs]
  | .call => .rule .callArgs
  | .callArgs =>
    oneOf (sequence (lit "(") [.optional (.rule .exprList), lit ")"])
      [.rule .string, .rule .tableConstructor]
  | .tableConstructor =>
    sequence (lit "\x7b")
      [.optional (sequence tableField
        [.many (.seq fieldSeparator tableField), .optional fieldSeparator]), lit "\x7d"]
  | .keyedField => sequence (lit "[") [.rule .expr, lit "]", lit "=", .rule .expr]
  | .namedField => sequence (.rule .name) [.absent (lit "=="), lit "=", .rule .expr]
  | .positionalField => .rule .expr
  | .name =>
    sequence (.absent reservedWord) [.one isIdentifierStart, .many (.one isIdentifierPart)]
  | .localKw => word "local"
  | .returnKw => word "return"
  | .endOfInput => .ending

/-- Words, operators made of words, numbers and string contents are matched as units. -/
def Rule.style : Rule → Style
  | .orOp | .andOp | .notOp | .concatOp | .nilLiteral | .trueLiteral | .falseLiteral
  | .hexInteger | .float | .integer | .dqContent | .sqContent | .name | .localKw | .returnKw =>
    .hidden
  | .string => .tight
  | _ => .inherited

/-- A blank that is no part of a comment. -/
def isSpace (character : Char) : Bool :=
  character == ' ' || character == '\t' || character == '\r' || character == '\n'

/-- The place after the blanks at an offset. `inComment` says whether a comment is open. -/
def skipBlanks (offset : Nat) (inComment : Bool) : List Char → Cursor
  | [] => ⟨offset, []⟩
  | character :: rest =>
    if inComment then skipBlanks (offset + 1) (character != '\n') rest
    else if isSpace character then skipBlanks (offset + 1) false rest
    else
      match character, rest with
      | '-', '-' :: comment => skipBlanks (offset + 2) true comment
      | _, _ => ⟨offset, character :: rest⟩

/-- The grammar of chunks. -/
def chunkGrammar : Definition Rule where
  body := Rule.body
  style := Rule.style
  skip := fun cursor => skipBlanks cursor.offset false cursor.rest

/-- A nesting depth that no chunk of a given size needs: fewer than sixteen rules
stand inside one another between two characters. -/
def depthFor (size : Nat) : Nat := 16 * (size + 2)

/-- Match a whole source as a chunk. -/
def matchChunk (source : List Char) : Match Rule :=
  chunkGrammar.matchRule source.length (depthFor source.length) .chunk .spaced ⟨0, source⟩

end ScriptHost.Grammar
