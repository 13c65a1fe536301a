import ScriptHost.Proofs.Script.WellFormed

/-!
# Writing scripts

A script is written as a list of tokens with separators between them: blanks, and
comments that a line end closes. Parentheses stand only where the script has them, every
statement ends with a semicolon, and strings are quoted with their special characters
escaped. A key that is a name can be written as one.
-/

namespace ScriptHost.Script

open ScriptHost.Grammar

/-! ## Tokens -/

/-- The parts that scripts are written with. -/
inductive Token where
  /-- A reserved word, an operator or a punctuation mark. -/
  | fixed (text : String)
  | name (name : String)
  | integer (value : Int64)
  | literal (quote : Char) (value : String)
deriving DecidableEq, Repr

/-- A character of a string literal. Special characters and the quote are escaped. -/
def escape (quote character : Char) : List Char :=
  match character with
  | '\n' => ['\\', 'n']
  | '\t' => ['\\', 't']
  | '\r' => ['\\', 'r']
  | '\x00' => ['\\', '0']
  | '\\' => ['\\', '\\']
  | other => if other = quote then ['\\', other] else [other]

/-- The characters of a token. -/
def Token.characters : Token → List Char
  | fixed text => text.toList
  | name text => text.toList
  | integer value => (toString value).toList
  | literal quote value => quote :: (value.toList.flatMap (escape quote) ++ [quote])

/-- The symbol of an operator. -/
def BinaryOperator.symbol : BinaryOperator → String
  | add => "+"
  | sub => "-"
  | mul => "*"
  | div => "/"
  | mod => "%"
  | concat => ".."
  | eq => "=="
  | notEq => "~="
  | less => "<"
  | lessEq => "<="
  | greater => ">"
  | greaterEq => ">="
  | and => "and"
  | or => "or"

/-- The symbol of an operator. -/
def UnaryOperator.symbol : UnaryOperator → String
  | minus => "-"
  | not => "not"

/-! ## The tokens of a script -/

/-- How a script is written where there is a choice. -/
structure Style where
  /-- Whether a member whose key is a name is written with a point. -/
  pointed : Bool
  /-- Whether a field whose key is a name is written with the name alone. -/
  named : Bool
  /-- Whether string literals stand in single quotes. -/
  single : Bool
deriving DecidableEq, Repr

/-- The quote around string literals. -/
def Style.quote (style : Style) : Char := if style.single then '\x27' else '\x22'

/-- The name that a key is. -/
def Expression.keyName? : Expression → Option String
  | .text value => if isName value then some value else none
  | _ => none

/-- The name that a member is written with, behind a point. -/
def Style.memberName? (style : Style) (key : Expression) : Option String :=
  if style.pointed then key.keyName? else none

/-- The name that a field is written with. -/
def Style.fieldName? (style : Style) (key : Expression) : Option String :=
  if style.named then key.keyName? else none

/-- Parts with commas between them. -/
def commaSeparated : List (List Token) → List Token
  | [] => []
  | first :: rest => first ++ rest.flatMap (.fixed "," :: ·)

variable (style : Style)

mutual

/-- The tokens of an expression. There are none for numbers that are not integers. -/
def Expression.tokens : Expression → List Token
  | .nil => [.fixed "nil"]
  | .boolean true => [.fixed "true"]
  | .boolean false => [.fixed "false"]
  | .integer value => [.integer value]
  | .number _ => []
  | .text value => [.literal style.quote value]
  | .varargs => [.fixed "..."]
  | .name name => [.name name]
  | .index object key =>
    object.tokens ++
      match style.memberName? key with
      | some name => [.fixed ".", .name name]
      | none => .fixed "[" :: (key.tokens ++ [.fixed "]"])
  | .call callee arguments =>
    callee.tokens ++
      .fixed "(" :: (commaSeparated (Expression.allTokens arguments) ++ [.fixed ")"])
  | .method object name arguments =>
    object.tokens ++ .fixed ":" :: .name name ::
      .fixed "(" :: (commaSeparated (Expression.allTokens arguments) ++ [.fixed ")"])
  | .binary op left right => left.tokens ++ .fixed op.symbol :: right.tokens
  | .unary op operand => .fixed op.symbol :: operand.tokens
  | .table fields =>
    .fixed "\x7b" :: (commaSeparated (Field.allTokens fields) ++ [.fixed "\x7d"])
  | .paren inner => .fixed "(" :: (inner.tokens ++ [.fixed ")"])

/-- The tokens of each of some expressions. -/
def Expression.allTokens : List Expression → List (List Token)
  | [] => []
  | expression :: rest => expression.tokens :: Expression.allTokens rest

/-- The tokens of each of some fields. -/
def Field.allTokens : List Field → List (List Token)
  | [] => []
  | .positional value :: rest => value.tokens :: Field.allTokens rest
  | .keyed key value :: rest =>
    (match style.fieldName? key with
      | some name => .name name :: .fixed "=" :: value.tokens
      | none => .fixed "[" :: (key.tokens ++ .fixed "]" :: .fixed "=" :: value.tokens)) ::
      Field.allTokens rest

end

/-- The tokens of some expressions with commas between them. -/
def Expression.listTokens (expressions : List Expression) : List Token :=
  commaSeparated (Expression.allTokens style expressions)

/-- The tokens of a statement without the semicolon that ends it. -/
def Statement.openTokens : Statement → List Token
  | .declare names values =>
    .fixed "local" :: (commaSeparated (names.map fun name => [.name name]) ++
      if values.isEmpty then [] else .fixed "=" :: Expression.listTokens style values)
  | .assign targets values =>
    Expression.listTokens style targets ++ .fixed "=" :: Expression.listTokens style values
  | .run call => call.tokens style

/-- The tokens of a statement. -/
def Statement.tokens (statement : Statement) : List Token :=
  statement.openTokens style ++ [.fixed ";"]

/-- The tokens of a script. -/
def Block.tokens (block : Block) : List Token :=
  block.statements.flatMap (Statement.tokens style) ++
    match block.result with
    | some values => .fixed "return" :: (Expression.listTokens style values ++ [.fixed ";"])
    | none => []

/-! ## Separators -/

/-- Blanks, and comments up to the end of their line. -/
inductive Blanks : List Char → Prop where
  | none : Blanks []
  | space {character : Char} {rest : List Char} (blank : isSpace character = true)
    (more : Blanks rest) : Blanks (character :: rest)
  | comment {words rest : List Char} (line : '\n' ∉ words) (more : Blanks rest) :
    Blanks ('-' :: '-' :: (words ++ '\n' :: rest))

/-- A text that stands between two tokens. -/
def IsSeparator (text : List Char) : Prop := text ≠ [] ∧ Blanks text

/-- A text that can follow a token. No comment follows a minus sign directly. -/
def Separates (token : Token) (text : List Char) : Prop :=
  IsSeparator text ∧ (token = .fixed "-" → text.head? ≠ some '-')

/-- A text of tokens in order, with a separator between any two. -/
def Spaced (separates : Token → List Char → Prop) : List Token → List Char → Prop
  | [], text => text = []
  | [last], text => text = last.characters
  | token :: next :: rest, text =>
    ∃ separator after, text = token.characters ++ separator ++ after ∧ separates token separator ∧
      Spaced separates (next :: rest) after

/-! ## Scripts without fractional numbers -/

mutual

/-- An expression that has no number literals other than integers. -/
def Expression.NumberFree : Expression → Prop
  | .number _ => False
  | .nil | .boolean _ | .integer _ | .text _ | .varargs | .name _ => True
  | .index object key => object.NumberFree ∧ key.NumberFree
  | .call callee arguments => callee.NumberFree ∧ Expression.AllNumberFree arguments
  | .method object _ arguments => object.NumberFree ∧ Expression.AllNumberFree arguments
  | .binary _ left right => left.NumberFree ∧ right.NumberFree
  | .unary _ operand => operand.NumberFree
  | .table fields => Field.AllNumberFree fields
  | .paren inner => inner.NumberFree

/-- Expressions that have no number literals other than integers. -/
def Expression.AllNumberFree : List Expression → Prop
  | [] => True
  | expression :: rest => expression.NumberFree ∧ Expression.AllNumberFree rest

/-- Fields that have no number literals other than integers. -/
def Field.AllNumberFree : List Field → Prop
  | [] => True
  | .positional value :: rest => value.NumberFree ∧ Field.AllNumberFree rest
  | .keyed key value :: rest => key.NumberFree ∧ value.NumberFree ∧ Field.AllNumberFree rest

end

/-- A statement that has no number literals other than integers. -/
def Statement.NumberFree : Statement → Prop
  | .declare _ values => Expression.AllNumberFree values
  | .assign targets values => Expression.AllNumberFree targets ∧ Expression.AllNumberFree values
  | .run call => call.NumberFree

/-- A script that has no number literals other than integers. -/
structure Block.NumberFree (block : Block) : Prop where
  statements : ∀ statement ∈ block.statements, statement.NumberFree
  result : ∀ expressions, block.result = some expressions → Expression.AllNumberFree expressions

end ScriptHost.Script
