/-!
# Parsing expressions

A grammar gives every rule a parsing expression and a style. Matching walks a source
from a cursor: choices are ordered, repetitions take all they can, and a failed
alternative gives back what it passed over. Between the parts of a sequence of a
spaced rule, and between the turns of a repetition, blanks are passed over; a tight
rule allows none. A visible rule that matches leaves a tree with the text it covers.

Matching is bounded by a nesting depth of rules. Running out of depth is an outcome
of its own, never taken for a refusal.
-/

namespace ScriptHost.Grammar

/-- A place in a source: how many characters lie before it, and those that follow. -/
structure Cursor where
  offset : Nat
  rest : List Char
deriving DecidableEq, Repr

/-- The next characters at a cursor, at most `size` of them. -/
def Cursor.take (cursor : Cursor) (size : Nat) : List Char := cursor.rest.take size

/-- The part of a source that one rule matched: where it starts and how many characters it has. -/
inductive ParseTree (Rule : Type) where
  | node (rule : Rule) (start : Cursor) (size : Nat) (children : List (ParseTree Rule))

/-- The text that a tree covers. -/
def ParseTree.text {Rule : Type} : ParseTree Rule → List Char
  | .node _ start size _ => start.take size

/-- The result of matching at a cursor. -/
inductive Outcome (Result : Type) where
  | matched (result : Result)
  | refused
  | exhausted
deriving Repr

/-- The result of matching an expression: trees of visible rules and the place after them. -/
abbrev Match (Rule : Type) : Type := Outcome (List (ParseTree Rule) × Cursor)

/-- A parsing expression over the rules of a grammar. -/
inductive Expr (Rule : Type) where
  /-- One character of a class. -/
  | one (accepts : Char → Bool)
  /-- A fixed text. -/
  | text (characters : List Char)
  /-- Whatever a rule matches. -/
  | rule (rule : Rule)
  /-- Two parts, one after the other. -/
  | seq (first second : Expr Rule)
  /-- The second alternative where the first is refused. -/
  | choice (first second : Expr Rule)
  /-- An expression or nothing. -/
  | optional (inner : Expr Rule)
  /-- An expression as often as it matches. -/
  | many (inner : Expr Rule)
  /-- Nothing, where an expression is refused. -/
  | absent (inner : Expr Rule)
  /-- The end of the source. -/
  | ending

/-- How blanks and the trees of inner rules are treated. -/
inductive Mode where
  /-- Blanks may stand between parts, and inner rules leave trees. -/
  | spaced
  /-- No blanks between parts, and inner rules leave trees. -/
  | tight
  /-- No blanks between parts, and inner rules leave no trees. -/
  | hidden
deriving DecidableEq, Repr

/-- How a rule matches its expression. -/
inductive Style where
  /-- In the mode of the place that refers to the rule. -/
  | inherited
  /-- Without blanks. -/
  | tight
  /-- Without blanks and without inner trees. -/
  | hidden
deriving DecidableEq, Repr

/-- The mode of a rule's expression. -/
def Style.mode (style : Style) (outer : Mode) : Mode :=
  match style with
  | .inherited => outer
  | .tight => .tight
  | .hidden => .hidden

/-- A grammar. `skip` passes over the blanks at a cursor. -/
structure Definition (Rule : Type) where
  body : Rule → Expr Rule
  style : Rule → Style
  skip : Cursor → Cursor

variable {Rule : Type}

/-- The place after the blanks that a mode allows. -/
def Definition.gap (grammar : Definition Rule) (mode : Mode) (cursor : Cursor) : Cursor :=
  if mode = .spaced then grammar.skip cursor else cursor

/-- Continue from a match with a step that collects further trees. -/
def Outcome.andThen (outcome : Match Rule) (next : Cursor → Match Rule) : Match Rule :=
  match outcome with
  | .matched (trees, cursor) =>
    match next cursor with
    | .matched (more, place) => .matched (trees ++ more, place)
    | .refused => .refused
    | .exhausted => .exhausted
  | .refused => .refused
  | .exhausted => .exhausted

/-- A step as often as it matches, at most `turns` times. -/
def repeated (step : Cursor → Match Rule) : Nat → Cursor → Match Rule
  | 0, cursor => .matched ([], cursor)
  | turns + 1, cursor =>
    match step cursor with
    | .matched (trees, place) =>
      Outcome.andThen (.matched (trees, place)) (repeated step turns)
    | .refused => .matched ([], cursor)
    | .exhausted => .exhausted

/-- Match an expression in a source of `size` characters. `call` matches a rule. -/
def Expr.matchAt (grammar : Definition Rule) (size : Nat)
    (call : Rule → Mode → Cursor → Match Rule) (mode : Mode) : Expr Rule → Cursor → Match Rule
  | .one accepts, cursor =>
    match cursor.rest with
    | character :: rest =>
      if accepts character then .matched ([], ⟨cursor.offset + 1, rest⟩) else .refused
    | [] => .refused
  | .text characters, cursor =>
    if characters.isPrefixOf cursor.rest then
      .matched ([], ⟨cursor.offset + characters.length, cursor.rest.drop characters.length⟩)
    else .refused
  | .rule name, cursor => call name mode cursor
  | .seq first second, cursor =>
    (first.matchAt grammar size call mode cursor).andThen fun place =>
      second.matchAt grammar size call mode (grammar.gap mode place)
  | .choice first second, cursor =>
    match first.matchAt grammar size call mode cursor with
    | .refused => second.matchAt grammar size call mode cursor
    | outcome => outcome
  | .optional inner, cursor =>
    match inner.matchAt grammar size call mode cursor with
    | .refused => .matched ([], cursor)
    | outcome => outcome
  | .many inner, cursor =>
    match inner.matchAt grammar size call mode cursor with
    | .matched (trees, place) =>
      Outcome.andThen (.matched (trees, place))
        (repeated (fun next => inner.matchAt grammar size call mode (grammar.gap mode next))
          (size - place.offset))
    | .refused => .matched ([], cursor)
    | .exhausted => .exhausted
  | .absent inner, cursor =>
    match inner.matchAt grammar size call mode cursor with
    | .matched _ => .refused
    | .refused => .matched ([], cursor)
    | .exhausted => .exhausted
  | .ending, cursor => if cursor.rest.isEmpty then .matched ([], cursor) else .refused

/-- The tree of a rule that matched from one cursor to another. -/
def treeBetween (rule : Rule) (start finish : Cursor) (children : List (ParseTree Rule)) :
    ParseTree Rule :=
  .node rule start (finish.offset - start.offset) children

/-- Match a rule, with at most `depth` rules inside one another. -/
def Definition.matchRule (grammar : Definition Rule) (size : Nat) :
    Nat → Rule → Mode → Cursor → Match Rule
  | 0, _, _, _ => .exhausted
  | depth + 1, rule, mode, cursor =>
    match (grammar.body rule).matchAt grammar size (grammar.matchRule size depth)
        ((grammar.style rule).mode mode) cursor with
    | .matched (children, finish) =>
      if mode = .hidden then .matched (children, finish)
      else .matched ([treeBetween rule cursor finish children], finish)
    | .refused => .refused
    | .exhausted => .exhausted

end ScriptHost.Grammar
