import ScriptHost.Proofs.Script.Leaves
import ScriptHost.Proofs.Script.Upcoming

/-!
# Matching tokens

Before a token, the rules that stand for it match exactly its characters, and every other
rule that could be tried there is refused.
-/

namespace ScriptHost.Script

open ScriptHost.Grammar Definition.Orderly

variable {size : Nat} {mode : Mode} {cursor : Cursor} {token : Token} {tokens : List Token}

/-- An edge stops every class without blanks and minus signs. -/
theorem Edge.stops {text : List Char} (edge : Edge text) {accepts : Char → Bool}
    (blanks : ∀ character, isSpace character = true → accepts character = false)
    (minus : accepts '-' = false) : Stops accepts text := by
  intro first same
  rcases edge first same with blank | rfl
  · exact blanks first blank
  · exact minus

/-- Blanks belong to no identifier. -/
theorem not_part_of_blank (character : Char) (blank : isSpace character = true) :
    isIdentifierPart character = false := by
  simp only [isSpace, Bool.or_eq_true, beq_iff_eq] at blank
  rcases blank with ((rfl | rfl) | rfl) | rfl <;> decide

/-- Blanks are no digits. -/
theorem not_digit_of_blank (character : Char) (blank : isSpace character = true) :
    character.isDigit = false := by
  simp only [isSpace, Bool.or_eq_true, beq_iff_eq] at blank
  rcases blank with ((rfl | rfl) | rfl) | rfl <;> decide

/-- The tree of a rule that matches a token covers the token. -/
theorem Upcoming.text_treeBetween (upcoming : Upcoming size cursor (token :: tokens)) (rule : Rule)
    (children : List ChunkTree) :
    (treeBetween rule cursor (cursor.past token.characters) children).text =
      token.characters := by
  have whole := upcoming.first.1
  show cursor.rest.take (cursor.offset + token.characters.length - cursor.offset) = _
  rw [Nat.add_sub_cancel_left, whole, List.take_left]

/-! ## Fixed tokens -/

/-- A fixed token matches its text. -/
theorem Upcoming.parses_lit {text : String} (upcoming : Upcoming size cursor (.fixed text :: tokens)) :
    chunkOrder.Parses size mode (.lit text) cursor [] (cursor.past text.toList) := by
  refine Parses.text ?_
  rw [upcoming.first.1]
  exact List.prefix_append _ _

/-- Whether a text is told from a fixed token by the characters of the token. -/
def isForeign (text token : String) : Bool :=
  !text.toList.isPrefixOf token.toList &&
    (text.toList.length ≤ token.toList.length ||
      text.toList.all fun character => !isSpace character && character != '-')

/-- A text that starts a token with an edge behind it starts the token, if it is not longer or has
neither blanks nor minus signs. -/
theorem isPrefixOf_of_edge {text word tail : List Char} (edge : Edge tail)
    (short : text.length ≤ word.length ∨
      ∀ character ∈ text, isSpace character = false ∧ character ≠ '-')
    (starts : text.isPrefixOf (word ++ tail) = true) : text.isPrefixOf word = true := by
  rw [List.isPrefixOf_iff_prefix] at starts ⊢
  by_cases fits : text.length ≤ word.length
  · exact List.prefix_of_prefix_length_le starts (List.prefix_append _ _) fits
  · have plain := short.resolve_left fits
    obtain ⟨extra, whole⟩ :=
      List.prefix_of_prefix_length_le (List.prefix_append word tail) starts (by omega)
    subst whole
    rw [List.prefix_append_right_inj] at starts
    cases extra with
    | nil => simp at fits
    | cons first rest =>
      obtain ⟨others, rfl⟩ := starts
      obtain ⟨solid, other⟩ := plain first (by simp)
      rcases edge first rfl with blank | same
      · rw [solid] at blank
        contradiction
      · exact absurd same other

/-- A fixed token refuses every text that is told from it. -/
theorem Upcoming.refuses_lit {text other : String}
    (upcoming : Upcoming size cursor (.fixed text :: tokens)) (foreign : isForeign other text = true) :
    chunkOrder.Refuses size mode (.lit other) cursor := by
  obtain ⟨whole, edge⟩ := upcoming.first
  simp only [isForeign, Bool.and_eq_true, Bool.not_eq_true', Bool.or_eq_true, decide_eq_true_eq,
    List.all_eq_true, bne_iff_ne] at foreign
  refine Refuses.text (Bool.eq_false_iff.mpr fun starts => ?_)
  rw [whole] at starts
  have starts := isPrefixOf_of_edge edge foreign.2 starts
  rw [foreign.1] at starts
  contradiction

/-! ## Words -/

/-- The leading word before a token is the one of its characters. -/
theorem Upcoming.leadingWord_eq (upcoming : Upcoming size cursor (token :: tokens)) :
    leadingWord cursor.rest = leadingWord token.characters := by
  obtain ⟨whole, edge⟩ := upcoming.first
  have ended : leadingWord (cursor.past token.characters).rest = [] :=
    takeWhile_nil_of_stops (edge.stops not_part_of_blank (by decide))
  unfold leadingWord at ended ⊢
  rw [whole, List.takeWhile_append, ended, List.append_nil]
  split
  · next all => exact (List.takeWhile_sublist _).eq_of_length all |>.symm
  · rfl

/-- A text of identifier characters is its leading word. -/
theorem leadingWord_of_parts {text : List Char}
    (parts : ∀ character ∈ text, isIdentifierPart character = true) : leadingWord text = text := by
  have whole := @takeWhile_of_stops isIdentifierPart text [] parts nofun
  rwa [List.append_nil] at whole

/-- A reserved word is matched as one. -/
theorem Upcoming.parses_word {text : String} (reserved : text ∈ reservedWords)
    (upcoming : Upcoming size cursor (.fixed text :: tokens)) :
    chunkOrder.Parses size .hidden (word text) cursor [] (cursor.past text.toList) := by
  have parts := isIdentifierPart_of_reserved text reserved
  have leading : leadingWord cursor.rest = text.toList :=
    upcoming.leadingWord_eq.trans (leadingWord_of_parts parts)
  have after : afterWord cursor.rest = cursor.rest.drop text.toList.length := by
    have whole := congrArg (List.drop text.toList.length)
      (leadingWord_append_afterWord cursor.rest)
    rwa [leading, List.drop_left] at whole
  have given := @matchAt_word chunkGrammar (matching size) .hidden (by decide) size text parts cursor
  rw [if_pos leading, after] at given
  exact given

/-- A name is matched as one. -/
theorem Upcoming.parses_name {text : String} (shown : mode ≠ .hidden)
    (upcoming : Upcoming size cursor (.name text :: tokens)) :
    ∃ tree, chunkOrder.Parses size mode (.rule .name) cursor [tree] (cursor.past text.toList) ∧
      tree = treeBetween .name cursor (cursor.past text.toList) [] ∧ nameOf tree = text := by
  have named : isNameText text.toList = true := upcoming.valid (.name text) (by simp)
  have leading : leadingWord cursor.rest = text.toList :=
    upcoming.leadingWord_eq.trans (leadingWord_of_parts (isIdentifierPart_of_mem named))
  have after : afterWord cursor.rest = cursor.rest.drop text.toList.length := by
    have whole := congrArg (List.drop text.toList.length)
      (leadingWord_append_afterWord cursor.rest)
    rwa [leading, List.drop_left] at whole
  have given := matching_name size shown upcoming.within
  rw [leading, if_pos named, after] at given
  refine ⟨_, given, ?_, ?_⟩
  · rw [treeBetween, Cursor.past, Nat.add_sub_cancel_left]
  · have covered := upcoming.text_treeBetween .name []
    rw [treeBetween, Cursor.past, Nat.add_sub_cancel_left] at covered
    exact String.toList_inj.mp (String.toList_ofList.trans covered)

/-! ## Operators -/

/-- The rule that an operator is matched by. -/
def BinaryOperator.rule : BinaryOperator → Rule
  | or => .orOp
  | and => .andOp
  | eq | notEq | less | lessEq | greater | greaterEq => .cmpOp
  | concat => .concatOp
  | add | sub => .addOp
  | mul | div | mod => .mulOp

/-- The symbol of an operator stands for it. -/
theorem BinaryOperator.ofSymbol_symbol (op : BinaryOperator) : ofSymbol op.symbol = some op := by
  cases op <;> rfl

/-- The expression of an operator's rule matches its symbol. -/
theorem Upcoming.parses_operator_body (op : BinaryOperator)
    (upcoming : Upcoming size cursor (.fixed op.symbol :: tokens)) :
    chunkOrder.Parses size ((chunkGrammar.style op.rule).mode .spaced) (chunkGrammar.body op.rule)
      cursor [] (cursor.past op.symbol.toList) := by
  have matched {mode : Mode} : chunkOrder.Parses size mode (.lit op.symbol) cursor []
      (cursor.past op.symbol.toList) := upcoming.parses_lit
  have refused {mode : Mode} (other : String) (foreign : isForeign other op.symbol = true) :
      chunkOrder.Refuses size mode (.lit other) cursor := upcoming.refuses_lit foreign
  cases op
  case or => exact upcoming.parses_word (by decide)
  case and => exact upcoming.parses_word (by decide)
  case eq => exact Parses.choice_first matched
  case notEq =>
    exact Parses.choice_second (refused "==" (by decide)) <| Parses.choice_first matched
  case lessEq =>
    exact Parses.choice_second (refused "==" (by decide)) <|
      Parses.choice_second (refused "~=" (by decide)) <| Parses.choice_first matched
  case greaterEq =>
    exact Parses.choice_second (refused "==" (by decide)) <|
      Parses.choice_second (refused "~=" (by decide)) <|
      Parses.choice_second (refused "<=" (by decide)) <| Parses.choice_first matched
  case less =>
    exact Parses.choice_second (refused "==" (by decide)) <|
      Parses.choice_second (refused "~=" (by decide)) <|
      Parses.choice_second (refused "<=" (by decide)) <|
      Parses.choice_second (refused ">=" (by decide)) <| Parses.choice_first matched
  case greater =>
    exact Parses.choice_second (refused "==" (by decide)) <|
      Parses.choice_second (refused "~=" (by decide)) <|
      Parses.choice_second (refused "<=" (by decide)) <|
      Parses.choice_second (refused ">=" (by decide)) <|
      Parses.choice_second (refused "<" (by decide)) matched
  case concat => exact Parses.seq (Parses.absent (refused "..." (by decide))) matched
  case add => exact Parses.choice_first matched
  case sub => exact Parses.choice_second (refused "+" (by decide)) matched
  case mul => exact Parses.choice_first matched
  case div => exact Parses.choice_second (refused "*" (by decide)) <| Parses.choice_first matched
  case mod =>
    exact Parses.choice_second (refused "*" (by decide)) <|
      Parses.choice_second (refused "/" (by decide)) matched

/-- An operator is matched by the rule of its level. -/
theorem Upcoming.parses_operator (op : BinaryOperator)
    (upcoming : Upcoming size cursor (.fixed op.symbol :: tokens)) :
    ∃ tree, chunkOrder.Parses size .spaced (.rule op.rule) cursor [tree]
      (cursor.past op.symbol.toList) ∧ BinaryOperator.ofSymbol (nameOf tree) = some op := by
  refine ⟨_, Parses.rule (by decide) (upcoming.parses_operator_body op), ?_⟩
  have covered := upcoming.text_treeBetween op.rule []
  have named : nameOf (treeBetween op.rule cursor (cursor.past op.symbol.toList) []) = op.symbol :=
    String.toList_inj.mp (String.toList_ofList.trans covered)
  rw [named, op.ofSymbol_symbol]

/-- A sign or a negation is matched. -/
theorem Upcoming.parses_unaryOperator (op : UnaryOperator)
    (upcoming : Upcoming size cursor (.fixed op.symbol :: tokens)) :
    ∃ tree, chunkOrder.Parses size .spaced (.rule .unaryOp) cursor [tree]
      (cursor.past op.symbol.toList) ∧ treeRule tree = .unaryOp ∧ tree.text = op.symbol.toList := by
  cases op with
  | minus =>
    exact ⟨_, Parses.rule (by decide) (Parses.choice_first upcoming.parses_lit), rfl,
      upcoming.text_treeBetween .unaryOp []⟩
  | not =>
    have negation : chunkOrder.Parses size .spaced (.rule .notOp) cursor _ _ :=
      Parses.rule (by decide) (upcoming.parses_word (by decide))
    exact ⟨_, Parses.rule (by decide) (Parses.choice_second (upcoming.refuses_lit (by decide))
      negation), rfl, upcoming.text_treeBetween .unaryOp _⟩

end ScriptHost.Script
