import ScriptHost.Proofs.Script.Taking
import ScriptHost.Proofs.Script.Tokens

/-!
# What declines before a token

Whether an expression of the grammar can match before a token is seen from the token: a word
matches only before itself, a name only before a name, and most others are told by the
first character. So operators and suffixes decline before every token that binds more
loosely than they do.
-/

namespace ScriptHost.Script

open ScriptHost.Grammar Definition.Orderly

variable {size : Nat} {token : Token} {rest : List Token}

/-! ## First characters -/

/-- The characters that names start with. -/
def nameOpenings : List Char :=
  "_abcdefghijklmnopqrstuvwxyzABCDEFGHIJKLMNOPQRSTUVWXYZ".toList

/-- The digits. -/
def digitOpenings : List Char := "0123456789".toList

/-- The characters that tokens like a token start with. -/
def Token.openings : Token → List Char
  | fixed text => text.toList.take 1
  | name _ => nameOpenings
  | integer _ => digitOpenings
  | literal _ _ => ['\x22', '\x27']

/-- A character in a range of numbers is one of the characters with these numbers. -/
theorem mem_of_toNat (low high : Nat) {characters : List Char}
    (all : (List.range (high + 1 - low)).all fun step =>
      characters.contains (Char.ofNat (low + step)) = true)
    {character : Char} (least : low ≤ character.toNat) (most : character.toNat ≤ high) :
    character ∈ characters := by
  have known := List.all_eq_true.mp all (character.toNat - low) (List.mem_range.mpr (by omega))
  rw [Nat.add_sub_cancel' least, Char.ofNat_toNat] at known
  simpa using known

/-- Identifiers start with letters and underscores. -/
theorem mem_nameOpenings {first : Char} (start : isIdentifierStart first = true) :
    first ∈ nameOpenings := by
  rcases (Bool.or_eq_true _ _).mp start with letter | underscore
  · rcases (Bool.or_eq_true _ _).mp letter with upper | lower
    · have bounds := of_decide_eq_true upper
      exact mem_of_toNat 65 90 (by decide) bounds.1 bounds.2
    · have bounds := (Bool.and_eq_true _ _).mp lower
      exact mem_of_toNat 97 122 (by decide) (of_decide_eq_true bounds.1)
        (of_decide_eq_true bounds.2)
  · obtain rfl := eq_of_beq underscore
    decide

/-- A digit is one of ten. -/
theorem mem_digitOpenings {first : Char} (digit : first.isDigit = true) : first ∈ digitOpenings := by
  have bounds := (Bool.and_eq_true _ _).mp digit
  exact mem_of_toNat 48 57 (by decide) (of_decide_eq_true bounds.1) (of_decide_eq_true bounds.2)

/-- A token starts with one of its openings. -/
theorem Token.Valid.exists_opening (valid : token.Valid) :
    ∃ first ∈ token.openings, token.characters.head? = some first := by
  cases token with
  | fixed text =>
    obtain ⟨filled, -⟩ := head_of_fixed text valid
    obtain ⟨first, others, spelled⟩ := List.exists_cons_of_ne_nil filled
    refine ⟨first, ?_, by rw [characters, spelled, List.head?_cons]⟩
    rw [openings, spelled]
    exact List.mem_singleton_self first
  | name text =>
    have named : isNameText text.toList = true := valid
    cases spelled : text.toList with
    | nil =>
      rw [spelled] at named
      contradiction
    | cons first others =>
      rw [spelled] at named
      simp only [isNameText, Bool.and_eq_true] at named
      exact ⟨first, mem_nameOpenings named.1.1, by rw [characters, spelled, List.head?_cons]⟩
  | integer value =>
    obtain ⟨first, others, spelled, digits⟩ := digits_of_integer valid
    exact ⟨first, mem_digitOpenings (digits first (by simp)), by rw [spelled, List.head?_cons]⟩
  | literal quote value =>
    refine ⟨quote, ?_, rfl⟩
    rcases valid with rfl | rfl
    · exact .head _
    · exact .tail _ (.head _)

/-- Whether no character that tokens like a token start with lets an expression match, looking at
rules down to a depth. -/
def Shut (depth : Nat) (expr : Expr Rule) (openings : List Char) : Prop :=
  ∀ first ∈ openings, expr.rejects (chunkGrammar.rejects (some first) depth) (some first) = true

instance (depth : Nat) (expr : Expr Rule) (openings : List Char) :
    Decidable (Shut depth expr openings) :=
  inferInstanceAs (Decidable (∀ first ∈ openings, _))

/-- An expression that the next character rules out is refused where no blanks stand. -/
theorem refuses_of_next {cursor : Cursor} (close : chunkGrammar.skip cursor = cursor)
    (depth : Nat) {expr : Expr Rule} (turns : expr.turnsConsume chunkOrder.solid = true)
    {next : Option Char} (head : cursor.rest.head? = next)
    (rejected : expr.rejects (chunkGrammar.rejects next depth) next = true) :
    chunkOrder.Refuses size .spaced expr cursor := by
  subst head
  have gapless : chunkGrammar.gap .spaced cursor = cursor := close
  refine refuses_of_rejected (fun mode rule known => ?_) gapless expr turns rejected
  exact Definition.Orderly.refuses_of_rejects depth close known

/-- An expression that the openings of a token rule out declines before the token. -/
theorem declines_of_shut (depth : Nat) {expr : Expr Rule}
    (turns : expr.turnsConsume chunkOrder.solid = true) (shut : Shut depth expr token.openings) :
    Declines size expr (token :: rest) := by
  intro cursor upcoming
  obtain ⟨first, opening, head⟩ := (upcoming.valid token (by simp)).exists_opening
  have next : cursor.rest.head? = some first := by
    obtain ⟨others, spelled⟩ := List.head?_eq_some_iff.mp head
    rw [upcoming.first.1, spelled]
    rfl
  exact refuses_of_next upcoming.close depth turns next (shut first opening)

/-- An expression that needs a character declines at the end. -/
theorem declines_at_end (depth : Nat) {expr : Expr Rule}
    (turns : expr.turnsConsume chunkOrder.solid = true)
    (shut : expr.rejects (chunkGrammar.rejects none depth) none = true) : Declines size expr [] := by
  intro cursor upcoming
  have ended : cursor.rest = [] := upcoming.spaced
  exact refuses_of_next upcoming.close depth turns (ended ▸ List.head?_nil) shut

/-! ## Words and names -/

/-- The leading word of an integer is all of it. -/
theorem leadingWord_integer {value : Int64} (positive : 0 ≤ value) :
    ∃ first rest, leadingWord (Token.integer value).characters = first :: rest ∧
      first.isDigit = true := by
  obtain ⟨first, rest, spelled, digits⟩ := digits_of_integer positive
  refine ⟨first, rest, ?_, digits first (by simp)⟩
  rw [spelled]
  refine leadingWord_of_parts fun character member => ?_
  simp [isIdentifierPart, Char.isAlphanum, digits character member]

/-- A string literal has no leading word. -/
theorem leadingWord_literal {quote : Char} (quoting : IsQuote quote) (value : String) :
    leadingWord (Token.literal quote value).characters = [] := by
  rcases quoting with rfl | rfl <;> rfl

/-- No token but a reserved word has the word for its leading word. -/
theorem Token.Valid.eq_fixed (valid : token.Valid) {word : String} (reserved : word ∈ reservedWords)
    (leading : leadingWord token.characters = word.toList) : token = .fixed word := by
  cases token with
  | fixed text =>
    have known : ∀ text ∈ fixedTexts, ∀ word ∈ reservedWords,
        leadingWord text.toList = word.toList → text = word := by decide
    exact congrArg fixed (known text valid word reserved leading)
  | name text =>
    have named : isNameText text.toList = true := valid
    have whole := leadingWord_of_parts (isIdentifierPart_of_mem named)
    rw [← whole, show leadingWord text.toList = word.toList from leading,
      isNameText_of_reserved (List.mem_map_of_mem reserved)] at named
    contradiction
  | integer value =>
    have known : ∀ word ∈ reservedWords, ∀ character ∈ word.toList,
        character.isDigit = false := by decide
    obtain ⟨first, rest, whole, digit⟩ := leadingWord_integer valid
    have letter := known word reserved first (by rw [← leading, whole]; exact List.mem_cons_self)
    rw [digit] at letter
    contradiction
  | literal quote value =>
    have known : ∀ word ∈ reservedWords, word.toList ≠ [] := by decide
    rw [leadingWord_literal valid] at leading
    exact absurd leading.symm (known word reserved)

/-- Only a name has a name for its leading word. -/
theorem Token.Valid.isNameText_leadingWord (valid : token.Valid)
    (other : ∀ text, token ≠ .name text) :
    isNameText (leadingWord token.characters) = false := by
  cases token with
  | fixed text =>
    have known : ∀ text ∈ fixedTexts, isNameText (leadingWord text.toList) = false := by decide
    exact known text valid
  | name text => exact absurd rfl (other text)
  | integer value =>
    have known : ∀ character ∈ digitOpenings, isIdentifierStart character = false := by decide
    obtain ⟨first, rest, whole, digit⟩ := leadingWord_integer valid
    rw [whole, isNameText, known first (mem_digitOpenings digit), Bool.false_and, Bool.false_and]
  | literal quote value =>
    rw [leadingWord_literal valid]
    rfl

/-- A rule for a reserved word declines before every other token. -/
theorem declines_word {rule : Rule} {text : String} (body : chunkGrammar.body rule = word text)
    (style : chunkGrammar.style rule = .hidden) (reserved : text ∈ reservedWords)
    (differs : token ≠ .fixed text) : Declines size (.rule rule) (token :: rest) := by
  intro cursor upcoming
  have given := @matchAt_word chunkGrammar (matching size) .hidden (by decide) size text
    (isIdentifierPart_of_reserved text reserved) cursor
  have other : leadingWord cursor.rest ≠ text.toList := by
    intro leading
    have valid := upcoming.valid token (by simp)
    exact differs (valid.eq_fixed reserved (upcoming.leadingWord_eq.symm.trans leading))
  rw [if_neg other] at given
  refine Refuses.rule ?_
  rw [body, style]
  exact given

/-- A name declines before every token that is none. -/
theorem declines_name (other : ∀ text, token ≠ .name text) :
    Declines size (.rule .name) (token :: rest) := by
  intro cursor upcoming
  have given : matching size .name .spaced cursor = _ :=
    matching_name size (by decide) upcoming.within
  have valid := upcoming.valid token (by simp)
  rw [upcoming.leadingWord_eq, valid.isNameText_leadingWord other] at given
  exact given

/-! ## Behind an expression -/

/-- How tightly a fixed token holds the expression in front of it. Operators hold it as they bind,
closing tokens not at all, and what starts a suffix most tightly. -/
def grip (text : String) : Nat :=
  match BinaryOperator.ofSymbol text with
  | some op => op.level
  | none =>
    if text ∈ [")", "]", "\x7d", ",", ";"] then 0
    else if text = "=" then unaryLevel
    else unaryLevel + 1

/-- The next token holds what is in front of it more loosely than a level. -/
def Follows (level : Nat) (tokens : List Token) : Prop :=
  ∃ text rest, tokens = .fixed text :: rest ∧ text ∈ fixedTexts ∧ grip text < level

/-- What follows at a level follows at every tighter one. -/
theorem Follows.tighten {level tighter : Nat} (follows : Follows level rest) (tight : level ≤ tighter) :
    Follows tighter rest := by
  obtain ⟨text, others, same, known, loose⟩ := follows
  exact ⟨text, others, same, known, Nat.lt_of_lt_of_le loose tight⟩

/-- An operator follows at every level tighter than its own. -/
theorem follows_operator (op : BinaryOperator) {level : Nat} (tight : op.level < level) :
    Follows level (.fixed op.symbol :: rest) := by
  refine ⟨op.symbol, rest, rfl, by cases op <;> decide, ?_⟩
  rw [grip, op.ofSymbol_symbol]
  exact tight

/-- The rules of operators between two operands. -/
def operatorRules : List Rule := [.orOp, .andOp, .cmpOp, .concatOp, .addOp, .mulOp]

/-- An operator declines before what holds an expression more loosely. -/
theorem declines_operator {rule : Rule} (operating : rule ∈ operatorRules) {level : Nat}
    (follows : Follows level rest) (loose : level ≤ ruleLevel rule) :
    Declines size (.rule rule) rest := by
  obtain ⟨text, others, rfl, known, held⟩ := follows
  have shut : ∀ text ∈ fixedTexts, ∀ rule ∈ operatorRules, grip text < ruleLevel rule →
      Shut 2 (.rule rule) (text.toList.take 1) := by decide
  exact declines_of_shut 2 rfl (shut text known rule operating (Nat.lt_of_lt_of_le held loose))

/-- Members and calls decline before what holds an expression like an operator. -/
theorem declines_suffix (follows : Follows (unaryLevel + 1) rest) : Declines size suffix rest := by
  obtain ⟨text, others, rfl, known, held⟩ := follows
  have shut : ∀ text ∈ fixedTexts, grip text < unaryLevel + 1 →
      text = ".." ∨ Shut 4 suffix (text.toList.take 1) := by decide
  rcases shut text known held with rfl | shut
  · -- two points are no point in front of a name
    have points : Declines size (.rule .fieldSuffix) (.fixed ".." :: others) :=
      Declines.rule rfl <| Declines.seq_first <| Declines.absent (Takes.fixed "..")
    exact Declines.choice points (declines_of_shut 4 rfl (by decide))
  · exact declines_of_shut 4 rfl shut

end ScriptHost.Script
