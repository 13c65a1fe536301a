import ScriptHost.Proofs.Grammar.FirstCharacter
import ScriptHost.Proofs.Script.Spelling

/-!
# Places before tokens

A place in the text of a script is before some tokens where the rest of the text spells
them out. No blanks stand there, and behind the first token a separator leads to the place
before the others. A separator starts with a blank or a comment, so where a token ends
does not depend on what follows it.
-/

namespace ScriptHost.Script

open ScriptHost.Grammar

/-! ## Blanks -/

/-- A character of an open comment is passed over. -/
theorem skipBlanks_open (offset : Nat) (character : Char) (rest : List Char) :
    skipBlanks offset true (character :: rest) =
      skipBlanks (offset + 1) (character != '\n') rest := by
  rw [skipBlanks.eq_def]
  rfl

/-- A blank is passed over. -/
theorem skipBlanks_space (offset : Nat) {character : Char} (blank : isSpace character = true)
    (rest : List Char) :
    skipBlanks offset false (character :: rest) = skipBlanks (offset + 1) false rest := by
  rw [skipBlanks.eq_def]
  simp [blank]

/-- A comment is passed over with the end of its line. -/
theorem skipBlanks_comment {words : List Char} (line : '\n' ∉ words) (offset : Nat)
    (rest : List Char) :
    skipBlanks offset true (words ++ '\n' :: rest) =
      skipBlanks (offset + words.length + 1) false rest := by
  induction words generalizing offset with
  | nil => exact skipBlanks_open offset '\n' rest
  | cons first words ih =>
    rw [List.mem_cons, not_or] at line
    have others : (first != '\n') = true := by simpa using Ne.symm line.1
    have further : offset + 1 + words.length + 1 = offset + (words.length + 1) + 1 := by omega
    rw [List.cons_append, skipBlanks_open, others, ih line.2, List.length_cons, further]

/-- Blanks are passed over as a whole. -/
theorem skipBlanks_append {blanks : List Char} (blank : Blanks blanks) (offset : Nat)
    (rest : List Char) :
    skipBlanks offset false (blanks ++ rest) = skipBlanks (offset + blanks.length) false rest := by
  induction blank generalizing offset with
  | none => rfl
  | @space character others blank _ ih =>
    have further : offset + 1 + others.length = offset + (others.length + 1) := by omega
    rw [List.cons_append, skipBlanks_space offset blank, ih, List.length_cons, further]
  | @comment words others line _ ih =>
    have opened : skipBlanks offset false ('-' :: '-' :: (words ++ '\n' :: others) ++ rest) =
        skipBlanks (offset + 2) true (words ++ '\n' :: (others ++ rest)) := by
      rw [List.cons_append, List.cons_append, List.append_assoc, skipBlanks.eq_def]
      simp [isSpace]
    have further : offset + 2 + words.length + 1 + others.length =
        offset + ('-' :: '-' :: (words ++ '\n' :: others)).length := by
      simp only [List.length_cons, List.length_append]
      omega
    rw [opened, skipBlanks_comment line, ih, further]

/-- No blank stands where neither a blank nor a comment starts. -/
theorem skipBlanks_of_solid (offset : Nat) {first : Char} {rest : List Char}
    (solid : isSpace first = false) (bare : first = '-' → rest.head? ≠ some '-') :
    skipBlanks offset false (first :: rest) = ⟨offset, first :: rest⟩ := by
  rw [skipBlanks.eq_def]
  simp only [Bool.false_eq_true, if_false, solid]
  split
  · next comment _ _ => exact absurd rfl (bare rfl)
  · rfl

/-- Behind the blanks that were passed over there are no more of them. -/
theorem skip_skipBlanks (offset : Nat) (inComment : Bool) (text : List Char) :
    chunkGrammar.skip (skipBlanks offset inComment text) = skipBlanks offset inComment text := by
  fun_induction skipBlanks offset inComment text with
  | case1 offset inComment => rfl
  | case2 offset character rest ih => exact ih
  | case3 offset inComment character rest _ _ ih => exact ih
  | case4 offset inComment _ _ comment ih => exact ih
  | case5 offset inComment character rest closed solid bare =>
    show skipBlanks offset false (character :: rest) = _
    refine skipBlanks_of_solid offset (Bool.eq_false_iff.mpr solid) ?_
    rintro rfl same
    obtain ⟨comment, rfl⟩ := List.head?_eq_some_iff.mp same
    exact bare comment rfl rfl

/-- Behind blanks there are no more of them. -/
theorem skip_skip (cursor : Cursor) :
    chunkGrammar.skip (chunkGrammar.skip cursor) = chunkGrammar.skip cursor :=
  skip_skipBlanks cursor.offset false cursor.rest

/-! ## Tokens that can be told from blanks -/

/-- The fixed tokens of scripts. -/
def fixedTexts : List String :=
  reservedWords ++ ["+", "-", "*", "/", "%", "..", "==", "~=", "<", "<=", ">", ">=", "=", ".", ",",
    ";", ":", "...", "(", ")", "[", "]", "\x7b", "\x7d"]

/-- The quote of a string literal. -/
def IsQuote (quote : Char) : Prop := quote = '\x22' ∨ quote = '\x27'

/-- A token that a script can have. -/
def Token.Valid : Token → Prop
  | fixed text => text ∈ fixedTexts
  | name text => isName text = true
  | integer value => 0 ≤ value
  | literal quote _ => IsQuote quote

/-- An integer without a sign is written with its digits. -/
theorem characters_integer {value : Int64} (positive : 0 ≤ value) :
    (Token.integer value).characters = Nat.toDigits 10 value.toInt.toNat := by
  have signless : 0 ≤ value.toInt := Int64.le_iff_toInt_le.mp positive
  show (toString value.toInt).toList = _
  rw [Int.toString_eq_repr]
  obtain ⟨digits, same⟩ := Int.eq_ofNat_of_zero_le signless
  rw [same]
  exact Nat.toList_repr

/-- An integer without a sign is written with one digit at least, and digits only. -/
theorem digits_of_integer {value : Int64} (positive : 0 ≤ value) :
    ∃ first rest, (Token.integer value).characters = first :: rest ∧
      ∀ character ∈ first :: rest, character.isDigit = true := by
  rw [characters_integer positive]
  obtain ⟨first, rest, digits⟩ :=
    List.exists_cons_of_ne_nil (Nat.toDigits_ne_nil : Nat.toDigits 10 value.toInt.toNat ≠ [])
  refine ⟨first, rest, digits, ?_⟩
  rw [← digits]
  exact fun character member => Nat.isDigit_of_mem_toDigits (by decide) (by decide) member

/-- A fixed token starts with a character that is no blank, and with a minus sign only where it is
one. -/
theorem head_of_fixed : ∀ text ∈ fixedTexts, text.toList ≠ [] ∧
    (text.toList.head?.all fun first => !isSpace first && (first != '-' || text == "-")) = true := by
  decide

/-- Identifiers start with no blank and no minus sign. -/
theorem not_blank_of_start {first : Char} (start : isIdentifierStart first = true) :
    isSpace first = false ∧ first ≠ '-' := by
  constructor
  · refine Bool.eq_false_iff.mpr fun blank => ?_
    simp only [isSpace, Bool.or_eq_true, beq_iff_eq] at blank
    rcases blank with ((rfl | rfl) | rfl) | rfl <;> contradiction
  · rintro rfl
    contradiction

/-- Digits are no blanks and no minus signs. -/
theorem not_blank_of_digit {first : Char} (digit : first.isDigit = true) :
    isSpace first = false ∧ first ≠ '-' := by
  constructor
  · refine Bool.eq_false_iff.mpr fun blank => ?_
    simp only [isSpace, Bool.or_eq_true, beq_iff_eq] at blank
    rcases blank with ((rfl | rfl) | rfl) | rfl <;> contradiction
  · rintro rfl
    contradiction

/-- A token starts with a character that is no blank, and with a minus sign only where it is one. -/
theorem Token.Valid.head {token : Token} (valid : token.Valid) :
    ∃ first rest, token.characters = first :: rest ∧ isSpace first = false ∧
      (first = '-' → rest = [] ∧ token = .fixed "-") := by
  cases token with
  | fixed text =>
    obtain ⟨filled, known⟩ := head_of_fixed text valid
    obtain ⟨first, rest, spelled⟩ := List.exists_cons_of_ne_nil filled
    rw [spelled] at known
    simp only [List.head?_cons, Option.all_some, Bool.and_eq_true, Bool.not_eq_true',
      Bool.or_eq_true, bne_iff_ne, beq_iff_eq] at known
    refine ⟨first, rest, spelled, known.1, fun same => ?_⟩
    obtain rfl : text = "-" := known.2.resolve_left fun other => other same
    exact ⟨(List.cons.inj spelled).2.symm, rfl⟩
  | name text =>
    have named : isNameText text.toList = true := valid
    cases spelled : text.toList with
    | nil =>
      rw [spelled] at named
      contradiction
    | cons first rest =>
      rw [spelled] at named
      simp only [isNameText, Bool.and_eq_true] at named
      obtain ⟨solid, other⟩ := not_blank_of_start named.1.1
      exact ⟨first, rest, spelled, solid, fun same => absurd same other⟩
  | integer value =>
    obtain ⟨first, rest, spelled, digits⟩ := digits_of_integer valid
    obtain ⟨solid, other⟩ := not_blank_of_digit (digits first (by simp))
    exact ⟨first, rest, spelled, solid, fun same => absurd same other⟩
  | literal quote value =>
    refine ⟨quote, _, rfl, ?_⟩
    rcases valid with rfl | rfl
    · exact ⟨by decide, fun same => absurd same (by decide)⟩
    · exact ⟨by decide, fun same => absurd same (by decide)⟩

/-! ## Places -/

/-- A place before tokens: the rest of the text spells them out. -/
structure Upcoming (size : Nat) (cursor : Cursor) (tokens : List Token) : Prop where
  within : cursor.Within size
  valid : ∀ token ∈ tokens, token.Valid
  spaced : Spaced Separates tokens cursor.rest

/-- A text that a token can end before: nothing, or something that starts with a blank or a
comment. -/
def Edge (text : List Char) : Prop :=
  ∀ first, text.head? = some first → isSpace first = true ∨ first = '-'

/-- A separator starts with a blank or a comment. -/
theorem edge_of_separates {token : Token} {separator : List Char}
    (separates : Separates token separator) (rest : List Char) : Edge (separator ++ rest) := by
  obtain ⟨⟨filled, blank⟩, -⟩ := separates
  intro first same
  cases blank with
  | none => contradiction
  | space blank _ =>
    obtain rfl := Option.some.inj same
    exact .inl blank
  | comment _ _ =>
    obtain rfl := Option.some.inj same
    exact .inr rfl

namespace Upcoming

variable {size : Nat} {cursor : Cursor} {token : Token} {tokens : List Token}

/-- What follows the first token, and the place before the other ones. -/
theorem split (upcoming : Upcoming size cursor (token :: tokens)) :
    ∃ tail, cursor.rest = token.characters ++ tail ∧ Edge tail ∧
      (token = .fixed "-" → tail.head? ≠ some '-') ∧
      (tokens = [] ∧ tail = [] ∨ ∃ separator after, tail = separator ++ after ∧ Blanks separator ∧
        Spaced Separates tokens after) := by
  obtain ⟨-, -, spaced⟩ := upcoming
  cases tokens with
  | nil =>
    have whole : cursor.rest = token.characters := spaced
    exact ⟨[], by simp [whole], nofun, by simp, .inl ⟨rfl, rfl⟩⟩
  | cons next others =>
    obtain ⟨separator, after, whole, separates, more⟩ := spaced
    refine ⟨separator ++ after, by rw [whole, List.append_assoc], edge_of_separates separates after,
      ?_, .inr ⟨separator, after, rfl, separates.1.2, more⟩⟩
    intro same
    cases separator with
    | nil => exact absurd rfl separates.1.1
    | cons first rest => exact separates.2 same

/-- No blanks stand before tokens. -/
theorem close (upcoming : Upcoming size cursor tokens) : chunkGrammar.skip cursor = cursor := by
  show skipBlanks cursor.offset false cursor.rest = cursor
  cases tokens with
  | nil =>
    have ended : cursor.rest = [] := upcoming.spaced
    obtain ⟨offset, rest⟩ := cursor
    subst ended
    rfl
  | cons token tokens =>
    obtain ⟨tail, whole, -, minus, -⟩ := upcoming.split
    obtain ⟨first, rest, spelled, solid, bare⟩ := (upcoming.valid token (by simp)).head
    have text : cursor.rest = first :: (rest ++ tail) := by rw [whole, spelled, List.cons_append]
    rw [text, skipBlanks_of_solid _ solid]
    · rw [← text]
    · intro same
      obtain ⟨rfl, single⟩ := bare same
      exact minus single

/-- The first token stands at the place, and what follows it starts with a blank or a comment. -/
theorem first (upcoming : Upcoming size cursor (token :: tokens)) :
    cursor.rest = token.characters ++ (cursor.past token.characters).rest ∧
      Edge (cursor.past token.characters).rest := by
  obtain ⟨tail, whole, edge, -, -⟩ := upcoming.split
  have rest : (cursor.past token.characters).rest = tail := by
    show cursor.rest.drop token.characters.length = tail
    rw [whole, List.drop_left]
  rw [rest]
  exact ⟨whole, edge⟩

/-- The blanks behind the first token lead to the place before the others. -/
theorem next (upcoming : Upcoming size cursor (token :: tokens)) :
    Upcoming size (chunkGrammar.skip (cursor.past token.characters)) tokens := by
  obtain ⟨tail, whole, -, -, rest⟩ := upcoming.split
  obtain ⟨within, valid, -⟩ := upcoming
  have text : (cursor.past token.characters).rest = tail := by
    show cursor.rest.drop token.characters.length = tail
    rw [whole, List.drop_left]
  have inside : (cursor.past token.characters).Within size := by
    unfold Cursor.Within at within ⊢
    rw [text, ← within, whole, List.length_append]
    exact Nat.add_assoc _ _ _
  have others := fun token member => valid token (List.mem_cons_of_mem _ member)
  refine ⟨(chunkOrder.skips _).within inside, others, ?_⟩
  show Spaced Separates tokens (skipBlanks _ false (cursor.past token.characters).rest).rest
  rw [text]
  rcases rest with ⟨rfl, rfl⟩ | ⟨separator, after, rfl, blank, spaced⟩
  · exact rfl
  · have following : Upcoming (cursor.offset + token.characters.length + separator.length +
        after.length) ⟨cursor.offset + token.characters.length + separator.length, after⟩ tokens :=
      ⟨rfl, others, spaced⟩
    have stays := congrArg Cursor.rest following.close
    rw [skipBlanks_append blank]
    exact stays ▸ spaced

end Upcoming

end ScriptHost.Script
