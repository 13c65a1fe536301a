import ScriptHost.Proofs.Script.Tokens

/-!
# Literals

An integer without a sign is read back from its digits, and a string from its quoted text
with the escapes in it.
-/

namespace ScriptHost.Script

open ScriptHost.Grammar ScriptHost.Binary Definition.Orderly

variable {size : Nat} {mode : Mode} {cursor : Cursor} {tokens : List Token}

/-! ## Integers -/

/-- The value of decimal digits is the number they are the digits of. -/
theorem digitsValue_eq {digits : List Char}
    (numeric : ∀ character ∈ digits, character.isDigit = true) :
    digitsValue 10 digits = Nat.ofDigitChars 10 digits 0 := by
  have step (start : Nat) :
      digits.foldl (fun value digit => value * 10 + digitsValue.digitValue digit) start =
        Nat.ofDigitChars 10 digits start := by
    induction digits generalizing start with
    | nil => rfl
    | cons first rest ih =>
      obtain ⟨digit, others⟩ := List.forall_mem_cons.mp numeric
      have value : digitsValue.digitValue first = first.toNat - '0'.toNat := if_pos digit
      rw [List.foldl_cons, ih others, Nat.ofDigitChars_cons, value, Nat.mul_comm]
  exact step 0

/-- An integer without a sign is read from its digits. -/
theorem integerLiteral?_digits {value : Int64} (positive : 0 ≤ value) :
    integerLiteral? (Nat.toDigits 10 value.toInt.toNat) = some (.integer value) := by
  have signless : 0 ≤ value.toInt := Int64.le_iff_toInt_le.mp positive
  have numeric (character : Char) (member : character ∈ Nat.toDigits 10 value.toInt.toNat) :
      character.isDigit = true := Nat.isDigit_of_mem_toDigits (by decide) (by decide) member
  have worth : digitsValue 10 (Nat.toDigits 10 value.toInt.toNat) = value.toInt.toNat := by
    rw [digitsValue_eq numeric, Nat.ofDigitChars_toDigits (by decide) (by decide)]
  have fits : (value.toInt.toNat : Int) ≤ largestInt64 := by
    have bound := value.toInt_lt
    unfold largestInt64
    omega
  have back : Int64.ofNat value.toInt.toNat = value := by
    have bound := value.toInt_lt
    apply Int64.toInt_inj.mp
    rw [Int64.toInt_ofNat_of_lt (by omega), Int.toNat_of_nonneg signless]
  unfold integerLiteral?
  rw [wholeNumber?_of_digits Nat.toDigits_ne_nil numeric, worth]
  dsimp only
  rw [if_pos fits, back]

/-- What stands at an edge is no text of other characters. -/
theorem refuses_lit_of_edge {text : String} (edge : Edge cursor.rest) (filled : text.toList ≠ [])
    (plain : ∀ character ∈ text.toList, isSpace character = false ∧ character ≠ '-') :
    chunkOrder.Refuses size mode (.lit text) cursor := by
  refine Refuses.text (Bool.eq_false_iff.mpr fun starts => ?_)
  have short : text.toList.isPrefixOf [] = true := isPrefixOf_of_edge edge (.inr plain) starts
  cases spelled : text.toList with
  | nil => exact filled spelled
  | cons first rest =>
    rw [spelled] at short
    contradiction

/-- Digits up to an edge are matched together. -/
theorem parses_digits {digits : List Char} (within : cursor.Within size)
    (whole : cursor.rest = digits ++ (cursor.past digits).rest)
    (edge : Edge (cursor.past digits).rest) (filled : digits ≠ [])
    (numeric : ∀ character ∈ digits, character.isDigit = true) :
    chunkOrder.Parses size .hidden (atLeastOnce (.one Char.isDigit)) cursor []
      (cursor.past digits) := by
  have stops : Stops Char.isDigit (cursor.past digits).rest :=
    edge.stops not_digit_of_blank (by decide)
  have run : cursor.rest.takeWhile Char.isDigit = digits := by
    rw [whole, takeWhile_of_stops numeric stops]
  have rest : cursor.rest.dropWhile Char.isDigit = (cursor.past digits).rest := by
    rw [whole, dropWhile_of_stops numeric stops]
  have given := @matchAt_atLeastOnce chunkGrammar (matching size) .hidden (by decide) size
    Char.isDigit cursor within
  rw [run, rest, if_neg (by simp [filled])] at given
  exact given

/-- Digits up to an edge are no hexadecimal literal. -/
theorem refuses_hexadecimal {digits : List Char}
    (whole : cursor.rest = digits ++ (cursor.past digits).rest)
    (edge : Edge (cursor.past digits).rest) (filled : digits ≠ [])
    (numeric : ∀ character ∈ digits, character.isDigit = true) :
    chunkOrder.Refuses size .hidden (chunkGrammar.body .hexInteger) cursor := by
  by_cases starts : "0".toList <+: cursor.rest
  · have next (first : Char) (same : (cursor.past "0".toList).rest.head? = some first) :
        first.isDigit = true ∨ isSpace first = true ∨ first = '-' := by
      obtain ⟨digit, others, rfl⟩ := List.exists_cons_of_ne_nil filled
      have rest : (cursor.past "0".toList).rest = others ++ (cursor.past (digit :: others)).rest := by
        show cursor.rest.drop 1 = _
        rw [whole]
        rfl
      rw [rest] at same
      cases others with
      | nil => exact .inr (edge first same)
      | cons second more =>
        obtain rfl := Option.some.inj same
        exact .inl (numeric second (by simp))
    have mark (text : String) (letter : Char) (single : text.toList = [letter])
        (other : letter.isDigit = false ∧ isSpace letter = false ∧ letter ≠ '-') :
        chunkOrder.Refuses size .hidden (.lit text) (cursor.past "0".toList) := by
      refine Refuses.text (Bool.eq_false_iff.mpr fun starts => ?_)
      rw [single] at starts
      obtain ⟨rest, text⟩ := List.isPrefixOf_iff_prefix.mp starts
      have known := next letter (by rw [← text]; rfl)
      simp [other] at known
    exact Refuses.seq_second (Parses.text starts) <| Refuses.seq_first <|
      Refuses.choice (mark "x" 'x' rfl (by decide)) (mark "X" 'X' rfl (by decide))
  · refine Refuses.seq_first (Refuses.text (Bool.eq_false_iff.mpr fun found => ?_))
    exact starts (List.isPrefixOf_iff_prefix.mp found)

/-- An integer is matched as a number that is one. -/
theorem Upcoming.parses_integer {value : Int64}
    (upcoming : Upcoming size cursor (.integer value :: tokens)) :
    ∃ tree, chunkOrder.Parses size .spaced Grammar.numberLiteral cursor [tree]
      (cursor.past (Token.integer value).characters) ∧ readExpression tree = .ok (.integer value) := by
  have positive : 0 ≤ value := upcoming.valid (.integer value) (by simp)
  have spelled := characters_integer positive
  have covered := upcoming.text_treeBetween .integer []
  obtain ⟨whole, edge⟩ := upcoming.first
  rw [spelled] at whole edge covered ⊢
  have numeric (character : Char) (member : character ∈ Nat.toDigits 10 value.toInt.toNat) :
      character.isDigit = true := Nat.isDigit_of_mem_toDigits (by decide) (by decide) member
  have digits := parses_digits upcoming.within whole edge Nat.toDigits_ne_nil numeric
  have point {mode : Mode} (text : String) (filled : text.toList ≠ [])
      (plain : ∀ character ∈ text.toList, isSpace character = false ∧ character ≠ '-') :
      chunkOrder.Refuses size mode (.lit text)
        (cursor.past (Nat.toDigits 10 value.toInt.toNat)) := refuses_lit_of_edge edge filled plain
  have fraction : chunkOrder.Refuses size .spaced (.rule .float) cursor := by
    refine Refuses.rule (Refuses.seq_second digits (Refuses.choice ?_ ?_))
    · exact Refuses.seq_first (point "." (by decide) (by decide))
    · exact Refuses.seq_first (Refuses.choice (point "e" (by decide) (by decide))
        (point "E" (by decide) (by decide)))
  have prefixed : chunkOrder.Refuses size .spaced (.rule .hexInteger) cursor :=
    Refuses.rule (refuses_hexadecimal whole edge Nat.toDigits_ne_nil numeric)
  refine ⟨_, Parses.choice_second prefixed <| Parses.choice_second fraction <|
    Parses.rule (by decide) digits, ?_⟩
  rw [treeBetween, readExpression]
  have text : cursor.take ((cursor.past (Nat.toDigits 10 value.toInt.toNat)).offset -
      cursor.offset) = Nat.toDigits 10 value.toInt.toNat := covered
  rw [text, integerLiteral?_digits positive]
  rfl

/-! ## Strings -/

/-- A character is escaped, or it stands for itself. -/
theorem escape_cases {quote : Char} (quoting : IsQuote quote) (character : Char) :
    (∃ mark, escape quote character = ['\\', mark] ∧ escaped? mark = some character) ∨
      escape quote character = [character] ∧ character ≠ quote ∧ character ≠ '\\' ∧
        character ≠ '\n' := by
  unfold escape
  split
  · exact .inl ⟨'n', rfl, rfl⟩
  · exact .inl ⟨'t', rfl, rfl⟩
  · exact .inl ⟨'r', rfl, rfl⟩
  · exact .inl ⟨'0', rfl, rfl⟩
  · exact .inl ⟨'\\', rfl, rfl⟩
  · next plain _ _ _ slash =>
    by_cases same : character = quote
    · rw [if_pos same]
      subst same
      rcases quoting with rfl | rfl
      · exact .inl ⟨'\x22', rfl, rfl⟩
      · exact .inl ⟨'\x27', rfl, rfl⟩
    · rw [if_neg same]
      exact .inr ⟨rfl, same, slash, plain⟩

/-- Escaped characters are read back. -/
theorem unescape?_escape {quote : Char} (quoting : IsQuote quote) (characters : List Char) :
    unescape? (characters.flatMap (escape quote)) = some characters := by
  induction characters with
  | nil => rfl
  | cons character rest ih =>
    rw [List.flatMap_cons]
    rcases escape_cases quoting character with ⟨mark, spelled, meant⟩ | ⟨spelled, -, slash, -⟩
    · rw [spelled, List.cons_append, List.cons_append, List.nil_append, unescape?, meant, ih]
      rfl
    · rw [spelled, List.cons_append, List.nil_append, unescape?, ih]
      · rfl
      · exact fun _ _ same => absurd same slash
      · exact fun same => absurd same slash

/-- What can stand between quotes: pairs of a backslash and any character, and characters other than
the quote, a backslash and a line break. -/
inductive Content (quote : Char) : List Char → Prop
  | nil : Content quote []
  | pair (mark : Char) {rest : List Char} (more : Content quote rest) :
    Content quote ('\\' :: mark :: rest)
  | plain {character : Char} {rest : List Char} (notQuote : character ≠ quote)
    (notSlash : character ≠ '\\') (notBreak : character ≠ '\n') (more : Content quote rest) :
    Content quote (character :: rest)

/-- Escaped characters can stand between quotes. -/
theorem content_escape {quote : Char} (quoting : IsQuote quote) (characters : List Char) :
    Content quote (characters.flatMap (escape quote)) := by
  induction characters with
  | nil => exact .nil
  | cons character rest ih =>
    rw [List.flatMap_cons]
    rcases escape_cases quoting character with ⟨mark, spelled, -⟩ | ⟨spelled, notQuote, slash, line⟩
    · rw [spelled]
      exact .pair mark ih
    · rw [spelled]
      exact .plain notQuote slash line ih

/-- One character of a string literal. -/
def contentPart (quote : Char) : Expr Rule :=
  .choice escapePair
    (.one fun character => character != quote && character != '\\' && character != '\n')

/-- The characters of a string literal are matched up to its closing quote. -/
theorem turns_content {quote : Char} {word : List Char} (content : Content quote word)
    (offset : Nat) (rest : List Char) :
    Turns (chunkOrder.nextTurn size .hidden (contentPart quote)) ⟨offset, word ++ rest⟩ []
      ⟨offset + word.length, rest⟩ := by
  induction content generalizing offset with
  | nil => exact .none _
  | @pair mark others _ ih =>
    have one : chunkOrder.Parses size .hidden (contentPart quote)
        ⟨offset, ['\\', mark] ++ (others ++ rest)⟩ [] ⟨offset + 2, others ++ rest⟩ :=
      Parses.choice_first <| Parses.seq (Parses.text (List.prefix_append ['\\'] _)) (Parses.one rfl)
    have further := Parses.turn one (ih (offset + 2))
    rw [Nat.add_right_comm] at further
    exact further
  | @plain character others notQuote notSlash notBreak _ ih =>
    have slash : "\\".toList.isPrefixOf (character :: (others ++ rest)) = false := by
      simp [List.isPrefixOf, Ne.symm notSlash]
    have accepted : (character != quote && character != '\\' && character != '\n') = true := by
      simp [notQuote, notSlash, notBreak]
    have one : chunkOrder.Parses size .hidden (contentPart quote)
        ⟨offset, character :: (others ++ rest)⟩ [] ⟨offset + 1, others ++ rest⟩ :=
      Parses.choice_second (Refuses.seq_first (Refuses.text slash)) (Parses.one accepted)
    have further := Parses.turn one (ih (offset + 1))
    rw [Nat.add_right_comm] at further
    exact further

/-- The content of a string literal is matched up to its closing quote. -/
theorem parses_content {quote : Char} (quoting : IsQuote quote) (rule : Rule)
    (body : chunkGrammar.body rule = .many (contentPart quote))
    (style : chunkGrammar.style rule = .hidden) {word : List Char} (content : Content quote word)
    {offset : Nat} {rest : List Char}
    (within : Cursor.Within size ⟨offset, word ++ quote :: rest⟩) :
    ∃ tree, tree.text = word ∧
      chunkOrder.Parses size .tight (.rule rule) ⟨offset, word ++ quote :: rest⟩ [tree]
        ⟨offset + word.length, quote :: rest⟩ := by
  have stopped (offset : Nat) :
      chunkOrder.Refuses size .hidden (contentPart quote) ⟨offset, quote :: rest⟩ := by
    have slash : "\\".toList.isPrefixOf (quote :: rest) = false := by
      rcases quoting with rfl | rfl <;> rfl
    refine Refuses.choice (Refuses.seq_first (Refuses.text slash)) ?_
    exact if_neg (by simp)
  have matched := Parses.many rfl within rfl (turns_content content offset _)
    (stopped (offset + word.length))
  have unseen : (chunkGrammar.style rule).mode .tight = .hidden := by
    rw [style]
    rfl
  rw [← body, ← unseen] at matched
  refine ⟨_, ?_, Parses.rule (by decide) matched⟩
  show List.take _ (word ++ quote :: rest) = _
  rw [Nat.add_sub_cancel_left, List.take_left]

/-- What is read of a string literal at an offset. -/
def readLiteral (offset : Nat) (word : List Char) : Reading Expression :=
  match unescape? word with
  | some value => .ok (.text (String.ofList value))
  | none => .error (.defect .escape offset)

/-- A string literal is matched and read. -/
theorem parses_string {quote : Char} (quoting : IsQuote quote) {word : List Char}
    (content : Content quote word) {offset : Nat} {rest : List Char}
    (within : Cursor.Within size ⟨offset, quote :: (word ++ quote :: rest)⟩) :
    ∃ tree, treeRule tree = .string ∧
      chunkOrder.Parses size .spaced (.rule .string) ⟨offset, quote :: (word ++ quote :: rest)⟩
        [tree] ⟨offset + 1 + word.length + 1, rest⟩ ∧
      readExpression tree = readLiteral offset word := by
  have mark (offset : Nat) (rest : List Char) :
      chunkOrder.Parses size .tight (.text [quote]) ⟨offset, quote :: rest⟩ [] ⟨offset + 1, rest⟩ :=
    Parses.text (List.prefix_append [quote] rest)
  have contentInside : Cursor.Within size ⟨offset + 1, word ++ quote :: rest⟩ :=
    (mark offset _).leads.within within
  have read (finish : Cursor) {inner : ChunkTree} (covered : inner.text = word) (text : List Char) :
      readExpression (treeBetween .string ⟨offset, text⟩ finish [inner]) =
        readLiteral offset word := by
    rw [treeBetween, readExpression, stringLiteral, covered, readLiteral]
    cases unescape? word <;> rfl
  rcases quoting with rfl | rfl
  · obtain ⟨inner, covered, parses⟩ :=
      parses_content (.inl rfl) .dqContent rfl rfl content contentInside
    exact ⟨_, rfl, Parses.rule (by decide) <| Parses.choice_first <|
      Parses.seq (mark _ _) <| Parses.seq parses (mark _ _), read _ covered _⟩
  · obtain ⟨inner, covered, parses⟩ :=
      parses_content (.inr rfl) .sqContent rfl rfl content contentInside
    have other (rest : List Char) :
        chunkOrder.Refuses size .tight (.lit "\"") ⟨offset, '\x27' :: rest⟩ := Refuses.text rfl
    exact ⟨_, rfl, Parses.rule (by decide) <| Parses.choice_second (Refuses.seq_first (other _)) <|
      Parses.seq (mark _ _) <| Parses.seq parses (mark _ _), read _ covered _⟩

/-- A written string is matched and read. -/
theorem Upcoming.parses_literal {quote : Char} {value : String}
    (upcoming : Upcoming size cursor (.literal quote value :: tokens)) :
    ∃ tree, chunkOrder.Parses size .spaced (.rule .string) cursor [tree]
      (cursor.past (Token.literal quote value).characters) ∧
      readExpression tree = .ok (.text value) := by
  have quoting : IsQuote quote := upcoming.valid (.literal quote value) (by simp)
  obtain ⟨whole, -⟩ := upcoming.first
  generalize rested : (cursor.past (Token.literal quote value).characters).rest = tail at whole
  have inside := upcoming.within
  obtain ⟨offset, rest⟩ := cursor
  obtain rfl : rest = quote :: (value.toList.flatMap (escape quote) ++ quote :: tail) := by
    simpa [Token.characters] using whole
  have length : (Token.literal quote value).characters.length =
      (value.toList.flatMap (escape quote)).length + 2 := by
    simp only [Token.characters, List.length_cons, List.length_append, List.length_nil]
  have finish : Cursor.past ⟨offset, quote :: (value.toList.flatMap (escape quote) ++ quote :: tail)⟩
      (Token.literal quote value).characters =
        ⟨offset + 1 + (value.toList.flatMap (escape quote)).length + 1, tail⟩ := by
    have further : offset + ((value.toList.flatMap (escape quote)).length + 2) =
        offset + 1 + (value.toList.flatMap (escape quote)).length + 1 := by omega
    rw [← further, ← length]
    exact congrArg (Cursor.mk _) rested
  obtain ⟨tree, -, parses, read⟩ :=
    parses_string quoting (content_escape quoting value.toList) inside
  refine ⟨tree, finish ▸ parses, ?_⟩
  rw [read, readLiteral, unescape?_escape quoting]
  dsimp only
  rw [String.ofList_toList]

end ScriptHost.Script
