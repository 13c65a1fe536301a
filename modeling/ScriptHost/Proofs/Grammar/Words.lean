import ScriptHost.Proofs.Grammar.ChunkOrder
import ScriptHost.Proofs.Grammar.Forest

/-!
# Words of the chunk grammar

Names, reserved words and numbers are matched without blanks, and each takes all the
characters it can. So what is matched at a place depends only on the longest run of
identifier characters there: a reserved word matches where that run is the word, and a
name where it is a name.
-/

namespace ScriptHost.Grammar

open ScriptHost.Grammar.Expr

/-- What holds of all characters of a text is decided along the text, not over all characters. -/
instance (priority := 2000) decidableForallMemChar (property : Char → Prop)
    [DecidablePred property] (text : List Char) :
    Decidable (∀ character ∈ text, property character) := List.decidableBAll property text

/-- The longest run of identifier characters at the start of a text. -/
def leadingWord (text : List Char) : List Char := text.takeWhile isIdentifierPart

/-- What follows the longest run of identifier characters. -/
def afterWord (text : List Char) : List Char := text.dropWhile isIdentifierPart

/-- A text is its leading word and what follows. -/
theorem leadingWord_append_afterWord (text : List Char) :
    leadingWord text ++ afterWord text = text := List.takeWhile_append_dropWhile

/-- The first character of a rest does not belong to a class. -/
def Stops (accepts : Char → Bool) (rest : List Char) : Prop :=
  ∀ character, rest.head? = some character → accepts character = false

/-- A run of a class ends where the class stops. -/
theorem takeWhile_of_stops {accepts : Char → Bool} {run rest : List Char}
    (inside : ∀ character ∈ run, accepts character = true) (stops : Stops accepts rest) :
    (run ++ rest).takeWhile accepts = run := by
  rw [List.takeWhile_append_of_pos inside]
  cases rest with
  | nil => simp
  | cons character rest => simp [stops character rfl]

/-- There is no run of a class where it stops. -/
theorem takeWhile_nil_of_stops {accepts : Char → Bool} {rest : List Char}
    (stops : Stops accepts rest) : rest.takeWhile accepts = [] := by
  simpa using takeWhile_of_stops (List.forall_mem_nil (accepts · = true)) stops

/-- What follows a run of a class is dropped down to where the class stops. -/
theorem dropWhile_of_stops {accepts : Char → Bool} {run rest : List Char}
    (inside : ∀ character ∈ run, accepts character = true) (stops : Stops accepts rest) :
    (run ++ rest).dropWhile accepts = rest := by
  rw [List.dropWhile_append_of_pos inside]
  cases rest with
  | nil => rfl
  | cons character rest => simp [stops character rfl]

/-- A class stops behind its longest run. -/
theorem stops_dropWhile (accepts : Char → Bool) (text : List Char) :
    Stops accepts (text.dropWhile accepts) := by
  intro character first
  have known := List.head?_dropWhile_not accepts text
  rw [first] at known
  simpa using known

/-- The words that are no names. -/
def reservedWords : List String := ["local", "return", "nil", "true", "false", "and", "or", "not"]

/-- The characters of reserved words belong to identifiers. -/
theorem isIdentifierPart_of_reserved : ∀ word ∈ reservedWords, ∀ character ∈ word.toList,
    isIdentifierPart character = true := by
  decide

/-- Whether a text is a name: an identifier that is not reserved. -/
def isNameText (text : List Char) : Bool :=
  match text with
  | [] => false
  | first :: rest =>
    isIdentifierStart first && rest.all isIdentifierPart &&
      !(reservedWords.map String.toList).contains text

/-- A character that starts identifiers belongs to them. -/
theorem isIdentifierPart_of_start {character : Char} (start : isIdentifierStart character = true) :
    isIdentifierPart character = true := by
  unfold isIdentifierStart isLetter at start
  unfold isIdentifierPart
  simp only [Bool.or_eq_true, Char.isAlphanum] at start ⊢
  exact start.imp_left .inl

/-- The characters of a name belong to identifiers. -/
theorem isIdentifierPart_of_mem {text : List Char} (named : isNameText text = true) :
    ∀ character ∈ text, isIdentifierPart character = true := by
  cases text with
  | nil => contradiction
  | cons first rest =>
    simp only [isNameText, Bool.and_eq_true, List.all_eq_true] at named
    exact List.forall_mem_cons.mpr ⟨isIdentifierPart_of_start named.1.1, named.1.2⟩

/-- A reserved word is no name. -/
theorem isNameText_of_reserved {text : List Char}
    (reserved : text ∈ reservedWords.map String.toList) : isNameText text = false := by
  cases text with
  | nil => rfl
  | cons first rest =>
    have known : (reservedWords.map String.toList).contains (first :: rest) = true :=
      List.contains_iff_mem.mpr reserved
    rw [isNameText, known, Bool.not_true, Bool.and_false]

/-- The leading word is a name, if it starts as one and is not reserved. -/
theorem isNameText_leadingWord {first : Char} {rest : List Char}
    (free : leadingWord (first :: rest) ∉ reservedWords.map String.toList) :
    isNameText (leadingWord (first :: rest)) = isIdentifierStart first := by
  have whole (part : isIdentifierPart first = true) :
      leadingWord (first :: rest) = first :: leadingWord rest := List.takeWhile_cons_of_pos part
  by_cases start : isIdentifierStart first = true
  · have unknown : (reservedWords.map String.toList).contains (first :: leadingWord rest) =
        false := by
      rw [← whole (isIdentifierPart_of_start start), ← Bool.not_eq_true, List.contains_iff_mem]
      exact free
    have parts : (leadingWord rest).all isIdentifierPart = true := List.all_takeWhile
    rw [whole (isIdentifierPart_of_start start), isNameText, start, parts, unknown]
    rfl
  · have other : isIdentifierStart first = false := Bool.eq_false_iff.mpr start
    by_cases part : isIdentifierPart first = true
    · rw [whole part, isNameText, other]
      rfl
    · rw [leadingWord, List.takeWhile_cons_of_neg part, other]
      rfl

/-! ## Runs of a class -/

/-- Turns of a step that takes one character of a class take a run of it. -/
theorem repeated_run {step : Cursor → Match Rule} (accepts : Char → Bool)
    (takes : ∀ offset character rest, step ⟨offset, character :: rest⟩ =
      if accepts character = true then .matched ([], ⟨offset + 1, rest⟩) else .refused)
    (ends : ∀ offset, step ⟨offset, []⟩ = .refused) {turns : Nat} (offset : Nat) {rest : List Char}
    (enough : rest.length ≤ turns) :
    repeated step turns ⟨offset, rest⟩ =
      .matched ([], ⟨offset + (rest.takeWhile accepts).length, rest.dropWhile accepts⟩) := by
  induction turns generalizing offset rest with
  | zero =>
    obtain rfl : rest = [] := List.length_eq_zero_iff.mp (Nat.le_zero.mp enough)
    rfl
  | succ turns ih =>
    cases rest with
    | nil => simp [repeated, ends]
    | cons character rest =>
      have more := ih (offset + 1) (Nat.le_of_succ_le_succ enough)
      by_cases accepted : accepts character = true
      · rw [repeated, takes, if_pos accepted]
        dsimp only
        rw [Outcome.andThen_nil, more]
        simp [accepted, Nat.add_comm, Nat.add_left_comm]
      · rw [repeated, takes, if_neg accepted]
        simp [accepted]

section Tight

variable {grammar : Definition Rule} {call : Rule → Mode → Cursor → Match Rule} {mode : Mode}
  (tight : mode ≠ .spaced)
include tight

/-- Where no blanks are allowed there is no gap. -/
theorem gap_of_tight (cursor : Cursor) : grammar.gap mode cursor = cursor := if_neg tight

/-- A repetition of one character takes a run of its class. -/
theorem matchAt_many_one {size : Nat} (accepts : Char → Bool) {cursor : Cursor}
    (within : cursor.Within size) :
    (Expr.many (.one accepts)).matchAt grammar size call mode cursor =
      .matched ([], ⟨cursor.offset + (cursor.rest.takeWhile accepts).length,
        cursor.rest.dropWhile accepts⟩) := by
  obtain ⟨offset, rest⟩ := cursor
  cases rest with
  | nil => rfl
  | cons character rest =>
    by_cases accepted : accepts character = true
    · have enough : rest.length ≤ size - (offset + 1) := by
        unfold Cursor.Within at within
        simp only [List.length_cons] at within
        omega
      have more : repeated (fun next => (Expr.one accepts).matchAt grammar size call mode
          (grammar.gap mode next)) (size - (offset + 1)) ⟨offset + 1, rest⟩ = _ :=
        repeated_run accepts (fun _ _ _ => by rw [gap_of_tight tight]; rfl)
          (fun _ => by rw [gap_of_tight tight]; rfl) (offset + 1) enough
      rw [Expr.matchAt, Expr.matchAt]
      dsimp only
      rw [if_pos accepted]
      dsimp only
      rw [Outcome.andThen_nil, more]
      simp [accepted, Nat.add_comm, Nat.add_left_comm]
    · simp [Expr.matchAt, accepted]

/-- One character or more of a class take a run of it. -/
theorem matchAt_atLeastOnce {size : Nat} (accepts : Char → Bool) {cursor : Cursor}
    (within : cursor.Within size) :
    (atLeastOnce (.one accepts)).matchAt grammar size call mode cursor =
      if (cursor.rest.takeWhile accepts).isEmpty then .refused
      else .matched ([], ⟨cursor.offset + (cursor.rest.takeWhile accepts).length,
        cursor.rest.dropWhile accepts⟩) := by
  obtain ⟨offset, rest⟩ := cursor
  cases rest with
  | nil => rfl
  | cons character rest =>
    by_cases accepted : accepts character = true
    · have inside : Cursor.Within size ⟨offset + 1, rest⟩ :=
        (Cursor.Leads.pass offset [character] rest).within within
      have more := @matchAt_many_one grammar call _ tight size accepts _ inside
      unfold atLeastOnce
      rw [Expr.matchAt, Expr.matchAt]
      dsimp only
      rw [if_pos accepted, Outcome.andThen_nil, gap_of_tight tight, more]
      simp [accepted, Nat.add_comm, Nat.add_left_comm]
    · simp [atLeastOnce, Expr.matchAt, accepted]

/-! ## Words -/

omit tight in
/-- The end of a word is where identifiers stop. -/
theorem matchAt_wordEnd (size : Nat) (cursor : Cursor) :
    wordEnd.matchAt grammar size call mode cursor =
      if leadingWord cursor.rest = [] then .matched ([], cursor) else .refused := by
  obtain ⟨offset, rest⟩ := cursor
  cases rest with
  | nil => rfl
  | cons character rest =>
    by_cases part : isIdentifierPart character = true
    · simp [wordEnd, Expr.matchAt, leadingWord, part]
    · simp [wordEnd, Expr.matchAt, leadingWord, part]

omit tight in
/-- A word is the leading one of a text exactly where it starts the text and ends there. -/
theorem leadingWord_eq_iff {word : List Char}
    (parts : ∀ character ∈ word, isIdentifierPart character = true) (text : List Char) :
    leadingWord text = word ↔
      ∃ rest, text = word ++ rest ∧ leadingWord rest = [] := by
  constructor
  · intro same
    refine ⟨afterWord text, by rw [← same, leadingWord_append_afterWord], ?_⟩
    exact takeWhile_nil_of_stops (stops_dropWhile isIdentifierPart text)
  · rintro ⟨rest, rfl, ended⟩
    unfold leadingWord at ended ⊢
    rw [List.takeWhile_append_of_pos parts, ended, List.append_nil]

/-- A word matches where it is the leading one. -/
theorem matchAt_word (size : Nat) (text : String)
    (parts : ∀ character ∈ text.toList, isIdentifierPart character = true) (cursor : Cursor) :
    (word text).matchAt grammar size call mode cursor =
      if leadingWord cursor.rest = text.toList then
        .matched ([], ⟨cursor.offset + text.toList.length, afterWord cursor.rest⟩)
      else .refused := by
  have whole := leadingWord_eq_iff parts cursor.rest
  unfold word Expr.lit
  rw [Expr.matchAt, Expr.matchAt]
  by_cases same : leadingWord cursor.rest = text.toList
  · have after : cursor.rest.drop text.toList.length = afterWord cursor.rest := by
      have parts := congrArg (List.drop text.toList.length)
        (leadingWord_append_afterWord cursor.rest)
      rw [← parts, same, List.drop_left]
    obtain ⟨rest, split, ended⟩ := whole.mp same
    have starts : text.toList.isPrefixOf cursor.rest = true := by
      rw [split]
      exact List.isPrefixOf_iff_prefix.mpr (List.prefix_append _ _)
    rw [if_pos same, if_pos starts, ← after, split, List.drop_left]
    simp [gap_of_tight tight, matchAt_wordEnd, ended]
  · rw [if_neg same]
    by_cases starts : text.toList.isPrefixOf cursor.rest = true
    · obtain ⟨rest, split⟩ := List.isPrefixOf_iff_prefix.mp starts
      have more : leadingWord rest ≠ [] := fun ended => same (whole.mpr ⟨rest, split.symm, ended⟩)
      rw [if_pos starts, ← split, List.drop_left]
      simp [gap_of_tight tight, matchAt_wordEnd, more]
    · rw [if_neg starts]
      rfl

omit tight in
/-- A fixed text matches where it starts the rest. -/
theorem matchAt_lit (size : Nat) (text : String) (cursor : Cursor) :
    (Expr.lit text).matchAt grammar size call mode cursor =
      if text.toList.isPrefixOf cursor.rest = true then
        .matched ([], ⟨cursor.offset + text.toList.length, cursor.rest.drop text.toList.length⟩)
      else .refused := rfl

/-- A choice of words is refused at a longer word. -/
theorem matchAt_words_refused (size : Nat) (first : String) (others : List String) (cursor : Cursor)
    (longer : ∀ word ∈ first :: others, ∀ rest, cursor.rest = word.toList ++ rest →
      leadingWord rest ≠ []) :
    (Expr.seq (oneOf (.lit first) (others.map .lit)) wordEnd).matchAt grammar size call mode cursor =
      .refused := by
  rw [Expr.matchAt]
  induction others generalizing first with
  | nil =>
    rw [List.map_nil, oneOf, matchAt_lit]
    by_cases starts : first.toList.isPrefixOf cursor.rest = true
    · obtain ⟨rest, split⟩ := List.isPrefixOf_iff_prefix.mp starts
      have more := longer first (by simp) rest split.symm
      rw [if_pos starts, ← split, List.drop_left]
      simp [gap_of_tight tight, matchAt_wordEnd, more]
    · rw [if_neg starts, Outcome.andThen_refused]
  | cons next others ih =>
    rw [List.map_cons, oneOf, Expr.matchAt, matchAt_lit]
    by_cases starts : first.toList.isPrefixOf cursor.rest = true
    · obtain ⟨rest, split⟩ := List.isPrefixOf_iff_prefix.mp starts
      have more := longer first (by simp) rest split.symm
      rw [if_pos starts, ← split, List.drop_left]
      simp [gap_of_tight tight, matchAt_wordEnd, more]
    · rw [if_neg starts]
      exact ih next fun word member => longer word (List.mem_cons_of_mem _ member)

/-- A reserved word matches where the leading word is reserved. -/
theorem matchAt_reservedWord (size : Nat) (cursor : Cursor) :
    reservedWord.matchAt grammar size call mode cursor =
      if leadingWord cursor.rest ∈ reservedWords.map String.toList then
        .matched ([], ⟨cursor.offset + (leadingWord cursor.rest).length, afterWord cursor.rest⟩)
      else .refused := by
  by_cases reserved : leadingWord cursor.rest ∈ reservedWords.map String.toList
  · rw [if_pos reserved]
    have ended : leadingWord (afterWord cursor.rest) = [] :=
      takeWhile_nil_of_stops (stops_dropWhile isIdentifierPart cursor.rest)
    have split := leadingWord_append_afterWord cursor.rest
    obtain ⟨offset, text⟩ := cursor
    dsimp only at reserved ended split ⊢
    simp only [reservedWords, List.map_cons, List.map_nil, List.mem_cons, List.not_mem_nil,
      or_false] at reserved
    generalize afterWord text = rest at ended split ⊢
    rcases reserved with same | same | same | same | same | same | same | same <;>
    · rw [same] at split ⊢
      subst split
      simp [reservedWord, oneOf, Expr.matchAt, matchAt_lit, gap_of_tight tight, matchAt_wordEnd,
        ended]
  · rw [if_neg reserved]
    refine matchAt_words_refused tight size "local"
      ["return", "nil", "true", "false", "and", "or", "not"] cursor fun word member rest split => ?_
    intro ended
    refine reserved (List.mem_map.mpr ⟨word, member, ?_⟩)
    have parts := isIdentifierPart_of_reserved word member
    exact ((leadingWord_eq_iff parts _).mpr ⟨rest, split, ended⟩).symm

end Tight

/-! ## Names -/

/-- A name is matched where the leading word is one, as a whole. -/
theorem matching_name (size : Nat) {mode : Mode} (shown : mode ≠ .hidden) {cursor : Cursor}
    (within : cursor.Within size) :
    matching size .name mode cursor =
      if isNameText (leadingWord cursor.rest) = true then
        .matched ([.node .name cursor (leadingWord cursor.rest).length []],
          ⟨cursor.offset + (leadingWord cursor.rest).length, afterWord cursor.rest⟩)
      else .refused := by
  have tight : Mode.hidden ≠ .spaced := by decide
  rw [matching, chunkOrder.settled_eq]
  show Definition.ruleOutcome _ _ _ ((Expr.sequence (.absent reservedWord)
    [.one isIdentifierStart, .many (.one isIdentifierPart)]).matchAt _ _ _ .hidden cursor) = _
  obtain ⟨offset, text⟩ := cursor
  rw [Expr.sequence, Expr.sequence, Expr.sequence, Expr.matchAt, Expr.matchAt, matchAt_reservedWord tight]
  dsimp only
  by_cases reserved : leadingWord text ∈ reservedWords.map String.toList
  · rw [if_pos reserved, isNameText_of_reserved reserved]
    rfl
  · rw [if_neg reserved]
    dsimp only
    rw [Outcome.andThen_nil, gap_of_tight tight, Expr.matchAt]
    cases text with
    | nil => rfl
    | cons first rest =>
      rw [isNameText_leadingWord reserved, Expr.matchAt]
      dsimp only
      by_cases start : isIdentifierStart first = true
      · have inside : Cursor.Within size ⟨offset + 1, rest⟩ :=
          (Cursor.Leads.pass offset [first] rest).within within
        have part := isIdentifierPart_of_start start
        rw [if_pos start, if_pos start, Outcome.andThen_nil, gap_of_tight tight,
          matchAt_many_one tight _ inside]
        simp [Definition.ruleOutcome, treeBetween, shown, leadingWord, afterWord, part]
        omega
      · rw [if_neg start, if_neg start, Outcome.andThen_refused]
        rfl

end ScriptHost.Grammar
