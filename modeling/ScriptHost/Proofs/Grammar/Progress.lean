import ScriptHost.Grammar.Matching

/-!
# Progress of matching

Matching an expression never moves back, and what lies behind a match is the end of what
lay before it. An expression that consumes passes over at least one character, and so a
repetition of it takes no more turns than there are characters left. Which expressions
consume is read off the grammar, given which rules do.
-/

namespace ScriptHost.Grammar

variable {Rule : Type}

/-! ## Places in a source -/

/-- A place is not before another one of the same source. -/
structure Cursor.Leads (start finish : Cursor) : Prop where
  suffix : finish.rest <:+ start.rest
  total : finish.offset + finish.rest.length = start.offset + start.rest.length

namespace Cursor.Leads

theorem refl (cursor : Cursor) : cursor.Leads cursor := ⟨List.suffix_refl _, rfl⟩

theorem trans {start middle finish : Cursor} (first : start.Leads middle)
    (second : middle.Leads finish) : start.Leads finish :=
  ⟨second.suffix.trans first.suffix, second.total.trans first.total⟩

/-- There is no more to come at a later place. -/
theorem length_le {start finish : Cursor} (leads : start.Leads finish) :
    finish.rest.length ≤ start.rest.length := leads.suffix.length_le

/-- Passing over characters leads on. -/
theorem pass (offset : Nat) (passed rest : List Char) :
    Cursor.Leads ⟨offset, passed ++ rest⟩ ⟨offset + passed.length, rest⟩ := by
  refine ⟨List.suffix_append _ _, ?_⟩
  simp only [List.length_append]
  omega

end Cursor.Leads

/-- The gap that a mode allows leads on where blanks do. -/
theorem Definition.leads_gap {grammar : Definition Rule}
    (skips : ∀ cursor : Cursor, cursor.Leads (grammar.skip cursor)) (mode : Mode)
    (cursor : Cursor) : cursor.Leads (grammar.gap mode cursor) := by
  unfold Definition.gap
  split
  · exact skips cursor
  · exact .refl cursor

/-! ## Outcomes in a row -/

/-- After a step that leaves no trees the outcome is that of the next one. -/
@[simp]
theorem Outcome.andThen_nil (place : Cursor) (next : Cursor → Match Rule) :
    Outcome.andThen (.matched ([], place)) next = next place := by
  cases given : next place with
  | matched result =>
    obtain ⟨trees, finish⟩ := result
    simp only [andThen, given, List.nil_append]
  | refused => simp only [andThen, given]
  | exhausted => simp only [andThen, given]

/-- After a step that matches, one that is refused refuses both. -/
theorem Outcome.andThen_of_refused {place : Cursor} {next : Cursor → Match Rule}
    (trees : List (ParseTree Rule)) (second : next place = .refused) :
    Outcome.andThen (.matched (trees, place)) next = .refused := by
  simp only [andThen, second]

/-- No step follows one that is refused. -/
@[simp]
theorem Outcome.andThen_refused (next : Cursor → Match Rule) :
    Outcome.andThen .refused next = .refused := rfl

/-- Two steps match where each of them does. -/
theorem Outcome.andThen_eq_matched {outcome : Match Rule} {next : Cursor → Match Rule}
    {trees : List (ParseTree Rule)} {finish : Cursor} :
    outcome.andThen next = .matched (trees, finish) ↔
      ∃ before place after, outcome = .matched (before, place) ∧
        next place = .matched (after, finish) ∧ trees = before ++ after := by
  cases outcome with
  | refused => simp [andThen]
  | exhausted => simp [andThen]
  | matched result =>
    obtain ⟨before, place⟩ := result
    cases given : next place with
    | matched result =>
      obtain ⟨after, last⟩ := result
      simp only [andThen, given]
      constructor
      · intro same
        obtain ⟨rfl, rfl⟩ := Prod.mk.inj (matched.inj same)
        exact ⟨before, place, after, rfl, given, rfl⟩
      · rintro ⟨_, _, _, same, following, rfl⟩
        obtain ⟨rfl, rfl⟩ := Prod.mk.inj (matched.inj same)
        obtain ⟨rfl, rfl⟩ := Prod.mk.inj (matched.inj (given.symm.trans following))
        rfl
    | refused => simp_all [andThen]
    | exhausted => simp_all [andThen]

/-- Two steps run out of depth where the first one does, or the second one after it. -/
theorem Outcome.andThen_ne_exhausted {outcome : Match Rule} {next : Cursor → Match Rule}
    (first : outcome ≠ .exhausted)
    (second : ∀ trees place, outcome = .matched (trees, place) → next place ≠ .exhausted) :
    outcome.andThen next ≠ .exhausted := by
  cases outcome with
  | refused => simp [andThen]
  | exhausted => exact absurd rfl first
  | matched result =>
    obtain ⟨before, place⟩ := result
    cases given : next place with
    | exhausted => exact absurd given (second before place rfl)
    | refused => simp [andThen, given]
    | matched => simp [andThen, given]

/-! ## Turns of a repetition -/

/-- Turns of a step from one place to another, with the trees they leave. -/
inductive Turns (step : Cursor → Match Rule) : Cursor → List (ParseTree Rule) → Cursor → Prop where
  | none (cursor : Cursor) : Turns step cursor [] cursor
  | turn {start place finish : Cursor} {trees more : List (ParseTree Rule)}
    (first : step start = .matched (trees, place)) (rest : Turns step place more finish) :
    Turns step start (trees ++ more) finish

namespace Turns

variable {step : Cursor → Match Rule} {start finish : Cursor} {trees : List (ParseTree Rule)}

/-- One more turn at the end. -/
theorem snoc {place : Cursor} {more : List (ParseTree Rule)} (turns : Turns step start trees place)
    (last : step place = .matched (more, finish)) : Turns step start (trees ++ more) finish := by
  induction turns with
  | none cursor => simpa using Turns.turn last (.none finish)
  | turn first _ ih => simpa using Turns.turn first (ih last)

end Turns

/-- What a repetition gives it gives by turns. -/
theorem turns_of_repeated {step : Cursor → Match Rule} {turns : Nat} {start finish : Cursor}
    {trees : List (ParseTree Rule)}
    (given : repeated step turns start = .matched (trees, finish)) :
    Turns step start trees finish := by
  induction turns generalizing start trees with
  | zero =>
    obtain ⟨rfl, rfl⟩ := Prod.mk.inj (Outcome.matched.inj given)
    exact .none _
  | succ turns ih =>
    unfold repeated at given
    cases first : step start with
    | matched result =>
      obtain ⟨before, place⟩ := result
      rw [first] at given
      obtain ⟨_, _, after, same, rest, rfl⟩ := Outcome.andThen_eq_matched.mp given
      obtain ⟨rfl, rfl⟩ := Prod.mk.inj (Outcome.matched.inj same)
      exact .turn first (ih rest)
    | refused =>
      rw [first] at given
      obtain ⟨rfl, rfl⟩ := Prod.mk.inj (Outcome.matched.inj given)
      exact .none _
    | exhausted =>
      rw [first] at given
      contradiction

section Consuming

variable {step : Cursor → Match Rule}
  (consumes : ∀ cursor trees place, step cursor = .matched (trees, place) →
    place.rest.length < cursor.rest.length)
include consumes

/-- A repetition that may take a turn for each character takes all the turns there are. -/
theorem repeated_of_turns {turns : Nat} {start finish : Cursor} {trees : List (ParseTree Rule)}
    (taken : Turns step start trees finish) (stopped : step finish = .refused)
    (enough : start.rest.length ≤ turns) : repeated step turns start = .matched (trees, finish) := by
  induction taken generalizing turns with
  | none cursor =>
    cases turns with
    | zero => rfl
    | succ turns => rw [repeated, stopped]
  | turn first _ ih =>
    have shorter := consumes _ _ _ first
    obtain ⟨turns, rfl⟩ : ∃ fewer, turns = fewer + 1 := ⟨turns - 1, by omega⟩
    rw [repeated, first]
    exact Outcome.andThen_eq_matched.mpr ⟨_, _, _, rfl, ih stopped (by omega), rfl⟩

end Consuming

/-- A repetition runs out of depth only where one of its turns does. -/
theorem repeated_ne_exhausted {step : Cursor → Match Rule} (turns : Nat) (start : Cursor)
    (steps : ∀ cursor, start.Leads cursor → step cursor ≠ .exhausted)
    (leads : ∀ cursor trees place, step cursor = .matched (trees, place) → cursor.Leads place) :
    repeated step turns start ≠ .exhausted := by
  induction turns generalizing start with
  | zero => simp [repeated]
  | succ turns ih =>
    unfold repeated
    cases first : step start with
    | matched result =>
      obtain ⟨before, place⟩ := result
      refine Outcome.andThen_ne_exhausted (by simp) fun _ _ same => ?_
      obtain ⟨rfl, rfl⟩ := Prod.mk.inj (Outcome.matched.inj same)
      have led := leads _ _ _ first
      exact ih place fun cursor further => steps cursor (led.trans further)
    | refused => simp
    | exhausted => exact absurd first (steps start (.refl start))

/-! ## Expressions that consume -/

namespace Expr

/-- Whether a match passes over at least one character, given which rules do. -/
def consumes (solid : Rule → Bool) : Expr Rule → Bool
  | one _ => true
  | text characters => !characters.isEmpty
  | rule name => solid name
  | seq first second => first.consumes solid || second.consumes solid
  | choice first second => first.consumes solid && second.consumes solid
  | optional _ | many _ | absent _ | ending => false

/-- Whether every part that is repeated consumes. -/
def turnsConsume (solid : Rule → Bool) : Expr Rule → Bool
  | seq first second | choice first second => first.turnsConsume solid && second.turnsConsume solid
  | optional inner | absent inner => inner.turnsConsume solid
  | many inner => inner.turnsConsume solid && inner.consumes solid
  | _ => true

/-- Whether every rule that can be tried before a character is passed over is one of some. -/
def opensWithin (solid allowed : Rule → Bool) : Expr Rule → Bool
  | rule name => allowed name
  | seq first second =>
    first.opensWithin solid allowed && (first.consumes solid || second.opensWithin solid allowed)
  | choice first second => first.opensWithin solid allowed && second.opensWithin solid allowed
  | optional inner | absent inner | many inner => inner.opensWithin solid allowed
  | _ => true

end Expr

/-! ## How a match comes about -/

namespace Expr

/-- A match of an expression, from matches of its parts. -/
inductive Matches (grammar : Definition Rule) (call : Rule → Mode → Cursor → Match Rule)
    (mode : Mode) : Expr Rule → Cursor → List (ParseTree Rule) → Cursor → Prop
  | one {accepts : Char → Bool} {character : Char} {offset : Nat} {rest : List Char}
    (accepted : accepts character = true) :
    Matches grammar call mode (one accepts) ⟨offset, character :: rest⟩ [] ⟨offset + 1, rest⟩
  | text {characters : List Char} {offset : Nat} {rest : List Char} :
    Matches grammar call mode (text characters) ⟨offset, characters ++ rest⟩ []
      ⟨offset + characters.length, rest⟩
  | rule {name : Rule} {start finish : Cursor} {trees : List (ParseTree Rule)}
    (given : call name mode start = .matched (trees, finish)) :
    Matches grammar call mode (rule name) start trees finish
  | seq {first second : Expr Rule} {start place finish : Cursor}
    {before after : List (ParseTree Rule)} (front : Matches grammar call mode first start before place)
    (back : Matches grammar call mode second (grammar.gap mode place) after finish) :
    Matches grammar call mode (seq first second) start (before ++ after) finish
  | choiceFirst {first second : Expr Rule} {start finish : Cursor} {trees : List (ParseTree Rule)}
    (taken : Matches grammar call mode first start trees finish) :
    Matches grammar call mode (choice first second) start trees finish
  | choiceSecond {first second : Expr Rule} {start finish : Cursor} {trees : List (ParseTree Rule)}
    (taken : Matches grammar call mode second start trees finish) :
    Matches grammar call mode (choice first second) start trees finish
  | optional {inner : Expr Rule} {start finish : Cursor} {trees : List (ParseTree Rule)}
    (taken : Matches grammar call mode inner start trees finish) :
    Matches grammar call mode (optional inner) start trees finish
  | optionalNone {inner : Expr Rule} {start : Cursor} :
    Matches grammar call mode (optional inner) start [] start
  | manyNone {inner : Expr Rule} {start : Cursor} :
    Matches grammar call mode (many inner) start [] start
  | manyOnce {inner : Expr Rule} {start finish : Cursor} {trees : List (ParseTree Rule)}
    (taken : Matches grammar call mode inner start trees finish) :
    Matches grammar call mode (many inner) start trees finish
  | manyMore {inner : Expr Rule} {start place finish : Cursor} {before after : List (ParseTree Rule)}
    (front : Matches grammar call mode (many inner) start before place)
    (back : Matches grammar call mode inner (grammar.gap mode place) after finish) :
    Matches grammar call mode (many inner) start (before ++ after) finish
  | absent {inner : Expr Rule} {start : Cursor} :
    Matches grammar call mode (absent inner) start [] start
  | ending {start : Cursor} : Matches grammar call mode ending start [] start

variable {grammar : Definition Rule} {size : Nat} {call : Rule → Mode → Cursor → Match Rule}
  {mode : Mode}

/-- Further turns of a repetition, behind those taken. -/
theorem Matches.turns {inner : Expr Rule} {start place finish : Cursor}
    {before after : List (ParseTree Rule)}
    (parts : ∀ {start finish trees},
      inner.matchAt grammar size call mode start = .matched (trees, finish) →
        inner.Matches grammar call mode start trees finish)
    (taken : (many inner).Matches grammar call mode start before place)
    (further : Turns (fun next => inner.matchAt grammar size call mode (grammar.gap mode next))
      place after finish) :
    (many inner).Matches grammar call mode start (before ++ after) finish := by
  induction further generalizing before with
  | none => rwa [List.append_nil]
  | turn first _ ih =>
    rw [← List.append_assoc]
    exact ih (.manyMore taken (parts first))

/-- Every match comes about from matches of the parts. -/
theorem matches_of_matchAt (expr : Expr Rule) {start finish : Cursor}
    {trees : List (ParseTree Rule)}
    (given : expr.matchAt grammar size call mode start = .matched (trees, finish)) :
    expr.Matches grammar call mode start trees finish := by
  induction expr generalizing start finish trees with
  | one accepts =>
    obtain ⟨offset, rest⟩ := start
    cases rest with
    | nil => simp [matchAt] at given
    | cons character rest =>
      simp only [matchAt] at given
      split at given
      · next accepted =>
        obtain ⟨rfl, rfl⟩ := Prod.mk.inj (Outcome.matched.inj given)
        exact .one accepted
      · contradiction
  | text characters =>
    simp only [matchAt] at given
    split at given
    · next starts =>
      obtain ⟨rfl, rfl⟩ := Prod.mk.inj (Outcome.matched.inj given)
      obtain ⟨rest, whole⟩ := List.isPrefixOf_iff_prefix.mp starts
      obtain ⟨offset, _⟩ := start
      subst whole
      rw [List.drop_left]
      exact .text
    · contradiction
  | rule name => exact .rule given
  | seq first second firstParts secondParts =>
    obtain ⟨_, _, _, before, after, rfl⟩ := Outcome.andThen_eq_matched.mp given
    exact .seq (firstParts before) (secondParts after)
  | choice first second firstParts secondParts =>
    simp only [matchAt] at given
    split at given
    · exact .choiceSecond (secondParts given)
    · exact .choiceFirst (firstParts given)
  | optional inner parts =>
    simp only [matchAt] at given
    split at given
    · obtain ⟨rfl, rfl⟩ := Prod.mk.inj (Outcome.matched.inj given)
      exact .optionalNone
    · exact .optional (parts given)
  | many inner parts =>
    simp only [matchAt] at given
    split at given
    · next before place first =>
      obtain ⟨_, _, after, same, rest, rfl⟩ := Outcome.andThen_eq_matched.mp given
      obtain ⟨rfl, rfl⟩ := Prod.mk.inj (Outcome.matched.inj same)
      exact .turns parts (.manyOnce (parts first)) (turns_of_repeated rest)
    · obtain ⟨rfl, rfl⟩ := Prod.mk.inj (Outcome.matched.inj given)
      exact .manyNone
    · contradiction
  | absent inner =>
    simp only [matchAt] at given
    split at given
    · contradiction
    · obtain ⟨rfl, rfl⟩ := Prod.mk.inj (Outcome.matched.inj given)
      exact .absent
    · contradiction
  | ending =>
    simp only [matchAt] at given
    split at given
    · obtain ⟨rfl, rfl⟩ := Prod.mk.inj (Outcome.matched.inj given)
      exact .ending
    · contradiction

end Expr

/-! ## Moving forward -/

/-- A way to match rules that moves forward, and past a character where a rule is solid. -/
structure Advancing (solid : Rule → Bool) (call : Rule → Mode → Cursor → Match Rule) : Prop where
  leads : ∀ {rule mode cursor trees place}, call rule mode cursor = .matched (trees, place) →
    cursor.Leads place
  shorter : ∀ {rule mode cursor trees place}, solid rule = true →
    call rule mode cursor = .matched (trees, place) → place.rest.length < cursor.rest.length

section Advancing

variable {grammar : Definition Rule} {solid : Rule → Bool}
  {call : Rule → Mode → Cursor → Match Rule}
  (skips : ∀ cursor : Cursor, cursor.Leads (grammar.skip cursor)) (advancing : Advancing solid call)
  {size : Nat} {mode : Mode} {expr : Expr Rule} {start finish : Cursor}
  {trees : List (ParseTree Rule)}
include skips advancing

/-- A match moves forward. -/
theorem Expr.Matches.leads (found : expr.Matches grammar call mode start trees finish) :
    start.Leads finish := by
  induction found with
  | one => exact Cursor.Leads.pass _ [_] _
  | text => exact Cursor.Leads.pass _ _ _
  | rule given => exact advancing.leads given
  | @seq _ _ _ place _ _ _ _ _ front back | @manyMore _ _ place _ _ _ _ _ front back =>
    exact (front.trans (grammar.leads_gap skips mode place)).trans back
  | choiceFirst _ taken | choiceSecond _ taken | optional _ taken | manyOnce _ taken => exact taken
  | optionalNone | manyNone | absent | ending => exact .refl _

/-- A match of an expression that consumes passes over a character. -/
theorem Expr.Matches.shorter (consuming : expr.consumes solid = true)
    (found : expr.Matches grammar call mode start trees finish) :
    finish.rest.length < start.rest.length := by
  induction found with
  | one => exact Nat.lt_succ_self _
  | @text characters _ rest =>
    have positive : characters.length ≠ 0 := by
      simpa [consumes, List.isEmpty_iff] using consuming
    show rest.length < (characters ++ rest).length
    rw [List.length_append]
    omega
  | rule given => exact advancing.shorter consuming given
  | @seq _ _ _ place _ _ _ front back less less' =>
    have one := (front.leads skips advancing).length_le
    have gap := (grammar.leads_gap skips mode place).length_le
    have two := (back.leads skips advancing).length_le
    rcases (Bool.or_eq_true _ _).mp consuming with eager | eager
    · have := less eager
      omega
    · have := less' eager
      omega
  | choiceFirst _ less => exact less ((Bool.and_eq_true _ _).mp consuming).1
  | choiceSecond _ less => exact less ((Bool.and_eq_true _ _).mp consuming).2
  | optional | optionalNone | manyNone | manyOnce | manyMore | absent | ending => contradiction

/-- Matching an expression moves forward. -/
theorem Expr.matchAt_leads (expr : Expr Rule)
    (given : expr.matchAt grammar size call mode start = .matched (trees, finish)) :
    start.Leads finish := (expr.matches_of_matchAt given).leads skips advancing

/-- Matching an expression that consumes passes over a character. -/
theorem Expr.matchAt_consumes (expr : Expr Rule) (consuming : expr.consumes solid = true)
    (given : expr.matchAt grammar size call mode start = .matched (trees, finish)) :
    finish.rest.length < start.rest.length :=
  (expr.matches_of_matchAt given).shorter skips advancing consuming

end Advancing

end ScriptHost.Grammar
