import ScriptHost.Proofs.Script.Upcoming
import ScriptHost.Script.Reading

/-!
# Taking tokens

Before a list of tokens, an expression of the grammar takes some of them and leaves trees,
or it declines. The places and the blanks between the tokens do not matter for that, so
what an expression takes follows from what its parts take by one law for each way it can
match.
-/

namespace ScriptHost.Script

open ScriptHost.Grammar Definition.Orderly

/-- Before some tokens and others, an expression takes the former and leaves trees with a
property. -/
def Takes (size : Nat) (expr : Expr Rule) (tokens rest : List Token)
    (property : List ChunkTree → Prop) : Prop :=
  ∀ cursor, Upcoming size cursor (tokens ++ rest) →
    ∃ trees finish, chunkOrder.Parses size .spaced expr cursor trees finish ∧
      Upcoming size (chunkGrammar.skip finish) rest ∧ property trees

/-- Before some tokens, an expression does not match. -/
def Declines (size : Nat) (expr : Expr Rule) (tokens : List Token) : Prop :=
  ∀ cursor, Upcoming size cursor tokens → chunkOrder.Refuses size .spaced expr cursor

variable {size : Nat} {first second inner : Expr Rule} {tokens more rest : List Token}
  {property goal : List ChunkTree → Prop}

/-! ## Rules and texts -/

/-- Trees with a property have every weaker one. -/
theorem Takes.mono (takes : Takes size inner tokens rest property)
    (weakens : ∀ trees, property trees → goal trees) : Takes size inner tokens rest goal := by
  intro cursor upcoming
  obtain ⟨trees, finish, parses, after, known⟩ := takes cursor upcoming
  exact ⟨trees, finish, parses, after, weakens trees known⟩

/-- An expression that matches the characters of a token takes the token. -/
theorem Takes.token {token : Token}
    (parses : ∀ cursor, Upcoming size cursor (token :: rest) →
      ∃ trees, chunkOrder.Parses size .spaced inner cursor trees (cursor.past token.characters) ∧
        property trees) :
    Takes size inner [token] rest property := by
  intro cursor upcoming
  obtain ⟨trees, matched, known⟩ := parses cursor upcoming
  exact ⟨trees, _, matched, upcoming.next, known⟩

/-- A fixed text takes its token. -/
theorem Takes.fixed (text : String) :
    Takes size (.lit text) [.fixed text] rest (· = []) := by
  refine Takes.token fun cursor upcoming => ⟨[], Parses.text ?_, rfl⟩
  rw [upcoming.first.1]
  exact List.prefix_append _ _

/-- A rule takes what its expression does and leaves a tree over it. -/
theorem Takes.rule {rule : Rule} (style : chunkGrammar.style rule = .inherited)
    (body : Takes size rule.body tokens rest fun children =>
      ∀ start finish, property [treeBetween rule start finish children]) :
    Takes size (.rule rule) tokens rest property := by
  intro cursor upcoming
  obtain ⟨children, finish, parses, after, known⟩ := body cursor upcoming
  have spaced : (chunkGrammar.style rule).mode .spaced = .spaced := by
    rw [style]
    rfl
  exact ⟨_, finish, Parses.rule (by decide) (spaced.symm ▸ parses), after, known cursor finish⟩

/-- A rule declines where its expression does. -/
theorem Declines.rule {rule : Rule} (style : chunkGrammar.style rule = .inherited)
    (body : Declines size rule.body tokens) : Declines size (.rule rule) tokens := by
  intro cursor upcoming
  have spaced : (chunkGrammar.style rule).mode .spaced = .spaced := by
    rw [style]
    rfl
  exact Refuses.rule (spaced.symm ▸ body cursor upcoming)

/-! ## Sequences -/

/-- Two parts take tokens one after the other. -/
theorem Takes.seq {before : List ChunkTree → Prop}
    (one : Takes size first tokens (more ++ rest) before)
    (two : ∀ front, before front → Takes size second more rest fun back => property (front ++ back)) :
    Takes size (.seq first second) (tokens ++ more) rest property := by
  intro cursor upcoming
  rw [List.append_assoc] at upcoming
  obtain ⟨front, place, firstParses, between, known⟩ := one cursor upcoming
  obtain ⟨back, finish, secondParses, after, whole⟩ := two front known _ between
  exact ⟨front ++ back, finish, Parses.seq firstParses secondParses, after, whole⟩

/-- A first part that takes one token is in front of the others. -/
theorem Takes.seq_token {token : Token} {before : List ChunkTree → Prop}
    (one : Takes size first [token] (more ++ rest) before)
    (two : ∀ front, before front → Takes size second more rest fun back => property (front ++ back)) :
    Takes size (.seq first second) (token :: more) rest property := Takes.seq one two

/-- A fixed text in front takes its token. -/
theorem Takes.mark {text : String} (two : Takes size second more rest property) :
    Takes size (.seq (.lit text) second) (.fixed text :: more) rest property := by
  refine Takes.seq_token (Takes.fixed text) fun front none => ?_
  rw [none]
  exact two

/-- A fixed text at the end takes its token. -/
theorem Takes.closed {text : String} (one : Takes size first tokens (.fixed text :: rest) property) :
    Takes size (.seq first (.lit text)) (tokens ++ [.fixed text]) rest property := by
  refine Takes.seq one fun front known => (Takes.fixed text).mono fun back none => ?_
  rw [none, List.append_nil]
  exact known

/-- A first part can take nothing. -/
theorem Takes.behind_nothing (one : Takes size first [] (tokens ++ rest) (· = []))
    (two : Takes size second tokens rest property) :
    Takes size (.seq first second) tokens rest property := by
  rw [← List.nil_append tokens]
  refine Takes.seq one fun front none => ?_
  rw [none]
  exact two

/-- A second part can take nothing. -/
theorem Takes.before_nothing {before : List ChunkTree → Prop}
    (one : Takes size first tokens rest before)
    (two : ∀ front, before front → Takes size second [] rest fun back => property (front ++ back)) :
    Takes size (.seq first second) tokens rest property := by
  rw [← List.append_nil tokens]
  exact Takes.seq one two

/-- Parts that are grouped from the left take what they do when grouped from the right. -/
theorem Takes.regroup {third : Expr Rule}
    (takes : Takes size (.seq (.seq first second) third) tokens rest property) :
    Takes size (.seq first (.seq second third)) tokens rest property := by
  intro cursor upcoming
  obtain ⟨trees, finish, parses, known⟩ := takes cursor upcoming
  obtain ⟨_, place, back, pair, one, rfl⟩ := Outcome.andThen_eq_matched.mp parses
  obtain ⟨front, middle, between, start, two, rfl⟩ := Outcome.andThen_eq_matched.mp pair
  refine ⟨_, finish, ?_, known⟩
  rw [List.append_assoc]
  exact Parses.seq start (Parses.seq two one)

/-- A sequence declines where its first part does. -/
theorem Declines.seq_first (one : Declines size first tokens) :
    Declines size (.seq first second) tokens :=
  fun cursor upcoming => Refuses.seq_first (one cursor upcoming)

/-- A sequence declines where its second part does, behind what the first one takes. -/
theorem Declines.seq_second (one : Takes size first tokens rest property)
    (two : Declines size second rest) : Declines size (.seq first second) (tokens ++ rest) := by
  intro cursor upcoming
  obtain ⟨front, place, parses, between, -⟩ := one cursor upcoming
  exact Refuses.seq_second parses (two _ between)

/-! ## Choices and parts that can be left out -/

/-- The first alternative takes tokens. -/
theorem Takes.choice_first (one : Takes size first tokens rest property) :
    Takes size (.choice first second) tokens rest property := by
  intro cursor upcoming
  obtain ⟨trees, finish, parses, known⟩ := one cursor upcoming
  exact ⟨trees, finish, Parses.choice_first parses, known⟩

/-- The second alternative takes tokens where the first one declines. -/
theorem Takes.choice_second (one : Declines size first (tokens ++ rest))
    (two : Takes size second tokens rest property) :
    Takes size (.choice first second) tokens rest property := by
  intro cursor upcoming
  obtain ⟨trees, finish, parses, known⟩ := two cursor upcoming
  exact ⟨trees, finish, Parses.choice_second (one cursor upcoming) parses, known⟩

/-- A choice declines where both alternatives do. -/
theorem Declines.choice (one : Declines size first tokens) (two : Declines size second tokens) :
    Declines size (.choice first second) tokens :=
  fun cursor upcoming => Refuses.choice (one cursor upcoming) (two cursor upcoming)

/-- An optional part takes tokens. -/
theorem Takes.optional (one : Takes size inner tokens rest property) :
    Takes size (.optional inner) tokens rest property := by
  intro cursor upcoming
  obtain ⟨trees, finish, parses, known⟩ := one cursor upcoming
  exact ⟨trees, finish, Parses.optional parses, known⟩

/-- An optional part takes nothing where it declines. -/
theorem Takes.optional_none (one : Declines size inner rest) (known : property []) :
    Takes size (.optional inner) [] rest property := by
  intro cursor upcoming
  refine ⟨[], cursor, Parses.optional_none (one cursor upcoming), ?_, known⟩
  rw [upcoming.close]
  exact upcoming

/-- What must be absent takes nothing where it declines. -/
theorem Takes.absent (one : Declines size inner rest) :
    Takes size (.absent inner) [] rest (· = []) := by
  intro cursor upcoming
  refine ⟨[], cursor, Parses.absent (one cursor upcoming), ?_, rfl⟩
  rw [upcoming.close]
  exact upcoming

/-- A part behind what must be absent takes tokens. -/
theorem Takes.glance (one : Declines size inner (tokens ++ rest))
    (two : Takes size second tokens rest property) :
    Takes size (.seq (.absent inner) second) tokens rest property :=
  Takes.behind_nothing (Takes.absent one) two

/-- A part and an optional one take what the former does, where the latter declines. -/
theorem Takes.unextended (one : Takes size first tokens rest property)
    (two : Declines size second rest) :
    Takes size (.seq first (.optional second)) tokens rest property := by
  refine Takes.before_nothing one fun front known => Takes.optional_none two ?_
  rwa [List.append_nil]

/-- A part behind what must be absent declines. -/
theorem Declines.glance (one : Declines size inner tokens) (two : Declines size second tokens) :
    Declines size (.seq (.absent inner) second) tokens :=
  Declines.seq_second (Takes.absent one) two

/-- What must be absent declines where it takes something. -/
theorem Declines.absent (one : Takes size inner tokens rest property) :
    Declines size (.absent inner) (tokens ++ rest) := by
  intro cursor upcoming
  obtain ⟨trees, finish, parses, -⟩ := one cursor upcoming
  exact Refuses.absent parses

/-! ## Repetitions -/

/-- Behind a place where some tokens and others come next, turns of a repetition take the former
and leave trees with a property. -/
def Runs (size : Nat) (inner : Expr Rule) (tokens rest : List Token)
    (property : List ChunkTree → Prop) : Prop :=
  ∀ cursor, Upcoming size (chunkGrammar.skip cursor) (tokens ++ rest) →
    ∃ trees finish, Turns (chunkOrder.nextTurn size .spaced inner) cursor trees finish ∧
      Upcoming size (chunkGrammar.skip finish) rest ∧ property trees

/-- Trees with a property have every weaker one. -/
theorem Runs.mono (runs : Runs size inner tokens rest property)
    (weakens : ∀ trees, property trees → goal trees) : Runs size inner tokens rest goal := by
  intro cursor upcoming
  obtain ⟨trees, finish, turns, after, known⟩ := runs cursor upcoming
  exact ⟨trees, finish, turns, after, weakens trees known⟩

/-- No turns take nothing. -/
theorem Runs.none (known : property []) : Runs size inner [] rest property :=
  fun cursor upcoming => ⟨[], cursor, .none cursor, upcoming, known⟩

/-- A turn in front of others takes tokens in front of theirs. -/
theorem Runs.turn {before : List ChunkTree → Prop}
    (one : Takes size inner tokens (more ++ rest) before)
    (others : ∀ front, before front →
      Runs size inner more rest fun back => property (front ++ back)) :
    Runs size inner (tokens ++ more) rest property := by
  intro cursor upcoming
  rw [List.append_assoc] at upcoming
  obtain ⟨front, place, parses, between, known⟩ := one _ upcoming
  obtain ⟨back, finish, turns, after, whole⟩ := others front known place between
  exact ⟨front ++ back, finish, Parses.turn parses turns, after, whole⟩

/-- A repetition takes what its turns do, up to where one declines. -/
theorem Takes.many (consuming : inner.consumes chunkOrder.solid = true)
    (runs : Runs size inner tokens rest property) (stopped : Declines size inner rest) :
    Takes size (.many inner) tokens rest property := by
  intro cursor upcoming
  have close := upcoming.close
  obtain ⟨trees, finish, turns, after, known⟩ := runs cursor (close.symm ▸ upcoming)
  exact ⟨trees, finish, Parses.many consuming upcoming.within close turns (stopped _ after), after,
    known⟩

/-- Before some tokens and others, an expression and then turns of a repetition take the former and
leave trees with a property. -/
def Begins (size : Nat) (head inner : Expr Rule) (tokens rest : List Token)
    (property : List ChunkTree → Prop) : Prop :=
  ∀ cursor, Upcoming size cursor (tokens ++ rest) →
    ∃ front place back finish, chunkOrder.Parses size .spaced head cursor front place ∧
      Turns (chunkOrder.nextTurn size .spaced inner) (chunkGrammar.skip place) back finish ∧
      Upcoming size (chunkGrammar.skip finish) rest ∧ property (front ++ back)

variable {head : Expr Rule}

/-- An expression begins with no turns. -/
theorem Begins.start (one : Takes size head tokens rest property) :
    Begins size head inner tokens rest property := by
  intro cursor upcoming
  obtain ⟨front, place, parses, between, known⟩ := one cursor upcoming
  refine ⟨front, place, [], _, parses, .none _, ?_, ?_⟩
  · rw [skip_skip]
    exact between
  · rw [List.append_nil]
    exact known

/-- A last turn takes tokens behind those of the others. -/
theorem Begins.last {before : List ChunkTree → Prop}
    (begun : Begins size head inner tokens (more ++ rest) before)
    (one : ∀ front, before front →
      Takes size inner more rest fun back => property (front ++ back)) :
    Begins size head inner (tokens ++ more) rest property := by
  intro cursor upcoming
  rw [List.append_assoc] at upcoming
  obtain ⟨front, place, back, middle, parses, turns, between, known⟩ := begun cursor upcoming
  obtain ⟨tail, finish, matched, after, whole⟩ := one _ known _ between
  refine ⟨front, place, back ++ tail, finish, parses, Parses.lastTurn turns matched, after, ?_⟩
  rw [← List.append_assoc]
  exact whole

/-- An expression and then a repetition take what was begun, up to where a turn declines. -/
theorem Begins.stop (consuming : inner.consumes chunkOrder.solid = true)
    (begun : Begins size head inner tokens rest property) (stopped : Declines size inner rest) :
    Takes size (.seq head (.many inner)) tokens rest property := by
  intro cursor upcoming
  obtain ⟨front, place, back, finish, parses, turns, after, known⟩ := begun cursor upcoming
  have within := (chunkOrder.skips place).within (parses.leads.within upcoming.within)
  have close : chunkGrammar.gap .spaced (chunkGrammar.skip place) = chunkGrammar.skip place :=
    skip_skip place
  have repeated := Parses.many consuming within close turns (stopped _ after)
  exact ⟨front ++ back, finish, Parses.seq parses repeated, after, known⟩

end ScriptHost.Script
