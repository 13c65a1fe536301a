import ScriptHost.Proofs.Identity.Worlds

/-!
# Actions that match

Actions match if from matching worlds they lead to matching worlds, under a pairing that may
have grown, with related results or the same interruption. Matching actions compose, and the
steps that actions are made of match when what they are given does.
-/

namespace ScriptHost.Action

open ScriptHost.World

variable {First Second Third Fourth : Type} {pairing small large : Pairing}
  {related : Pairing → First → Second → Prop} {others : Pairing → Third → Fourth → Prop}

/-- Runs that end in matching worlds under a larger pairing, with related results or interrupted for
the same reason. -/
inductive RunMatches (related : Pairing → First → Second → Prop) (pairing : Pairing) :
    EStateM.Result Interrupt World First → EStateM.Result Interrupt World Second → Prop where
  | ok {large : Pairing} (grows : pairing ≤ large) {left right : World}
    (worlds : World.Matches large left right) {first : First} {second : Second}
    (results : related large first second) :
    RunMatches related pairing (.ok first left) (.ok second right)
  | error {large : Pairing} (grows : pairing ≤ large) {left right : World}
    (worlds : World.Matches large left right) (interrupt : Interrupt) :
    RunMatches related pairing (.error interrupt left) (.error interrupt right)

/-- Actions whose runs from matching worlds match. -/
def Matches (related : Pairing → First → Second → Prop) (pairing : Pairing)
    (action : Action First) (other : Action Second) : Prop :=
  ∀ large, pairing ≤ large → ∀ left right, World.Matches large left right →
    RunMatches related large (action left) (other right)

/-- Actions that match under a pairing match under a larger one. -/
theorem Matches.mono {action : Action First} {other : Action Second}
    (matched : Matches related small action other) (grows : small ≤ large) :
    Matches related large action other :=
  fun larger more => matched larger (le_trans grows more)

/-- Runs that match under a larger pairing match under a smaller one, as it grows to that. -/
theorem RunMatches.of_le {first : EStateM.Result Interrupt World First}
    {second : EStateM.Result Interrupt World Second} (run : RunMatches related large first second)
    (grows : small ≤ large) : RunMatches related small first second := by
  cases run with
  | ok more worlds results => exact .ok (le_trans grows more) worlds results
  | error more worlds interrupt => exact .error (le_trans grows more) worlds interrupt

/-- Runs that match go on with steps that match. -/
theorem RunMatches.bind {action : Action First} {other : Action Second} {left right : World}
    (run : RunMatches related pairing (action left) (other right)) {next : First → Action Third}
    {further : Second → Action Fourth}
    (rest : ∀ large, pairing ≤ large → ∀ first second, related large first second →
      Matches others large (next first) (further second)) :
    RunMatches others pairing ((action >>= next) left) ((other >>= further) right) := by
  show RunMatches others pairing (EStateM.bind action next left) (EStateM.bind other further right)
  unfold EStateM.bind
  generalize action left = ended at run ⊢
  generalize other right = otherEnded at run ⊢
  cases run with
  | error more worlds interrupt => exact .error more worlds interrupt
  | @ok larger more left right worlds first second results =>
    have after := rest larger more first second results larger (le_refl _) left right worlds
    exact after.of_le more

/-- Runs that match leave matching worlds. -/
theorem RunMatches.worlds {action : Action First} {other : Action Second} {first second : World}
    (run : RunMatches related pairing (action first) (other second)) :
    ∃ large, pairing ≤ large ∧ World.Matches large (left action first) (left other second) := by
  unfold left
  generalize action first = ended at run ⊢
  generalize other second = otherEnded at run ⊢
  cases run with
  | ok grows worlds _ => exact ⟨_, grows, worlds⟩
  | error grows worlds _ => exact ⟨_, grows, worlds⟩

/-- Runs that match and give results give related ones. -/
theorem RunMatches.results {action : Action First} {other : Action Second} {first second : World}
    (run : RunMatches related pairing (action first) (other second)) {result : First}
    {further : Second} (given : outcome action first = .ok result)
    (there : outcome other second = .ok further) :
    ∃ large, pairing ≤ large ∧ World.Matches large (left action first) (left other second) ∧
      related large result further := by
  unfold left
  unfold outcome at given there
  generalize action first = ended at run given ⊢
  generalize other second = otherEnded at run there ⊢
  cases run with
  | ok grows worlds known =>
    obtain rfl := Except.ok.inj given
    obtain rfl := Except.ok.inj there
    exact ⟨_, grows, worlds, known⟩
  | error grows worlds interrupt => contradiction

/-- Matching steps one after another match. -/
theorem Matches.bind {action : Action First} {other : Action Second}
    (matched : Matches related pairing action other) {next : First → Action Third}
    {further : Second → Action Fourth}
    (rest : ∀ large, pairing ≤ large → ∀ first second, related large first second →
      Matches others large (next first) (further second)) :
    Matches others pairing (action >>= next) (other >>= further) :=
  fun large grows left right worlds =>
    (matched large grows left right worlds).bind fun larger more =>
      rest larger (le_trans grows more)

section Steps

/-- Related results match. -/
theorem matches_pure [Lasting related] {first : First} {second : Second}
    (results : related pairing first second) :
    Matches related pairing (pure first) (pure second) :=
  fun _ grows _ _ worlds => .ok (le_refl _) worlds (Lasting.mono grows results)

/-- Actions match if matching results are made of what they give. -/
theorem Matches.map [Lasting others] {action : Action First} {other : Action Second}
    (matched : Matches related pairing action other) {look : First → Third}
    {otherLook : Second → Fourth}
    (results : ∀ large, pairing ≤ large → ∀ first second, related large first second →
      others large (look first) (otherLook second)) :
    Matches others pairing (do return look (← action)) (do return otherLook (← other)) :=
  matched.bind fun large grows first second known =>
    matches_pure (results large grows first second known)

/-- Giving up for the same reason matches. -/
theorem matches_throw (interrupt : Interrupt) :
    Matches related pairing (throw interrupt) (throw interrupt) :=
  fun _ _ _ _ worlds => .error (le_refl _) worlds interrupt

/-- Faults that name what matching looks show match. -/
theorem Matches.refuses {look otherLook : Action String}
    (seen : Matches Exactly pairing look otherLook) (cause : String → TypeFault) :
    Matches related pairing (look >>= fun name => fault (cause name))
      (otherLook >>= fun name => fault (cause name)) := by
  refine seen.bind fun large _ name _ same => ?_
  subst same
  exact matches_throw _

/-- An action that neither looks at the world nor changes it matches itself. -/
theorem Plain.matches {action : Action First} (plain : Plain action) :
    Matches Exactly pairing action action := by
  intro large grows left right worlds
  rw [eq_outcome_left action left, eq_outcome_left action right, plain.still, plain.still,
    plain.blind right left]
  cases outcome action left with
  | ok result => exact .ok (le_refl _) worlds rfl
  | error interrupt => exact .error (le_refl _) worlds interrupt

/-- Steps match after an action that neither looks at the world nor changes it, if they do for
whatever it gives. -/
theorem Plain.matches_bind {action : Action First} (plain : Plain action)
    {next : First → Action Third} {further : First → Action Fourth}
    (rest : ∀ result, Matches others pairing (next result) (further result)) :
    Matches others pairing (action >>= next) (action >>= further) := by
  refine plain.matches.bind fun large grows result _ same => ?_
  subst same
  exact (rest result).mono grows

/-- Taking the world matches if what follows does for matching worlds. -/
theorem matches_get {next : World → Action First} {further : World → Action Second}
    (rest : ∀ large, pairing ≤ large → ∀ left right, World.Matches large left right →
      Matches related large (next left) (further right)) :
    Matches related pairing (get >>= next) (get >>= further) :=
  fun large grows left right worlds =>
    rest large grows left right worlds large (le_refl _) left right worlds

/-- A look at the world matches if what is seen does. -/
theorem matches_view {look : World → First} {otherLook : World → Second}
    (seen : ∀ large, pairing ≤ large → ∀ left right, World.Matches large left right →
      related large (look left) (otherLook right)) :
    Matches related pairing (view look) (view otherLook) :=
  fun large grows left right worlds =>
    .ok (le_refl _) worlds (seen large grows left right worlds)

/-- Steps match after a look that shows the same in matching worlds, if they do for whatever it
shows. -/
theorem matches_view_same {look : World → First} {next : First → Action Third}
    {further : First → Action Fourth}
    (same : ∀ large left right, World.Matches large left right → look left = look right)
    (rest : ∀ seen, Matches others pairing (next seen) (further seen)) :
    Matches others pairing (view look >>= next) (view look >>= further) := by
  have seen : Matches Exactly pairing (view look) (view look) :=
    matches_view fun large _ left right worlds => same large left right worlds
  refine seen.bind fun large grows shown _ equal => ?_
  subst equal
  exact (rest shown).mono grows

/-- A look at paired objects goes before steps that match for objects of one kind. -/
theorem matches_view_object {id other : ObjectId} (paired : pairing.objects id other)
    {next : HostObject → Action First} {further : HostObject → Action Second}
    (rest : ∀ first second, first.Alike second → Matches related pairing (next first) (further second)) :
    Matches related pairing (view (·.object id) >>= next) (view (·.object other) >>= further) := by
  intro large grows left right worlds
  have alike := worlds.alike (grows.2 _ _ paired)
  exact rest _ _ alike large grows left right worlds

/-- A step that can have a type fault matches. -/
theorem matches_ofFaulty [Lasting related] {first : Except TypeFault First}
    {second : Except TypeFault Second} (matched : ReplyMatches related pairing first second) :
    Matches related pairing (ofFaulty first) (ofFaulty second) := by
  cases matched with
  | ok results => exact matches_pure results
  | error cause => exact matches_throw _

/-- A step that can fail matches. -/
theorem matches_ofOutcome [Lasting related] {first : Except Failure First}
    {second : Except Failure Second} (matched : ReplyMatches related pairing first second) :
    Matches related pairing (ofOutcome first) (ofOutcome second) := by
  cases matched with
  | ok results => exact matches_pure results
  | error cause => exact matches_throw _

/-- Changing the world matches if matching worlds are changed to such. -/
theorem matches_modify {change otherChange : World → World}
    (changes : ∀ large, pairing ≤ large → ∀ left right, World.Matches large left right →
      World.Matches large (change left) (otherChange right)) :
    Matches Exactly pairing (modify change) (modify otherChange) :=
  fun large grows left right worlds => .ok (le_refl _) (changes large grows left right worlds) rfl

/-- Putting matching tables in the same place matches. -/
theorem matches_putTable (id : TableId) {table other : Table}
    (tables : table.Matches pairing other) :
    Matches Exactly pairing (putTable id table) (putTable id other) :=
  matches_modify fun _ grows _ _ worlds => worlds.setTable id (tables.mono grows)

/-- Changing an environment matches if the change does alike to matching ones and leaves what they
have made. -/
theorem matches_changeEnvironment (id : EnvironmentId) {change : Environment → Environment}
    (changes : ∀ large first second, first.Matches large second →
      (change first).Matches large (change second))
    (made : ∀ environment, (change environment).coreMade = environment.coreMade ∧
      (change environment).librariesMade = environment.librariesMade) :
    Matches Exactly pairing (changeEnvironment id change) (changeEnvironment id change) :=
  matches_modify fun large _ _ _ worlds =>
    worlds.setEnvironment id (changes large _ _ (worlds.environment id)) (made _).1 (made _).2
      (made _).1 (made _).2

/-- Making matching tables gives the same table. -/
theorem matches_newTable {table other : Table} (tables : table.Matches pairing other) :
    Matches Exactly pairing (newTable table) (newTable other) := by
  intro large grows left right worlds
  have same : (⟨left.tables.size⟩ : TableId) = ⟨right.tables.size⟩ :=
    congrArg TableId.mk worlds.tables
  exact .ok (le_refl _) (worlds.pushTable (tables.mono grows)) same

/-- Making matching functions gives functions that are paired from then on. -/
theorem matches_newFunction {callable other : Callable} (callables : callable.Matches pairing other) :
    Matches Pairing.functions pairing (newFunction callable) (newFunction other) := by
  intro large grows left right worlds
  obtain ⟨larger, more, paired, identities⟩ :=
    worlds.toIdentities.pushFunctions (Lasting.mono grows callables)
  have contents : Contents large { left with functions := left.functions.push callable }
      { right with functions := right.functions.push other } :=
    worlds.toContents.of_same (.of_made left _ left.objects) (.of_made right _ right.objects)
  exact .ok more ⟨contents.mono more, identities⟩ paired

/-- Making objects of one kind that have handed out nothing gives objects that are paired from then
on. -/
theorem matches_newObject {object other : HostObject} (same : object.bare = other.bare)
    (fresh : ∀ function, object.handedOut function = none)
    (freshRight : ∀ function, other.handedOut function = none) :
    Matches Pairing.objects pairing (newObject object) (newObject other) := by
  intro large grows left right worlds
  obtain ⟨larger, more, paired, identities⟩ :=
    worlds.toIdentities.pushObjects same fresh freshRight
  have contents : Contents large { left with objects := left.objects.push object }
      { right with objects := right.objects.push other } :=
    worlds.toContents.of_same (.of_made left left.functions _) (.of_made right right.functions _)
  exact .ok more ⟨contents.mono more, identities⟩ paired

/-- Attempts at matching actions match. -/
theorem Matches.attempt {action : Action First} {other : Action Second}
    (matched : Matches related pairing action other) :
    Matches (ReplyMatches related) pairing (attempt action) (attempt other) := by
  intro large grows left right worlds
  have run := matched large grows left right worlds
  unfold Action.attempt
  generalize action left = ended at run ⊢
  generalize other right = otherEnded at run ⊢
  cases run with
  | ok more worlds results => exact .ok more worlds (.ok results)
  | error more worlds interrupt =>
    cases interrupt with
    | failed failure => exact .ok more worlds (.error failure)
    | tooDeep => exact .error more worlds _
    | outOfRange => exact .error more worlds _

variable {key other value further : Value}

/-- Storing matching values in a table gives matching values. -/
theorem matches_rawSet (id : TableId) (keys : key.Matches pairing other)
    (values : value.Matches pairing further) :
    Matches Value.Matches pairing (rawSet id key value) (rawSet id other further) := by
  refine (matches_view fun _ _ _ _ worlds => worlds.table id).bind
    fun large grows table rest tables => ?_
  rcases tables.set (keys.mono grows) (values.mono grows) with
    ⟨fault, stored, storedRight⟩ | ⟨old, previous, kept, last, stored, storedRight, olds, kepts⟩
  · rw [stored, storedRight]
    exact matches_throw _
  · rw [stored, storedRight]
    exact (matches_putTable id kepts).bind fun _ more _ _ _ => matches_pure (olds.mono more)

/-- Remembering matching values gives matching values. -/
theorem matches_remember (keys : key.Matches pairing other)
    (values : value.Matches pairing further) :
    Matches Value.Matches pairing (remember key value) (remember other further) := by
  refine (matches_view fun _ _ _ _ worlds => worlds.memory).bind
    fun large grows memory rest memories => ?_
  rcases memories.set (keys.mono grows) (values.mono grows) with
    ⟨fault, stored, storedRight⟩ | ⟨old, previous, kept, last, stored, storedRight, olds, kepts⟩
  · rw [stored, storedRight]
    exact matches_throw _
  · rw [stored, storedRight]
    exact (matches_modify fun _ more _ _ worlds =>
        worlds.changeRest (kepts.mono more) worlds.held worlds.tree worlds.registry).bind
      fun _ more _ _ _ => matches_pure (olds.mono more)

end Steps

end ScriptHost.Action
