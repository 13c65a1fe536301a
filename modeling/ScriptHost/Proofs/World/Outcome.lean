import Mathlib.Logic.Relation
import ScriptHost.World.Action

/-!
# Outcomes of actions

An action has an outcome in a world and leaves a world behind, whether or not it fails.
What every run of an action does to the world follows from its steps, as long as the
relation between the worlds composes.
-/

namespace ScriptHost.Action

variable {First Second : Type}

/-- What an action gives in a world, or why it gives nothing. -/
def outcome (action : Action First) (world : World) : Except Interrupt First :=
  match action world with
  | .ok result _ => .ok result
  | .error interrupt _ => .error interrupt

/-- The world that an action leaves behind. -/
def left (action : Action First) (world : World) : World :=
  match action world with
  | .ok _ later | .error _ later => later

section Steps

variable (first : Action First) (next : First → Action Second) (world : World)

/-- An action is its outcome together with the world it leaves. -/
theorem eq_outcome_left :
    first world =
      match outcome first world with
      | .ok result => .ok result (left first world)
      | .error interrupt => .error interrupt (left first world) := by
  unfold outcome left
  cases first world <;> rfl

/-- The outcome of two steps is that of the second one, if the first one gives something. -/
theorem outcome_bind :
    outcome (first >>= next) world =
      match outcome first world with
      | .ok result => outcome (next result) (left first world)
      | .error interrupt => .error interrupt := by
  unfold outcome left
  simp only [bind, EStateM.bind]
  cases first world <;> rfl

/-- The second of two steps starts in the world that the first one leaves. -/
theorem left_bind :
    left (first >>= next) world =
      match outcome first world with
      | .ok result => left (next result) (left first world)
      | .error _ => left first world := by
  unfold outcome left
  simp only [bind, EStateM.bind]
  cases first world <;> rfl

/-- Two steps whose first one gives something go on with the second one. -/
theorem bind_of_ok {result : First} (given : outcome first world = .ok result) :
    outcome (first >>= next) world = outcome (next result) (left first world) ∧
      left (first >>= next) world = left (next result) (left first world) := by
  rw [outcome_bind, left_bind, given]
  exact ⟨rfl, rfl⟩

/-- Two steps whose first one gives nothing end there. -/
theorem bind_of_error {interrupt : Interrupt} (given : outcome first world = .error interrupt) :
    outcome (first >>= next) world = .error interrupt ∧
      left (first >>= next) world = left first world := by
  rw [outcome_bind, left_bind, given]
  exact ⟨rfl, rfl⟩

/-- A look at the world goes on with what is seen there. -/
theorem run_view_bind (look : World → First) :
    (view look >>= next) world = next (look world) world := rfl

/-- A step after a look at the world goes by what is seen. -/
theorem outcome_view_bind (look : World → First) :
    outcome (view look >>= next) world = outcome (next (look world)) world := rfl

/-- A look at the world leaves it to the next step. -/
theorem left_view_bind (look : World → First) :
    left (view look >>= next) world = left (next (look world)) world := rfl

/-- A step after taking the world goes by that world. -/
theorem outcome_get_bind (rest : World → Action Second) :
    outcome (get >>= rest) world = outcome (rest world) world := rfl

/-- Taking the world leaves it to the next step. -/
theorem left_get_bind (rest : World → Action Second) :
    left (get >>= rest) world = left (rest world) world := rfl

end Steps

section Runs

variable {first other : Action First} {world : World}

/-- Steps that run alike in a world can stand for one another before a next step. -/
theorem bind_of_run_eq (same : first world = other world) (next : First → Action Second) :
    (first >>= next) world = (other >>= next) world := by
  show EStateM.bind first next world = EStateM.bind other next world
  unfold EStateM.bind
  rw [same]

/-- Next steps can stand for one another if they run alike with what the first one gives, in the world
that it leaves. -/
theorem bind_congr_run {next rest : First → Action Second}
    (same : ∀ result, outcome first world = .ok result →
      next result (left first world) = rest result (left first world)) :
    (first >>= next) world = (first >>= rest) world := by
  show EStateM.bind first next world = EStateM.bind first rest world
  unfold EStateM.bind
  unfold outcome left at same
  cases run : first world with
  | ok result later =>
    rw [run] at same
    exact same result rfl
  | error interrupt later => rfl

/-- A step that gives a result goes on with the next one in the world that it leaves. -/
theorem bind_of_run_ok {result : First} {later : World} (given : first world = .ok result later)
    (next : First → Action Second) : (first >>= next) world = next result later := by
  show EStateM.bind first next world = next result later
  unfold EStateM.bind
  rw [given]

end Runs

section Attempts

variable (action : Action First) (world : World)

/-- An attempt gives what the action gives, or its failure. -/
theorem outcome_attempt :
    outcome (attempt action) world =
      match outcome action world with
      | .ok result => .ok (.ok result)
      | .error (.failed failure) => .ok (.error failure)
      | .error interrupt => .error interrupt := by
  unfold outcome attempt
  cases action world with
  | ok result later => rfl
  | error interrupt later => cases interrupt <;> rfl

/-- An attempt leaves what the action leaves. -/
theorem left_attempt : left (attempt action) world = left action world := by
  unfold left attempt
  cases action world with
  | ok result later => rfl
  | error interrupt later => cases interrupt <;> rfl

end Attempts

/-! ## What every run keeps -/

/-- Every run of an action leaves a world that is related to the one it starts in. -/
def Keeps (relates : World → World → Prop) (action : Action First) : Prop :=
  ∀ world, relates world (left action world)

/-- The first world is related to the second one if a base is related to the first one. -/
def Since (relates : World → World → Prop) (base old new : World) : Prop :=
  relates base old → relates old new

instance (relates : World → World → Prop) [IsPreorder World relates] (base : World) :
    IsPreorder World (Since relates base) where
  refl old _ := refl_of relates old
  trans _ _ _ first second related :=
    have further := first related
    trans_of relates further (second (trans_of relates related further))

/-- What is kept is kept in every weaker sense. -/
theorem Keeps.mono {relates weaker : World → World → Prop} {action : Action First}
    (keeps : Keeps relates action) (weakens : ∀ old new, relates old new → weaker old new) :
    Keeps weaker action :=
  fun world => weakens _ _ (keeps world)

/-- What is kept is kept since any world. -/
theorem Keeps.since {relates : World → World → Prop} {action : Action First}
    (keeps : Keeps relates action) (base : World) : Keeps (Since relates base) action :=
  fun world _ => keeps world

/-- Whatever an action gives has a property. -/
def Gives (property : First → Prop) (action : Action First) : Prop :=
  ∀ world result, outcome action world = .ok result → property result

/-- An action that neither looks at the world nor changes it. -/
structure Plain (action : Action First) : Prop where
  still : ∀ world, left action world = world
  blind : ∀ world other, outcome action world = outcome action other

section Keeps

variable {relates : World → World → Prop} [IsPreorder World relates]

/-- A result without a step keeps everything. -/
theorem keeps_pure (result : First) : Keeps relates (pure result : Action First) :=
  fun world => refl_of relates world

/-- Giving up keeps everything. -/
theorem keeps_throw (interrupt : Interrupt) : Keeps relates (throw interrupt : Action First) :=
  fun world => refl_of relates world

/-- A look at the world keeps everything. -/
theorem keeps_view (look : World → First) : Keeps relates (view look) :=
  fun world => refl_of relates world

/-- Taking the world keeps everything. -/
theorem keeps_get : Keeps relates (get : Action World) :=
  fun world => refl_of relates world

/-- Two steps keep what each of them keeps. -/
theorem Keeps.bind {first : Action First} {next : First → Action Second}
    (keeps : Keeps relates first) (rest : ∀ result, Keeps relates (next result)) :
    Keeps relates (first >>= next) := by
  intro world
  rw [left_bind]
  cases outcome first world with
  | ok result => exact trans_of relates (keeps world) (rest result _)
  | error interrupt => exact keeps world

/-- Two steps keep what each of them keeps, the second one for what the first one can give. -/
theorem Keeps.bind_of_gives {property : First → Prop} {first : Action First}
    {next : First → Action Second} (keeps : Keeps relates first) (gives : Gives property first)
    (rest : ∀ result, property result → Keeps relates (next result)) :
    Keeps relates (first >>= next) := by
  intro world
  rw [left_bind]
  cases given : outcome first world with
  | ok result => exact trans_of relates (keeps world) (rest result (gives world result given) _)
  | error interrupt => exact keeps world

/-- What an action does that gives nothing besides it does. -/
theorem Keeps.discard {action : Action First} (keeps : Keeps relates action) :
    Keeps relates (do let _ ← action) :=
  keeps.bind fun _ => keeps_pure _

omit [IsPreorder World relates] in
/-- An attempt keeps what the action keeps. -/
theorem Keeps.attempt {action : Action First} (keeps : Keeps relates action) :
    Keeps relates (Action.attempt action) := by
  intro world
  rw [left_attempt]
  exact keeps world

/-- A plain action keeps everything. -/
theorem Plain.keeps {action : Action First} (plain : Plain action) : Keeps relates action := by
  intro world
  rw [plain.still]
  exact refl_of relates world

end Keeps

section Gives

variable {property : First → Prop}

/-- What two steps give the second one gives for what the first one can give. -/
theorem Gives.bind_of_gives {middle : Second → Prop} {first : Action Second}
    {next : Second → Action First} (gives : Gives middle first)
    (rest : ∀ result, middle result → Gives property (next result)) :
    Gives property (first >>= next) := by
  intro world result given
  rw [outcome_bind] at given
  cases between : outcome first world with
  | ok value =>
    rw [between] at given
    exact rest value (gives world value between) _ result given
  | error interrupt =>
    rw [between] at given
    contradiction

/-- What two steps give the second one gives. -/
theorem Gives.bind {first : Action Second} {next : Second → Action First}
    (rest : ∀ result, Gives property (next result)) : Gives property (first >>= next) :=
  have anything : Gives (fun _ => True) first := fun _ _ _ => trivial
  anything.bind_of_gives fun result _ => rest result

/-- A result without a step is what is given. -/
theorem gives_pure {result : First} (holds : property result) :
    Gives property (pure result : Action First) := by
  intro world given same
  obtain rfl := Except.ok.inj same
  exact holds

/-- Giving up gives nothing. -/
theorem gives_throw (interrupt : Interrupt) : Gives property (throw interrupt : Action First) := by
  intro world result given
  contradiction

end Gives

section Plain

/-- A result without a step is plain. -/
theorem plain_pure (result : First) : Plain (pure result : Action First) :=
  ⟨fun _ => rfl, fun _ _ => rfl⟩

/-- Giving up is plain. -/
theorem plain_throw (interrupt : Interrupt) : Plain (throw interrupt : Action First) :=
  ⟨fun _ => rfl, fun _ _ => rfl⟩

/-- A step that can have a type fault is plain. -/
theorem plain_ofFaulty (result : Except TypeFault First) : Plain (ofFaulty result) := by
  cases result with
  | ok result => exact plain_pure result
  | error cause => exact plain_throw _

/-- A step that can fail is plain. -/
theorem plain_ofOutcome (result : Except Failure First) : Plain (ofOutcome result) := by
  cases result with
  | ok result => exact plain_pure result
  | error failure => exact plain_throw _

/-- Two plain steps are plain. -/
theorem Plain.bind {first : Action First} {next : First → Action Second} (plain : Plain first)
    (rest : ∀ result, Plain (next result)) : Plain (first >>= next) where
  still := by
    intro world
    rw [left_bind, plain.still]
    cases outcome first world with
    | ok result => exact (rest result).still world
    | error interrupt => rfl
  blind := by
    intro world other
    rw [outcome_bind, outcome_bind, plain.still, plain.still, plain.blind world other]
    cases outcome first other with
    | ok result => exact (rest result).blind world other
    | error interrupt => rfl

end Plain

end ScriptHost.Action
