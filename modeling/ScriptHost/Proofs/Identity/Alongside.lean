import ScriptHost.Proofs.Environment.Interleaving
import ScriptHost.Proofs.Identity.Moves

/-!
# Look-ups on one side

Where hooks and sources of the host have no effects, a look-up makes a core function or a library
at its first use and changes nothing else. So worlds still match after look-ups in one of them,
and matching moves lead on from there: whatever a host and its scripts do, names select the same
with and without these look-ups, up to which functions and objects there are.
-/

namespace ScriptHost

open ScriptHost.Action World

variable {pairing : Pairing}

/-! ## What a look-up makes -/

namespace Environment

/-- A core function is made at its first use. -/
theorem coreValue_fills (id : EnvironmentId) (function : CoreFunction) :
    Keeps Fills (coreValue id id function) := by
  intro world
  unfold coreValue
  rw [left_view_bind]
  cases missing : (world.environment id).coreMade.lookup function with
  | some made => exact .refl
  | none => exact .single ⟨.core id function missing, .addCore world id function⟩

/-- A library is made at its first use. -/
theorem libraryValue_fills (id : EnvironmentId) (library : Library) :
    Keeps Fills (libraryValue id library) := by
  intro world
  unfold libraryValue
  rw [left_view_bind]
  cases missing : (world.environment id).librariesMade.lookup library with
  | some made => exact .refl
  | none => exact .single ⟨.library id library missing, .addLibrary world id library⟩

end Environment

/-- Hooks and sources of the host have no effects on look-ups in an environment: from the world on,
as long as only functions and objects are made, that is all they do. -/
structure World.Quiet (world : World) (id : EnvironmentId) : Prop where
  hooks : ∀ context function table name, world.IsHook function →
    Keeps (Since Fills world) (caller context (.function function) (hookArguments table name))
  replies : ∀ reply ∈ (world.environment id).sources.filterMap Source.reply?, ∀ held name,
    Keeps (Since Fills world) (Environment.answerOfHost caller held (reply id name))

namespace World.Quiet

variable {world : World} {id : EnvironmentId}

/-- Reading a name with hooks makes functions and objects at most. -/
theorem hookedFrom_fills (quiet : world.Quiet id) (context : Context) (name : String) (steps : Nat)
    (table : TableId) :
    Keeps (Since Fills world) (hookedFrom caller context (.text name) steps table) := by
  induction steps generalizing table with
  | zero => exact keeps_throw _
  | succ steps ih =>
    intro later fills
    have same : later.table table = world.table table := by
      unfold World.table
      rw [fills.sameContents.tables]
    unfold hookedFrom
    rw [left_view_bind, same]
    dsimp only
    split
    · exact .refl
    · split
      · exact ih _ later fills
      · next function installed =>
        have called := quiet.hooks context function table name ⟨table, installed⟩
        exact Keeps.bind called (fun _ => keeps_pure _) later fills
      · exact .refl

/-- A look-up makes functions and objects at most. -/
theorem getGlobal_fills (quiet : world.Quiet id) (held : List Reference) (name : String) :
    Keeps (Since Fills world) (Environment.getGlobal caller held id name) :=
  Environment.getGlobal_keeps_since (Environment.coreValue_fills id)
    (Environment.libraryValue_fills id)
    (fun _ table => quiet.hookedFrom_fills _ name hookDepth table)
    (fun _ fills => fills.sameContents.sources id) held
    fun reply listed => quiet.replies reply listed held name

/-- No look-up has effects where no hook is a function and the sources that the host has added
answer outright. -/
theorem of_unhooked (unhooked : ∀ function, ¬ world.IsHook function)
    (outright : ∀ reply ∈ (world.environment id).sources.filterMap Source.reply?,
      ∀ name, ∃ answer, reply id name = .done answer) : world.Quiet id where
  hooks := fun _ function _ _ hook => absurd hook (unhooked function)
  replies := fun reply listed held name =>
    (Environment.answerOfHost_plain (outright reply listed name) held).keeps

end World.Quiet

/-! ## Moves with look-ups in between -/

/-- What moves lead to from two worlds that match, with look-ups in between in the second one that
have no effects. The moves bring in only what is paired from the start. -/
inductive Alongside (pairing : Pairing) (first second : World) : World → World → Prop
  | refl : Alongside pairing first second first second
  | move {alone mixed : World} (before : Alongside pairing first second alone mixed)
    {move other : HostMove} (moves : move.Matches pairing other) :
    Alongside pairing first second (left move.perform alone) (left other.perform mixed)
  | lookUp {alone mixed : World} (before : Alongside pairing first second alone mixed)
    (held : List Reference) (id : EnvironmentId) (name : String) (quiet : mixed.Quiet id) :
    Alongside pairing first second alone (left (Environment.getGlobal caller held id name) mixed)

/-- Worlds match that moves lead to with and without look-ups in between. -/
theorem Alongside.matches {first second alone mixed : World}
    (alongside : Alongside pairing first second alone mixed)
    (worlds : World.Matches pairing first second) :
    ∃ large, pairing ≤ large ∧ World.Matches large alone mixed := by
  induction alongside with
  | refl => exact ⟨pairing, le_refl _, worlds⟩
  | move before moves ih =>
    obtain ⟨large, grows, matched⟩ := ih
    obtain ⟨larger, more, later⟩ := (moves.perform large grows _ _ matched).worlds
    exact ⟨larger, le_trans grows more, later⟩
  | lookUp before held id name quiet ih =>
    obtain ⟨large, grows, matched⟩ := ih
    exact ⟨large, grows, matched.fills (quiet.getGlobal_fills held name _ .refl)⟩

/-- Look-ups that have no effects make no difference to what names select, whichever they are and
whatever host and scripts do in between: in the world without them and in the world with them a
later look-up gives matching values or fails with the same failure, and leaves matching worlds. -/
theorem lookUp_regardless {first second alone mixed : World}
    (worlds : World.Matches pairing first second)
    (alongside : Alongside pairing first second alone mixed) :
    ∃ large, pairing ≤ large ∧ World.Matches large alone mixed ∧ ∀ held id name,
      RunMatches Value.Matches large (Environment.getGlobal caller held id name alone)
        (Environment.getGlobal caller held id name mixed) := by
  obtain ⟨large, grows, matched⟩ := alongside.matches worlds
  exact ⟨large, grows, matched, fun held id name =>
    Environment.getGlobal_matches caller_blind held id name large (le_refl _) alone mixed matched⟩

/-- Whether a name was looked up before a script ran makes no difference to what the script leaves
behind: names select the same afterwards, up to which functions and objects there are. -/
theorem lookUp_after_run (looked source label : String) :
    let lookUp (name : String) := Environment.getGlobal caller [] ⟨0⟩ name
    let run := HostMove.runText [] ⟨0⟩ source label []
    ∃ pairing : Pairing, ∀ name, RunMatches Value.Matches pairing
      (lookUp name (left run.perform launched))
      (lookUp name (left run.perform (left (lookUp looked) launched))) := by
  intro lookUp run
  have quiet : launched.Quiet ⟨0⟩ := by
    refine .of_unhooked (not_isHook_of_launched .refl) ?_
    rw [replies_of_launched .refl]
    exact fun _ member => absurd member List.not_mem_nil
  have started : Alongside .none {} {} launched launched :=
    Alongside.refl.move (.launch {} .elsewhere .script)
  have alongside := (started.lookUp [] ⟨0⟩ looked quiet).move (.runText [] ⟨0⟩ source label .nil)
  obtain ⟨pairing, -, -, alike⟩ := lookUp_regardless (matches_start {}) alongside
  exact ⟨pairing, alike [] ⟨0⟩⟩

end ScriptHost
