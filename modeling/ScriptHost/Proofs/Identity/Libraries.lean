import ScriptHost.Host.Members
import ScriptHost.Proofs.Identity.Actions
import ScriptHost.Proofs.Library.Effects

/-!
# Libraries match

The functions of the libraries look at the contents of their arguments and, for repetition, at
the heap of an environment. So with matching arguments they match.
-/

namespace ScriptHost

open ScriptHost.Action ScriptHost.Binary World

variable {pairing : Pairing} {arguments others : List Value}

namespace Arguments

/-- Arguments at the same place match. -/
theorem value_matches (given : AllMatch pairing arguments others) (index : Nat) :
    (value arguments index).Matches pairing (value others index) := by
  unfold value
  rcases rel_cases (AllMatch.getElem? given index) with
    ⟨none, absent⟩ | ⟨first, second, known, there, values⟩
  · rw [none, absent]
    exact .nil
  · rw [known, there]
    exact values

/-- The same is seen of an argument that does not show which function or object it is. -/
theorem seen_eq (given : AllMatch pairing arguments others) (index : Nat) {Result : Type}
    (look : Value → Option Result)
    (functions : ∀ first second, look (.function first) = look (.function second))
    (objects : ∀ first second, look (.object first) = look (.object second)) :
    (arguments[index]?).bind look = (others[index]?).bind look := by
  rcases rel_cases (AllMatch.getElem? given index) with
    ⟨none, absent⟩ | ⟨first, second, known, there, values⟩
  · rw [none, absent]
  · rw [known, there]
    exact values.congr look functions objects

/-- The same kind was given. -/
theorem given_eq (matched : AllMatch pairing arguments others) (index : Nat) :
    given arguments index = given others index := by
  unfold given
  rw [Option.map_eq_bind, Option.map_eq_bind]
  exact seen_eq matched index (fun value => some value.kind) (fun _ _ => rfl) fun _ _ => rfl

/-- A numeric argument is the same. -/
theorem double_eq (matched : AllMatch pairing arguments others) (index : Nat) (function : String) :
    double arguments index function = double others index function := by
  unfold double
  rw [given_eq matched, seen_eq matched index Value.toDouble? (fun _ _ => rfl) fun _ _ => rfl]

/-- A text argument is the same. -/
theorem text_eq (matched : AllMatch pairing arguments others) (index : Nat) (function : String) :
    text arguments index function = text others index function := by
  unfold text
  rw [given_eq matched, seen_eq matched index Value.concatText? (fun _ _ => rfl) fun _ _ => rfl]

/-- An integer argument is the same. -/
theorem integer_eq (matched : AllMatch pairing arguments others) (index : Nat) (function : String)
    (missing : Int64) :
    integer arguments index function missing = integer others index function missing := by
  unfold integer
  have values := value_matches matched index
  generalize value arguments index = first at values ⊢
  generalize value others index = second at values ⊢
  cases values with
  | content scalar => rfl
  | reference known => rfl

end Arguments

/-- A whole result matches itself. -/
theorem Math.integral_matches (result : Double) :
    (Math.integral result).Matches pairing (Math.integral result) := by
  unfold Math.integral
  split
  · exact .ofInt64 _
  · exact .number _

/-- Picking among matching arguments gives matching ones. -/
theorem Math.pickFrom_matches (function : String) (wanted : Ordering)
    (given : AllMatch pairing arguments others) {rest further : List Value}
    (left : AllMatch pairing rest further) (index : Nat) {best other : Value}
    (bests : best.Matches pairing other) (double : Double) :
    Action.Matches Value.Matches pairing
      (Math.pickFrom function wanted arguments rest index best double)
      (Math.pickFrom function wanted others further index other double) := by
  induction left generalizing index best other double with
  | nil => exact matches_pure bests
  | cons first _ ih =>
    unfold Math.pickFrom
    rw [Arguments.double_eq given]
    refine (Arguments.double_plain others index function).matches_bind fun datum => ?_
    split
    · exact ih _ first _
    · exact ih _ bests _

/-- Picking the best of matching arguments gives matching ones. -/
theorem Math.pick_matches (function : String) (wanted : Ordering)
    (given : AllMatch pairing arguments others) :
    Action.Matches AllMatch pairing (Math.pick function wanted arguments)
      (Math.pick function wanted others) := by
  unfold Math.pick
  rw [Arguments.double_eq given]
  refine (Arguments.double_plain others 0 function).matches_bind fun datum => ?_
  have picked := Math.pickFrom_matches function wanted given (given.drop 1) 1
    (Arguments.value_matches given 0) datum
  exact picked.map fun _ _ _ _ values => AllMatch.singleton values

/-- A library function does alike with matching arguments. -/
theorem LibraryFunction.run_matches (context : Context) (given : AllMatch pairing arguments others)
    (function : LibraryFunction) :
    Action.Matches AllMatch pairing (function.run context arguments)
      (function.run context others) := by
  have double (name : String) {next : Double → Value}
      (result : ∀ datum, (next datum).Matches pairing (next datum)) :
      Action.Matches AllMatch pairing (do return [next (← Arguments.double arguments 0 name)])
        (do return [next (← Arguments.double others 0 name)]) := by
    rw [Arguments.double_eq given]
    exact (Arguments.double_plain others 0 name).matches_bind fun datum =>
      matches_pure (AllMatch.singleton (result datum))
  have text (name : String) {next : String → Value}
      (result : ∀ content, (next content).Matches pairing (next content)) :
      Action.Matches AllMatch pairing (do return [next (← Arguments.text arguments 0 name)])
        (do return [next (← Arguments.text others 0 name)]) := by
    rw [Arguments.text_eq given]
    exact (Arguments.text_plain others 0 name).matches_bind fun content =>
      matches_pure (AllMatch.singleton (result content))
  cases function with
  | ceil => exact double _ fun _ => Math.integral_matches _
  | floor => exact double _ fun _ => Math.integral_matches _
  | sqrt => exact double _ fun _ => .number _
  | max => exact Math.pick_matches _ _ given
  | min => exact Math.pick_matches _ _ given
  | len => exact text _ fun _ => .ofNat _
  | lower => exact text _ fun _ => .text _
  | upper => exact text _ fun _ => .text _
  | abs =>
    unfold LibraryFunction.run Math.abs
    rw [Arguments.double_eq given]
    refine (Arguments.double_plain others 0 "abs").matches_bind fun datum => matches_pure ?_
    have values := Arguments.value_matches given 0
    generalize Arguments.value arguments 0 = first at values ⊢
    generalize Arguments.value others 0 = second at values ⊢
    cases values with
    | content scalar =>
      split
      · exact AllMatch.singleton (.number _)
      · exact AllMatch.singleton (.number _)
      · exact AllMatch.singleton (Math.integral_matches _)
    | reference known => exact AllMatch.singleton (Math.integral_matches _)
  | sub =>
    unfold LibraryFunction.run TextLibrary.sub
    rw [Arguments.text_eq given, Arguments.integer_eq given, Arguments.integer_eq given]
    refine (Arguments.text_plain others 0 "sub").matches_bind fun content => ?_
    refine (Arguments.integer_plain others 1 "sub" 1).matches_bind fun first => ?_
    refine (Arguments.integer_plain others 2 "sub" (-1)).matches_bind fun last => ?_
    split
    · exact matches_pure (AllMatch.singleton (.text _))
    · exact matches_throw _
  | rep =>
    unfold LibraryFunction.run TextLibrary.rep
    rw [Arguments.text_eq given, Arguments.integer_eq given]
    refine (Arguments.text_plain others 0 "rep").matches_bind fun content => ?_
    refine (Arguments.integer_plain others 1 "rep" 1).matches_bind fun count => ?_
    dsimp only
    split
    · exact matches_pure (AllMatch.singleton (.text _))
    · split
      · exact matches_throw _
      · refine matches_view_same (fun large left right worlds => ?_) fun heaps => ?_
        · simp only [fun id => (worlds.environment id).heap]
        · split
          · exact matches_pure (AllMatch.singleton (.text _))
          · exact matches_throw _

end ScriptHost
