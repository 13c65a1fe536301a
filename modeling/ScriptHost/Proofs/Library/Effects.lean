import ScriptHost.Host.Members
import ScriptHost.Proofs.World.Change

/-!
# Effects of the libraries

The functions of the system libraries work on their arguments alone, apart from
repetition, which looks at the heap. None of them changes anything.
-/

namespace ScriptHost

open ScriptHost.Action ScriptHost.Binary World

/-! ## Arguments -/

namespace Arguments

/-- Reading a numeric argument is plain. -/
theorem double_plain (arguments : List Value) (index : Nat) (function : String) :
    Plain (double arguments index function) := by
  unfold double
  split
  · exact plain_pure _
  · exact plain_throw _

/-- Reading a text argument is plain. -/
theorem text_plain (arguments : List Value) (index : Nat) (function : String) :
    Plain (text arguments index function) := by
  unfold text
  split
  · exact plain_pure _
  · exact plain_throw _

/-- Reading an integer argument is plain. -/
theorem integer_plain (arguments : List Value) (index : Nat) (function : String)
    (missing : Int64) : Plain (integer arguments index function missing) := by
  unfold integer
  split
  · exact plain_pure _
  · split
    · exact plain_pure _
    · exact plain_throw _

end Arguments

/-! ## The math library -/

namespace Math

/-- Picking among arguments is plain. -/
theorem pickFrom_plain (function : String) (wanted : Ordering) (arguments rest : List Value)
    (index : Nat) (best : Value) (double : Double) :
    Plain (pickFrom function wanted arguments rest index best double) := by
  induction rest generalizing index best double with
  | nil => exact plain_pure _
  | cons candidate rest ih =>
    unfold pickFrom
    refine Plain.bind (Arguments.double_plain _ _ _) fun datum => ?_
    split
    · exact ih _ _ _
    · exact ih _ _ _

/-- Picking the best argument is plain. -/
theorem pick_plain (function : String) (wanted : Ordering) (arguments : List Value) :
    Plain (pick function wanted arguments) := by
  unfold pick
  refine Plain.bind (Arguments.double_plain _ _ _) fun first => ?_
  exact Plain.bind (pickFrom_plain _ _ _ _ _ _ _) fun _ => plain_pure _

end Math

/-! ## The string library -/

namespace TextLibrary

/-- Measuring a text is plain. -/
theorem len_plain (arguments : List Value) : Plain (len arguments) :=
  Plain.bind (Arguments.text_plain _ _ _) fun _ => plain_pure _

/-- Lowering a text is plain. -/
theorem lower_plain (arguments : List Value) : Plain (lower arguments) :=
  Plain.bind (Arguments.text_plain _ _ _) fun _ => plain_pure _

/-- Raising a text is plain. -/
theorem upper_plain (arguments : List Value) : Plain (upper arguments) :=
  Plain.bind (Arguments.text_plain _ _ _) fun _ => plain_pure _

/-- Cutting a part out of a text is plain. -/
theorem sub_plain (arguments : List Value) : Plain (sub arguments) := by
  refine Plain.bind (Arguments.text_plain _ _ _) fun text => ?_
  refine Plain.bind (Arguments.integer_plain _ _ _ _) fun first => ?_
  refine Plain.bind (Arguments.integer_plain _ _ _ _) fun last => ?_
  split
  · exact plain_pure _
  · exact plain_throw _

/-- Repeating a text keeps everything. -/
theorem rep_keeps {relates : World → World → Prop} [IsPreorder World relates] (context : Context)
    (arguments : List Value) : Keeps relates (rep context arguments) := by
  unfold rep
  refine Keeps.bind (Arguments.text_plain _ _ _).keeps fun text => ?_
  refine Keeps.bind (Arguments.integer_plain _ _ _ _).keeps fun count => ?_
  dsimp only
  split
  · exact keeps_pure _
  · split
    · exact keeps_throw _
    · refine Keeps.bind (keeps_view _) fun heaps => ?_
      split
      · exact keeps_pure _
      · exact keeps_throw _

end TextLibrary

namespace LibraryFunction

/-- Every library function but repetition is plain. -/
theorem run_plain (context : Context) (arguments : List Value) (function : LibraryFunction)
    (other : function ≠ .rep) : Plain (function.run context arguments) := by
  cases function with
  | abs => exact Plain.bind (Arguments.double_plain _ _ _) fun _ => plain_pure _
  | ceil => exact Plain.bind (Arguments.double_plain _ _ _) fun _ => plain_pure _
  | floor => exact Plain.bind (Arguments.double_plain _ _ _) fun _ => plain_pure _
  | max => exact Math.pick_plain _ _ _
  | min => exact Math.pick_plain _ _ _
  | sqrt => exact Plain.bind (Arguments.double_plain _ _ _) fun _ => plain_pure _
  | len => exact TextLibrary.len_plain arguments
  | lower => exact TextLibrary.lower_plain arguments
  | rep => exact absurd rfl other
  | sub => exact TextLibrary.sub_plain arguments
  | upper => exact TextLibrary.upper_plain arguments

/-- A library function keeps everything. -/
theorem run_keeps {relates : World → World → Prop} [IsPreorder World relates] (context : Context)
    (arguments : List Value) (function : LibraryFunction) :
    Keeps relates (function.run context arguments) := by
  by_cases other : function = .rep
  · rw [other]
    exact TextLibrary.rep_keeps context arguments
  · exact (run_plain context arguments function other).keeps

end LibraryFunction

end ScriptHost
