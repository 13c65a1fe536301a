import ScriptHost.Evaluation.Call
import ScriptHost.Proofs.Identity.Evaluation

/-!
# Calls match

Core functions, routines of the host and scripts do alike in matching worlds with matching
arguments, given that the calls inside them do. Calls nest to a bounded depth, so by induction
on that depth every call does: running code cannot tell which functions and objects it has.
-/

namespace ScriptHost

open ScriptHost.Action World

variable {pairing small large : Pairing} {arguments others : List Value}

/-! ## Core functions -/

/-- Matching values show the same. -/
theorem Value.display_matches {value other : Value} (values : value.Matches pairing other) :
    Action.Matches Exactly pairing (view (·.display value)) (view (·.display other)) :=
  matches_view fun _ grows _ _ worlds => worlds.display (values.mono grows)

namespace Core

/-- Counting the memory is the same in matching worlds. -/
theorem memoryCount_matches (context : Context) :
    Action.Matches AllMatch pairing (memoryCount context) (memoryCount context) := by
  unfold memoryCount
  refine (context.required_plain "collectgarbage").matches_bind fun id => ?_
  refine (matches_view fun _ _ _ _ worlds => worlds.environment id).map
    fun _ _ _ _ environments => ?_
  rw [environments.heap]
  exact .cons (.number _) (AllMatch.singleton (.ofNat _))

variable (given : AllMatch pairing arguments others)
include given

/-- Checking a condition of matching arguments matches. -/
theorem assert_matches :
    Action.Matches AllMatch pairing (assert arguments) (assert others) := by
  have values := Arguments.value_matches given 0
  have messages := Arguments.value_matches given 1
  unfold assert
  dsimp only
  rw [values.congr Value.toBoolean (fun _ _ => rfl) fun _ _ => rfl]
  split
  · exact matches_pure (AllMatch.singleton values)
  · generalize Arguments.value arguments 1 = message at messages ⊢
    generalize Arguments.value others 1 = other at messages ⊢
    have raised : Action.Matches AllMatch pairing
        (do Action.fail (.raised (← view (·.display message)) 1))
        (do Action.fail (.raised (← view (·.display other)) 1)) :=
      (Value.display_matches messages).bind fun _ _ _ _ same => same ▸ matches_throw _
    cases messages with
    | content scalar =>
      cases message with
      | nil => exact matches_throw _
      | _ => exact raised
    | reference known => exact raised

/-- Heap queries with matching arguments match. -/
theorem collectGarbage_matches (context : Context) :
    Action.Matches AllMatch pairing (collectGarbage context arguments)
      (collectGarbage context others) := by
  have options := Arguments.value_matches given 0
  unfold collectGarbage
  generalize Arguments.value arguments 0 = option at options ⊢
  generalize Arguments.value others 0 = other at options ⊢
  by_cases absent : option = .nil
  · cases options with
    | content scalar =>
      subst absent
      exact matches_pure .nil
    | reference known => contradiction
  · have there : other ≠ .nil := by
      rintro rfl
      cases options
      exact absent rfl
    split
    · contradiction
    refine (Value.display_matches options).bind fun shown grows _ _ same => ?_
    subst same
    split
    · refine (context.required_plain "collectgarbage").matches_bind fun id => ?_
      exact (Environment.collect_matches id).bind fun _ _ _ _ _ => memoryCount_matches context
    · exact memoryCount_matches context
    · exact matches_pure (AllMatch.singleton (.boolean true))
    · exact matches_pure .nil

/-- Running a file matches. -/
theorem doFile_matches {call : Caller} (blind : call.Blind) (context : Context) :
    Action.Matches AllMatch pairing (doFile call context arguments)
      (doFile call context others) := by
  have paths := Arguments.value_matches given 0
  unfold doFile
  rw [Arguments.given_eq given]
  generalize Arguments.value arguments 0 = path at paths ⊢
  generalize Arguments.value others 0 = other at paths ⊢
  cases paths with
  | content scalar =>
    cases path with
    | text path =>
      refine (context.required_plain "dofile").matches_bind fun id => ?_
      exact Environment.doFile_matches blind .nil _ id path
    | _ => exact matches_throw _
  | reference known => exact matches_throw _

/-- Failing with matching arguments matches. -/
theorem error_matches :
    Action.Matches AllMatch pairing (error arguments) (error others) := by
  have levels := Arguments.value_matches given 1
  unfold error
  refine (Value.display_matches (Arguments.value_matches given 0)).bind fun _ _ _ _ same => ?_
  subst same
  rw [levels.toInt64?]
  exact matches_throw _

/-- Matching arguments are printed alike. -/
theorem printedLine_eq {left right : World} (worlds : World.Matches pairing left right) :
    printedLine left arguments = printedLine right others := by
  unfold printedLine
  refine congrArg String.join ?_
  induction given with
  | nil => rfl
  | @cons first second _ _ values _ ih =>
    rw [List.filter_cons, List.filter_cons, values.isNil]
    split
    · rw [List.map_cons, List.map_cons, worlds.display values, ih]
    · exact ih

/-- Printing matching arguments matches. -/
theorem print_matches (context : Context) :
    Action.Matches AllMatch pairing (print context arguments) (print context others) := by
  have empty : arguments.isEmpty = others.isEmpty := by
    rw [Bool.eq_iff_iff, List.isEmpty_iff_length_eq_zero, List.isEmpty_iff_length_eq_zero,
      given.length_eq]
  have done : Action.Matches AllMatch pairing (pure [] : Action (List Value)) (pure []) :=
    matches_pure .nil
  unfold print
  dsimp only
  rw [empty]
  split
  · split
    · next id _ =>
      refine (matches_view fun _ grows _ _ worlds =>
        printedLine_eq (AllMatch.mono given grows) worlds).bind fun _ grows line _ same => ?_
      subst same
      exact (Environment.printLine_matches id line).bind fun _ more _ _ _ =>
        done.mono (le_trans grows more)
    · exact done
  · exact done

/-- Matching arguments have the same table. -/
theorem tableArgument_matches (function : String) :
    Action.Matches Exactly pairing (tableArgument arguments function)
      (tableArgument others function) := by
  have values := Arguments.value_matches given 0
  unfold tableArgument
  rw [Arguments.given_eq given]
  generalize Arguments.value arguments 0 = value at values ⊢
  generalize Arguments.value others 0 = other at values ⊢
  cases values with
  | content scalar =>
    cases value with
    | reference target => exact absurd rfl (scalar target)
    | _ => exact matches_throw _
  | reference known =>
    cases known with
    | table id => exact matches_pure rfl
    | _ => exact matches_throw _

/-- Reading a table with matching arguments matches. -/
theorem rawGet_matches :
    Action.Matches AllMatch pairing (rawGet arguments) (rawGet others) := by
  have keys := Arguments.value_matches given 1
  unfold rawGet
  refine (tableArgument_matches given "rawget").bind fun _ grows id _ same => ?_
  subst same
  exact (matches_view fun _ _ _ _ worlds => worlds.table id).map fun _ more _ _ tables =>
    AllMatch.singleton (tables.get (keys.mono (le_trans grows more)))

/-- Writing to a table with matching arguments matches. -/
theorem rawSet_matches (context : Context) :
    Action.Matches AllMatch pairing (rawSet context arguments) (rawSet context others) := by
  have keys := Arguments.value_matches given 1
  have values := Arguments.value_matches given 2
  unfold rawSet
  refine (tableArgument_matches given "rawset").bind fun _ grows id _ same => ?_
  subst same
  have keys := keys.mono grows
  have values := values.mono grows
  dsimp only
  rw [keys.isNil]
  split
  · exact matches_throw _
  · split
    · next environment _ =>
      exact (Environment.storeInTable_matches environment id keys values).bind
        fun _ _ _ _ _ => matches_pure (AllMatch.singleton (.table id))
    · exact (matches_rawSet id keys values).bind fun _ _ _ _ _ =>
        matches_pure (AllMatch.singleton (.table id))

omit given in
/-- A selector other than `#` is the place to select from. -/
theorem select_cons {selector : Value} (place : selector ≠ .text "#") (rest : List Value) :
    select (selector :: rest) =
      selector.toInt64?.elim (badArgument 1 "select" (.expected "number" selector.kind))
        fun index => pure (selected index.toInt rest) := by
  unfold select
  split
  · contradiction
  · next same => exact absurd (List.cons.inj same).1 place
  · next same =>
    obtain ⟨rfl, rfl⟩ := List.cons.inj same
    split
    · next known => rw [known, Option.elim_some]
    · next unknown => rw [unknown, Option.elim_none]

/-- Selecting among matching arguments matches. -/
theorem select_matches :
    Action.Matches AllMatch pairing (select arguments) (select others) := by
  cases given with
  | nil => exact matches_throw _
  | @cons selector other values further first rest =>
    by_cases counts : selector = .text "#"
    · cases first with
      | content scalar =>
        subst counts
        have counted (rest : List Value) :
            select (.text "#" :: rest) = pure [.ofNat rest.length] := rfl
        rw [counted, counted, rest.length_eq]
        exact matches_pure (AllMatch.singleton (.ofNat _))
      | reference known => contradiction
    · have place : other ≠ .text "#" := by
        rintro rfl
        cases first
        exact counts rfl
      rw [select_cons counts, select_cons place, first.toInt64?, first.kind]
      cases other.toInt64? with
      | none => exact matches_throw _
      | some index =>
        refine matches_pure ?_
        unfold selected
        rw [rest.length_eq]
        split <;> exact AllMatch.drop rest _

/-- Measuring matching values matches. -/
theorem rawLen_matches :
    Action.Matches AllMatch pairing (rawLen arguments) (rawLen others) := by
  have values := Arguments.value_matches given 0
  have rest (length : Nat) : Action.Matches AllMatch pairing
      (pure [.ofNat length] : Action (List Value)) (pure [.ofNat length]) :=
    matches_pure (AllMatch.singleton (.ofNat length))
  unfold rawLen
  generalize Arguments.value arguments 0 = value at values ⊢
  generalize Arguments.value others 0 = other at values ⊢
  cases values with
  | content scalar =>
    cases value with
    | reference target => exact absurd rfl (scalar target)
    | _ => exact rest _
  | reference known =>
    cases known with
    | table id =>
      exact matches_view_same (fun _ _ _ worlds => (worlds.table id).length) rest
    | object paired =>
      have length {object other : HostObject} (alike : object.Alike other) :
          (object.length?).getD 0 = (other.length?).getD 0 := by
        cases alike <;> rfl
      have measured : Action.Matches Exactly pairing
          (view fun world => ((world.object _).length?).getD 0)
          (view fun world => ((world.object _).length?).getD 0) :=
        matches_view fun _ grows _ _ worlds => length (worlds.alike (grows.2 _ _ paired))
      exact measured.bind fun _ grows length _ same => same ▸ (rest length).mono grows
    | _ => exact rest _

/-- Converting matching arguments to a number matches. -/
theorem toNumber_matches :
    Action.Matches AllMatch pairing (toNumber arguments) (toNumber others) := by
  have values := Arguments.value_matches given 0
  have bases := Arguments.value_matches given 1
  have base : numberBase arguments = numberBase others := by
    unfold numberBase
    generalize Arguments.value arguments 1 = base at bases ⊢
    generalize Arguments.value others 1 = other at bases ⊢
    cases bases with
    | content scalar => rfl
    | reference known => rfl
  unfold toNumber
  rw [base]
  refine (numberBase_plain others).matches_bind fun base => ?_
  rw [values.congr (Value.toNumber · base) (fun _ _ => rfl) fun _ _ => rfl]
  split
  · next result converted =>
    have content : result.Within fun _ => False := Value.toNumber_within converted
    exact matches_pure (AllMatch.singleton (.content content))
  · exact matches_throw _

/-- Converting matching arguments to a text matches. -/
theorem toString_matches :
    Action.Matches AllMatch pairing (toString arguments) (toString others) := by
  have values := Arguments.value_matches given 0
  unfold toString
  generalize Arguments.value arguments 0 = value at values ⊢
  generalize Arguments.value others 0 = other at values ⊢
  have shown : Action.Matches AllMatch pairing (do return [.text (← view (·.display value))])
      (do return [.text (← view (·.display other))]) :=
    (Value.display_matches values).map fun _ _ _ _ same => same ▸ AllMatch.singleton (.text _)
  cases values with
  | content scalar =>
    cases value with
    | nil => exact matches_pure (AllMatch.singleton .nil)
    | _ => exact shown
  | reference known => exact shown

end Core

/-- A core function does alike with matching arguments. -/
theorem CoreFunction.run_matches {call : Caller} (blind : call.Blind) (context : Context)
    (given : AllMatch pairing arguments others) (function : CoreFunction) :
    Action.Matches AllMatch pairing (function.run call context arguments)
      (function.run call context others) := by
  have first := Arguments.value_matches given 0
  cases function with
  | assert => exact Core.assert_matches given
  | collectgarbage => exact Core.collectGarbage_matches given context
  | dofile => exact Core.doFile_matches given blind context
  | error => exact Core.error_matches given
  | print => exact Core.print_matches given context
  | rawequal =>
    unfold run Core.rawEqual
    rw [first.rawEqual (Arguments.value_matches given 1)]
    exact matches_pure (AllMatch.singleton (.boolean _))
  | rawget => exact Core.rawGet_matches given
  | rawlen => exact Core.rawLen_matches given
  | rawset => exact Core.rawSet_matches given context
  | select => exact Core.select_matches given
  | tonumber => exact Core.toNumber_matches given
  | tostring => exact Core.toString_matches given
  | type =>
    unfold run Core.typeOf
    rw [first.congr Value.typeName (fun _ _ => rfl) fun _ _ => rfl]
    exact matches_pure (AllMatch.singleton (.text _))

/-! ## Code of the host -/

section Code

variable {call : Caller} (blind : call.Blind)
include blind

/-- Carrying out matching operations matches. -/
theorem HostOperation.perform_matches (held : List Reference) {operation other : HostOperation}
    (operations : operation.Matches pairing other) :
    Action.Matches AllMatch pairing (operation.perform call held) (other.perform call held) := by
  cases operations with
  | display values =>
    exact (Value.display_matches values).map fun _ _ _ _ same => same ▸ AllMatch.singleton (.text _)
  | makeTable =>
    exact (matches_newTable .empty).map fun _ _ _ _ same => same ▸ AllMatch.singleton (.table _)
  | get table keys =>
    exact (matches_view fun _ _ _ _ worlds => worlds.table table).map fun _ grows _ _ tables =>
      AllMatch.singleton (tables.get (keys.mono grows))
  | set table keys values => exact matches_single (matches_rawSet table keys values)
  | entries table =>
    exact (matches_view fun _ _ _ _ worlds => worlds.table table).map fun _ _ _ _ tables =>
      tables.inTurn
  | length table =>
    refine (matches_view fun _ _ _ _ worlds => worlds.table table).map fun _ _ _ _ tables => ?_
    rw [tables.length]
    exact AllMatch.singleton (.ofNat _)
  | remembered keys =>
    exact (matches_view fun _ _ _ _ worlds => worlds.memory).map fun _ grows _ _ memories =>
      AllMatch.singleton (memories.get (keys.mono grows))
  | remember keys values => exact matches_single (matches_remember keys values)
  | index environment objects keys =>
    exact matches_single (Value.index_matches blind _ objects keys)
  | store environment objects keys values =>
    exact (Value.store_matches blind held environment objects keys values).map
      fun _ _ _ _ _ => .nil
  | call environment callees given => exact Value.apply_matches blind _ callees given
  | method environment objects name given =>
    exact Value.applyMethod_matches blind _ objects name given

omit blind in
/-- Matching replies are held alike. -/
theorem HostReply.holds_matches {reply other : HostReply}
    (replies : ReplyMatches AllMatch pairing reply other) : reply.holds = other.holds := by
  cases replies with
  | ok values => exact AllMatch.holds values
  | error failure => rfl

/-- Running matching code matches. -/
theorem HostCode.run_matches {First Second : Type} {related : Pairing → First → Second → Prop}
    [Lasting related] (held : List Reference) {code : HostCode First} {other : HostCode Second}
    (codes : HostCode.Matches related pairing code other) :
    Action.Matches related pairing (code.run call held) (other.run call held) := by
  induction codes generalizing held with
  | done results => exact matches_pure results
  | step operations _ ih =>
    unfold HostCode.run
    refine (HostOperation.perform_matches blind held operations).attempt.bind
      fun large grows reply other replies => ?_
    rw [HostReply.holds_matches replies]
    exact ih large grows reply other replies _

/-- Running matching routines with matching arguments matches. -/
theorem Routine.run_matches (held : List Reference) (given : AllMatch pairing arguments others)
    {routine other : Routine} (routines : routine.Matches pairing other) :
    Action.Matches AllMatch pairing (routine.run call held arguments)
      (other.run call held others) :=
  (HostCode.run_matches blind held (routines pairing (le_refl _) _ _ given)).bind
    fun _ _ _ _ replies => matches_ofOutcome replies

/-- Running the selected ones of matching overloads with matching arguments matches. -/
theorem MethodGroup.invoke_matches (held : List Reference) {group other : MethodGroup}
    (groups : group.Matches pairing other) (given : AllMatch pairing arguments others) :
    Action.Matches AllMatch pairing (group.invoke call held arguments)
      (other.invoke call held others) := by
  unfold invoke
  rw [given.length_eq]
  rcases rel_cases (groups.select others.length) with
    ⟨none, absent⟩ | ⟨_, _, known, there, overloads⟩
  · rw [none, absent, groups.label]
    exact matches_throw _
  · rw [known, there]
    exact Routine.run_matches blind held given overloads.routine

end Code

/-! ## Calls of functions -/

/-- Functions of one name and one home run in the same context. -/
theorem Callable.context_matches {function other : Callable} (name : function.name = other.name)
    (home : function.home = other.home) (caller : Context) :
    Action.Matches Exactly pairing (function.context caller) (other.context caller) := by
  unfold Callable.context
  rw [home]
  split
  · next id _ =>
    refine matches_view_same (fun _ _ _ worlds => ?_) fun live => ?_
    · exact (worlds.toContents.holdsAlike.isLive caller.holds id).symm
    · split
      · exact matches_pure rfl
      · rw [name]
        exact matches_throw _
  · exact matches_pure rfl

/-- Matching functions do alike with matching arguments. -/
theorem Callable.run_matches {call : Caller} (blind : call.Blind) (caller : Context)
    {function other : Callable} (functions : function.Matches pairing other)
    (given : AllMatch pairing arguments others) :
    Action.Matches AllMatch pairing (function.run call caller arguments)
      (other.run call caller others) := by
  have entered : Action.Matches Exactly pairing (function.context (caller.keep others))
      (other.context (caller.keep others)) :=
    Callable.context_matches functions.name functions.home _
  obtain ⟨name, body, home⟩ := function
  obtain ⟨otherName, otherBody, otherHome⟩ := other
  unfold Callable.run
  rw [caller.keep_matches given]
  cases functions.body with
  | builtin builtin =>
    refine entered.bind fun _ grows context _ same => ?_
    subst same
    have given := AllMatch.mono given grows
    cases builtin with
    | core function => exact function.run_matches blind context given
    | library function => exact function.run_matches context given
  | closure code => exact Routine.run_matches blind _ given (code _)
  | methods groups => exact MethodGroup.invoke_matches blind _ groups given

/-- Calls within any depth do alike to matching callees with matching arguments. -/
theorem callWithin_blind (depth : Nat) : (callWithin depth).Blind := by
  induction depth with
  | zero => exact fun _ _ _ _ _ _ _ _ => matches_throw _
  | succ depth ih =>
    intro pairing context callee other arguments others callees given
    have called : Action.Matches Callable.Matches pairing (view (·.callable callee))
        (view (·.callable other)) := by
      refine matches_view fun _ grows _ _ worlds => ?_
      cases callees with
      | function paired => exact worlds.callable (grows.1 _ _ paired)
      | body bodies => exact ⟨rfl, rfl, Lasting.mono grows bodies⟩
    exact called.bind fun _ grows _ _ functions =>
      Callable.run_matches ih context functions (AllMatch.mono given grows)

/-- Calls do alike to matching callees with matching arguments. -/
theorem caller_blind : caller.Blind := callWithin_blind callDepth

end ScriptHost
