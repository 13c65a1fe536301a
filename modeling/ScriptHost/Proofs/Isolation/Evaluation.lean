import ScriptHost.Proofs.Evaluation.Effects
import ScriptHost.Proofs.Isolation.Environment
import ScriptHost.Proofs.Isolation.Members

/-!
# Running code is confined

Code that runs in a safe environment with safe arguments stays with what is safe, given that
the calls it makes do. A function that has a home runs there, and one that is safe leads to
its home. Calls nest to a bounded depth, so by induction on that depth every call of a safe
function is confined, and with it every script.
-/

namespace ScriptHost

open ScriptHost.Action Script World

variable {safe wide : Reference → Prop}

/-! ## Operators -/

/-- Contents that are made of the result of a step that can fail are safe. -/
theorem within_of_map {Fault Part : Type} {content : Part → Value}
    (contents : ∀ part, (content part).Within safe) {part : Except Fault Part} {result : Value}
    (given : part.map content = .ok result) : result.Within safe := by
  cases part with
  | error fault => contradiction
  | ok part => exact Except.ok.inj given ▸ contents part

/-- Comparing, computing and joining give contents. -/
theorem Value.operate_within {op : BinaryOperator} {left right result : Value}
    (given : left.operate op right = .ok result) : result.Within safe := by
  have compared {test : Ordering → Bool}
      (given : (do return .boolean (test (← left.order right)) : Except TypeFault Value) =
        .ok result) : result.Within safe := by
    change ((left.order right).map fun order => .boolean (test order)) = .ok result at given
    exact within_of_map (fun _ => within_boolean _) given
  have computed (given : left.arithmetic op right = .ok result) : result.Within safe := by
    unfold arithmetic at given
    split at given
    · split at given
      · exact within_of_map within_ofInt64 given
      · exact within_of_map within_number given
    · contradiction
    · contradiction
  cases op with
  | eq => exact Except.ok.inj given ▸ within_boolean _
  | notEq => exact Except.ok.inj given ▸ within_boolean _
  | less | lessEq | greater | greaterEq => exact compared given
  | concat =>
    unfold operate concatenate at given
    dsimp only at given
    split at given
    · exact Except.ok.inj given ▸ within_text _
    · contradiction
    · contradiction
  | _ => exact computed given

/-- A negation is a number. -/
theorem Value.negate_within {value result : Value} (given : value.negate = .ok result) :
    result.Within safe := by
  unfold negate at given
  split at given
  · exact Except.ok.inj given ▸ within_ofInt64 _
  · split at given
    · exact Except.ok.inj given ▸ within_number _
    · contradiction

/-- What a value converts to is a number, or `nil`. -/
theorem Value.toNumber_within {value result : Value} {base : Nat}
    (given : value.toNumber base = .ok result) : result.Within safe := by
  have narrowed (content : Int) : (Value.narrow content).Within safe := by
    unfold narrow
    split
    · exact within_int _ _
    · exact within_number _
  unfold toNumber at given
  generalize (if base = 0 then 10 else base) = base at given
  dsimp only at given
  split at given
  · contradiction
  · obtain rfl := Except.ok.inj given
    split
    · split
      · exact within_int _ _
      · exact within_nil
    · exact within_int _ _
    · exact within_number _
    · exact narrowed _
    · exact narrowed _
    · exact narrowed _
    · exact narrowed _
    · exact within_number _
    · exact within_number _
    · exact within_number _
    · exact within_number _
    · exact within_int _ _
    · exact within_nil

/-! ## Members -/

section Calls

variable {call : Caller} (confined : call.Confines)
include confined

/-- Storing a safe value in something safe, charged to a safe environment, is confined. -/
theorem Value.store_confined (held : List Reference) {id : EnvironmentId}
    (holds : safe (.environment id)) {object key value : Value} (objectSafe : object.Within safe)
    (keySafe : key.Within safe) (within : value.Within safe) :
    Confines safe (fun _ _ => True) (Value.store call held id object key value) := by
  have outside : Context.Within safe { held } := nofun
  unfold Value.store
  split
  · next table =>
    exact Environment.storeInTable_confined holds (within_reference.mp objectSafe) keySafe within
  · next node =>
    exact (keyName_plain _ _).confines_bind fun name _ =>
      node.writeMember_confined confined outside name within false
  · next object =>
    refine (keyName_plain _ _).confines_bind fun name _ => ?_
    refine (ObjectId.writeMember_confined confined outside object name within).bind
      fun _ _ written _ => ?_
    split
    · exact confines_any _
    · exact Confines.of_view fun _ => confines_throw _
  · next environment =>
    exact (keyName_plain _ _).confines_bind fun name _ =>
      Environment.setGlobal_confined (within_reference.mp objectSafe) name within
  · exact confines_throw _

/-- Calling a safe value is confined. -/
theorem Value.apply_confined {context : Context} (inside : context.Within safe) {callee : Value}
    (calleeSafe : callee.Within safe) {arguments : List Value}
    (within : AllWithin safe arguments) :
    Confines safe AllWithin (Value.apply call context callee arguments) := by
  unfold Value.apply
  split
  · exact confined _ _ _ _ inside (within_reference.mp calleeSafe) within
  · exact confines_throw _

/-- Reading a member of a safe value is confined. -/
theorem Value.index_confined {context : Context} (inside : context.Within safe)
    {object key : Value} (objectSafe : object.Within safe) (keySafe : key.Within safe) :
    Confines safe Value.Within (Value.index call context object key) := by
  unfold Value.index
  split
  · next table =>
    exact hookedGet_confined confined inside (within_reference.mp objectSafe) keySafe
  · next node =>
    exact (keyName_plain _ _).confines_bind fun name _ =>
      node.readMember_confined confined inside name false
  · next object =>
    refine (keyName_plain _ _).confines_bind fun name _ => ?_
    refine (ObjectId.readMember?_confined confined inside (within_reference.mp objectSafe) name
      false).bind fun _ _ answered within => ?_
    cases answered with
    | none => exact confines_pure within_nil
    | some value => exact confines_pure (within value rfl)
  · next environment =>
    exact (keyName_plain _ _).confines_bind fun name _ =>
      Environment.getGlobal_confined confined (within_reference.mp objectSafe) _ name
  · exact confines_throw _

/-- Calling a method of a safe value is confined for safe arguments. -/
theorem Value.applyMethod_confined {context : Context} (inside : context.Within safe)
    {object : Value} (objectSafe : object.Within safe) (name : String) {arguments : List Value}
    (within : AllWithin safe arguments) :
    Confines safe AllWithin (Value.applyMethod call context object name arguments) := by
  unfold Value.applyMethod
  split
  · next node => exact node.callMember_confined confined inside name within false
  · next object =>
    have kept : (context.keep arguments).Within safe := inside
    refine (object.callMember?_confined confined inside name within false).bind
      fun _ grows called results => ?_
    split
    · next values => exact confines_pure (results values rfl)
    · refine (ObjectId.readMember?_confined confined (kept.mono grows)
        (grows _ (within_reference.mp objectSafe)) name false).bind
        fun _ more member memberSafe => ?_
      have grown := le_trans grows more
      split
      · next function =>
        exact confined _ _ _ _ (inside.mono grown) (within_reference.mp (memberSafe _ rfl))
          (within.mono grown)
      · exact Confines.of_view fun _ => confines_throw _
  · have all : AllWithin safe (object :: arguments) := allWithin_cons.mpr ⟨objectSafe, within⟩
    have kept : (context.keep (object :: arguments)).Within safe := inside
    refine (Value.index_confined confined kept objectSafe (within_text name)).bind
      fun _ grows method methodSafe => ?_
    exact Value.apply_confined confined (inside.mono grows) methodSafe (all.mono grows)

/-! ## Code of the host -/

/-- An operation of the host that is about safe values is confined. -/
theorem HostOperation.perform_confined (held : List Reference) {operation : HostOperation}
    (within : AllWithin safe operation.values) :
    Confines safe AllWithin (operation.perform call held) := by
  have single {action : Action Value} (confined : Confines safe Value.Within action) :
      Confines safe AllWithin (do return [← action]) :=
    confined.bind fun _ _ value valueSafe =>
      confines_pure (allWithin_cons.mpr ⟨valueSafe, allWithin_nil⟩)
  have placed {environment : Option EnvironmentId} {rest : List Value}
      (within : AllWithin safe (environment.toList.map .environment ++ rest)) :
      Context.Within safe { environment, held } ∧ AllWithin safe rest := by
    refine ⟨fun id known => ?_, within.subset (List.subset_append_right _ _)⟩
    refine within_reference.mp (within (.environment id) (List.mem_append_left _ ?_))
    obtain rfl : environment = some id := known
    exact List.mem_singleton.mpr rfl
  cases operation with
  | display value => exact Confines.of_view fun _ => confines_pure (by simp)
  | makeTable =>
    exact (confines_newTable .empty).bind fun _ _ id holds => confines_pure (by simpa using holds)
  | get table key =>
    obtain ⟨tableSafe, -⟩ := allWithin_cons.mp within
    exact Confines.view_table (within_reference.mp tableSafe) fun table known =>
      confines_pure (by simpa using known.get key)
  | set table key value =>
    obtain ⟨tableSafe, rest⟩ := allWithin_cons.mp within
    obtain ⟨keySafe, rest⟩ := allWithin_cons.mp rest
    exact single (confines_rawSet (within_reference.mp tableSafe) keySafe (allWithin_cons.mp rest).1)
  | entries table =>
    obtain ⟨tableSafe, -⟩ := allWithin_cons.mp within
    exact Confines.view_table (within_reference.mp tableSafe) fun table known =>
      confines_pure known.entries
  | length table => exact Confines.of_view fun _ => confines_pure (by simp)
  | remembered key =>
    exact Confines.view_bind (Table.Within safe) (fun _ guards => guards.memory) fun memory known =>
      confines_pure (by simpa using known.get key)
  | remember key value =>
    obtain ⟨keySafe, rest⟩ := allWithin_cons.mp within
    exact single (confines_remember keySafe (allWithin_cons.mp rest).1)
  | index environment object key =>
    obtain ⟨inside, rest⟩ := placed within
    obtain ⟨objectSafe, rest⟩ := allWithin_cons.mp rest
    exact single (Value.index_confined confined inside objectSafe (allWithin_cons.mp rest).1)
  | store environment object key value =>
    obtain ⟨holds, rest⟩ := allWithin_cons.mp within
    obtain ⟨objectSafe, rest⟩ := allWithin_cons.mp rest
    obtain ⟨keySafe, rest⟩ := allWithin_cons.mp rest
    exact (Value.store_confined confined held (within_reference.mp holds) objectSafe keySafe
      (allWithin_cons.mp rest).1).bind fun _ _ _ _ => confines_pure allWithin_nil
  | call environment callee arguments =>
    obtain ⟨inside, rest⟩ := placed within
    obtain ⟨calleeSafe, argumentsSafe⟩ := allWithin_cons.mp rest
    exact Value.apply_confined confined inside calleeSafe argumentsSafe
  | method environment object name arguments =>
    obtain ⟨inside, rest⟩ := placed within
    obtain ⟨objectSafe, argumentsSafe⟩ := allWithin_cons.mp rest
    exact Value.applyMethod_confined confined inside objectSafe name argumentsSafe

/-- Code of the host that brings in safe things is confined, and what it gives is safe. A reference
enters a run from the code or from a reply. -/
theorem HostCode.run_confined {Result : Type} {gives : Result → Reference → Prop}
    (held : List Reference) {code : HostCode Result}
    (known : ∀ target, code.Refers gives target → safe target) :
    Confines safe (fun wide result => gives result ≤ wide) (code.run call held) := by
  induction code generalizing safe held with
  | done result => exact confines_pure fun target given => known target (.result given)
  | step operation next ih =>
    have values : AllWithin safe operation.values := by
      rintro value member target rfl
      exact known target (.operation member)
    refine (HostOperation.perform_confined confined held values).attempt.bind
      fun _ grows reply replied => ?_
    refine ih reply _ fun target refers => ?_
    by_cases seen : HostReply.Shows reply target
    · cases reply with
      | ok values => exact replied values rfl _ seen target rfl
      | error failure => exact False.elim seen
    · exact grows _ (known target (.later seen refers))

/-- A routine that brings in safe things is confined for safe arguments. -/
theorem Routine.run_confined (held : List Reference) {routine : Routine}
    (known : routine.Refers ≤ safe) {arguments : List Value}
    (within : AllWithin safe arguments) :
    Confines safe AllWithin (routine.run call held arguments) := by
  have code : (routine arguments).Refers HostReply.Shows ≤ safe := by
    intro target refers
    by_cases among : .reference target ∈ arguments
    · exact within _ among target rfl
    · exact known target ⟨arguments, among, refers⟩
  refine (HostCode.run_confined confined held code).bind fun _ _ reply shown => ?_
  refine confines_ofOutcome fun values replied => ?_
  rintro value member target rfl
  subst replied
  exact shown target member

omit confined in
/-- The overload that is selected is one of the group. -/
theorem MethodGroup.mem_of_select {group : MethodGroup} {count : Nat} {overload : Overload}
    (selected : group.select count = some overload) : overload ∈ group.overloads := by
  unfold select at selected
  split at selected
  · next fixed =>
    obtain rfl := Option.some.inj selected
    exact List.mem_of_find?_eq_some fixed
  · exact List.mem_of_find?_eq_some selected

/-- A group of overloads that bring in safe things is confined for safe arguments. -/
theorem MethodGroup.invoke_confined (held : List Reference) {group : MethodGroup}
    (known : group.Refers ≤ safe) {arguments : List Value}
    (within : AllWithin safe arguments) :
    Confines safe AllWithin (group.invoke call held arguments) := by
  unfold MethodGroup.invoke
  split
  · next overload selected =>
    exact Routine.run_confined confined held
      (fun target refers => known target ⟨overload, mem_of_select selected, refers⟩) within
  · exact confines_throw _

end Calls

/-! ## Frames -/

/-- The environment of a frame is safe, and so are its locals and its extra arguments. -/
structure Frame.Within (safe : Reference → Prop) (frame : Frame) : Prop where
  environment : safe (.environment frame.environment)
  locals : ∀ entry ∈ frame.locals, entry.2.Within safe
  extras : AllWithin safe frame.extras

namespace Frame.Within

variable {frame : Frame} (within : frame.Within safe)
include within

/-- A safe frame stays safe where more things are. -/
theorem mono (grows : safe ≤ wide) : frame.Within wide where
  environment := grows _ within.environment
  locals := fun entry member => (within.locals entry member).mono grows
  extras := within.extras.mono grows

/-- A frame that holds more values is as safe. -/
theorem keep (values : List Value) : (frame.keep values).Within safe := { within with }

/-- A frame that holds more values is as safe. -/
theorem keepTable (table : Table) : (frame.keepTable table).Within safe := { within with }

/-- What a frame calls runs in its environment. -/
theorem context : frame.context.Within safe :=
  fun _ same => Option.some.inj same ▸ within.environment

/-- A safe local leaves a frame safe. -/
theorem declare (name : String) {value : Value} (valueSafe : value.Within safe) :
    (frame.declare name value).Within safe where
  environment := within.environment
  locals := by
    have put : ∀ locals : List (String × Value), (∀ entry ∈ locals, entry.2.Within safe) →
        ∀ entry ∈ Frame.put name value locals, entry.2.Within safe := by
      intro locals known
      induction locals with
      | nil => exact List.forall_mem_singleton.mpr valueSafe
      | cons first rest ih =>
        obtain ⟨other, old⟩ := first
        obtain ⟨oldSafe, others⟩ := List.forall_mem_cons.mp known
        unfold Frame.put
        split
        · exact List.forall_mem_cons.mpr ⟨valueSafe, others⟩
        · exact List.forall_mem_cons.mpr ⟨oldSafe, ih others⟩
    exact put frame.locals within.locals
  extras := within.extras

omit within in
/-- Safe locals leave a frame safe. -/
theorem declareNames {frame : Frame} (within : frame.Within safe) (names : List String)
    {values : List Value} (valuesSafe : AllWithin safe values) :
    (declareNames frame names values).Within safe := by
  induction names generalizing frame values with
  | nil => exact within
  | cons name rest ih =>
    exact ih (within.declare name valuesSafe.headD) (valuesSafe.subset (List.drop_subset _ _))

end Frame.Within

/-- Safe values placed at positions leave a table safe. -/
theorem placeValues_within {table : Table} (within : table.Within safe) (position : Nat)
    {values : List Value} (valuesSafe : AllWithin safe values) :
    (placeValues table position values).Within safe := by
  induction values generalizing table position with
  | nil => exact within
  | cons value rest ih =>
    obtain ⟨first, others⟩ := allWithin_cons.mp valuesSafe
    exact ih (within.write (fun _ same => Key.noConfusion same) first) _ others

/-- A single safe value is confined. -/
theorem confines_single {value : Value} (within : value.Within safe) :
    Confines safe AllWithin (pure [value] : Action (List Value)) :=
  confines_pure (allWithin_cons.mpr ⟨within, allWithin_nil⟩)

/-! ## Expressions -/

/-- Looking a name up in a safe frame is confined. -/
theorem lookupName_confined {call : Caller} (confined : call.Confines) {frame : Frame}
    (within : frame.Within safe) (name : String) :
    Confines safe Value.Within (lookupName call frame name) := by
  unfold lookupName
  split
  · next value found => exact confines_pure (within.locals _ (mem_of_lookup found))
  · exact Environment.getGlobal_confined confined within.environment _ name

mutual

/-- Evaluating an expression in a safe frame is confined. -/
theorem evaluate_confined {call : Caller} (confined : call.Confines) {safe : Reference → Prop}
    {frame : Frame} (within : frame.Within safe) :
    (expression : Expression) → Confines safe AllWithin (evaluate call frame expression)
  | .nil | .boolean _ | .integer _ | .number _ | .text _ => by
    rw [evaluate]
    exact confines_single (by simp)
  | .varargs => by
    rw [evaluate]
    exact confines_pure within.extras
  | .name name => by
    rw [evaluate]
    exact (lookupName_confined confined within name).bind fun _ _ _ => confines_single
  | .index object key => by
    rw [evaluate]
    refine (evaluate_confined confined within object).bind fun _ grows object objectSafe => ?_
    have within := within.mono grows
    refine (evaluate_confined confined (within.keep _) key).bind fun _ more key keySafe => ?_
    exact (Value.index_confined confined (within.mono more).context (objectSafe.mono more).headD
      keySafe.headD).bind fun _ _ _ => confines_single
  | .call callee arguments => by
    rw [evaluate]
    refine (evaluate_confined confined within callee).bind fun _ grows callee calleeSafe => ?_
    have within := within.mono grows
    refine (evaluateList_confined confined (within.keep _) arguments).bind
      fun _ more arguments argumentsSafe => ?_
    exact Value.apply_confined confined (within.mono more).context (calleeSafe.mono more).headD
      argumentsSafe
  | .method object name arguments => by
    rw [evaluate]
    refine (evaluate_confined confined within object).bind fun _ grows object objectSafe => ?_
    have within := within.mono grows
    refine (evaluateList_confined confined (within.keep _) arguments).bind
      fun _ more arguments argumentsSafe => ?_
    exact Value.applyMethod_confined confined (within.mono more).context
      (objectSafe.mono more).headD name argumentsSafe
  | .binary op left right => by
    have both (op : BinaryOperator) :
        Confines safe AllWithin (do
          let left := firstValue (← evaluate call frame left)
          let right := firstValue (← evaluate call (frame.keep [left]) right)
          return [← ofFaulty (left.operate op right)]) := by
      refine (evaluate_confined confined within left).bind fun _ grows left _ => ?_
      refine (evaluate_confined confined ((within.mono grows).keep _) right).bind
        fun _ _ right _ => ?_
      exact confines_ofFaulty_bind fun _ given => confines_single (Value.operate_within given)
    cases op with
    | and =>
      rw [evaluate]
      refine (evaluate_confined confined within left).bind fun _ grows left leftSafe => ?_
      dsimp only
      split
      · exact (evaluate_confined confined ((within.mono grows).keep _) right).bind
          fun _ _ _ rightSafe => confines_single rightSafe.headD
      · exact confines_single leftSafe.headD
    | or =>
      rw [evaluate]
      refine (evaluate_confined confined within left).bind fun _ grows left leftSafe => ?_
      dsimp only
      split
      · exact confines_single leftSafe.headD
      · exact (evaluate_confined confined ((within.mono grows).keep _) right).bind
          fun _ _ _ rightSafe => confines_single rightSafe.headD
    | _ =>
      rw [evaluate]
      exact both _
      all_goals simp
  | .unary op operand => by
    cases op with
    | not =>
      rw [evaluate]
      exact (evaluate_confined confined within operand).bind fun _ _ _ _ =>
        confines_single (within_boolean _)
    | minus =>
      rw [evaluate]
      refine (evaluate_confined confined within operand).bind fun _ _ operand _ => ?_
      exact confines_ofFaulty_bind fun _ given => confines_single (Value.negate_within given)
  | .table fields => by
    rw [evaluate]
    refine (evaluateFields_confined confined within .empty 1 fields).bind fun _ _ table known => ?_
    exact (confines_newTable known).bind fun _ _ made madeSafe =>
      confines_single (within_reference.mpr madeSafe)
  | .paren inner => by
    rw [evaluate]
    exact (evaluate_confined confined within inner).bind fun _ _ _ valuesSafe =>
      confines_single valuesSafe.headD

/-- Evaluating a list of expressions in a safe frame is confined. -/
theorem evaluateList_confined {call : Caller} (confined : call.Confines) {safe : Reference → Prop}
    {frame : Frame} (within : frame.Within safe) : (expressions : List Expression) →
      Confines safe AllWithin (evaluateList call frame expressions)
  | [] => by
    rw [evaluateList]
    exact confines_pure allWithin_nil
  | [last] => by
    rw [evaluateList]
    exact evaluate_confined confined within last
  | expression :: next :: rest => by
    rw [evaluateList]
    · refine (evaluate_confined confined within expression).bind fun _ grows first firstSafe => ?_
      refine (evaluateList_confined confined ((within.mono grows).keep _) (next :: rest)).bind
        fun _ more others othersSafe => confines_pure ?_
      exact allWithin_cons.mpr ⟨(firstSafe.mono more).headD, othersSafe⟩
    · simp

/-- Evaluating fields in a safe frame is confined, and the table is safe. -/
theorem evaluateFields_confined {call : Caller} (confined : call.Confines)
    {safe : Reference → Prop} {frame : Frame} (within : frame.Within safe) {table : Table}
    (known : table.Within safe) (position : Nat) :
    (fields : List Field) →
      Confines safe Table.Within (evaluateFields call frame table position fields)
  | [] => by
    rw [evaluateFields]
    exact confines_pure known
  | [.positional last] => by
    rw [evaluateFields]
    exact (evaluate_confined confined (within.keepTable _) last).bind fun _ grows _ valuesSafe =>
      confines_pure (placeValues_within (known.mono grows) position valuesSafe)
  | .positional value :: next :: rest => by
    rw [evaluateFields]
    · refine (evaluate_confined confined (within.keepTable _) value).bind
        fun _ grows _ valueSafe => ?_
      refine evaluateFields_confined confined (within.mono grows)
        (placeValues_within (known.mono grows) position ?_) _ (next :: rest)
      exact allWithin_cons.mpr ⟨valueSafe.headD, allWithin_nil⟩
    · simp
  | .keyed key value :: rest => by
    rw [evaluateFields]
    refine (evaluate_confined confined (within.keepTable _) key).bind fun _ grows key keySafe => ?_
    have within := within.mono grows
    refine (evaluate_confined confined ((within.keepTable _).keep _) value).bind
      fun _ more value valueSafe => ?_
    refine confines_ofFaulty_bind fun changed set => ?_
    have known := known.mono (le_trans grows more)
    exact evaluateFields_confined confined (within.mono more)
      (known.set (keySafe.mono more).headD valueSafe.headD set).2 position rest

end

/-! ## Statements and chunks -/

section Calls

variable {call : Caller} (confined : call.Confines) {frame : Frame}
  (within : frame.Within safe)
include confined within

omit confined in
/-- Assigning a safe value to a name in a safe frame is confined, and leaves the frame safe. -/
theorem assignName_confined (name : String) {value : Value} (valueSafe : value.Within safe) :
    Confines safe Frame.Within (assignName frame name value) := by
  unfold assignName
  split
  · exact confines_pure (within.declare name valueSafe)
  · exact (Environment.setGlobal_confined within.environment name valueSafe).bind
      fun _ grows _ _ => confines_pure (within.mono grows)

/-- Assigning safe values to a target in a safe frame is confined, and leaves the frame safe. -/
theorem assignTarget_confined (target : Expression) {values : List Value}
    (valuesSafe : AllWithin safe values) :
    Confines safe Frame.Within (assignTarget call frame target values) := by
  unfold assignTarget
  split
  · exact assignName_confined within _ valuesSafe.headD
  · refine (evaluate_confined confined (within.keep _) _).bind fun _ grows object objectSafe => ?_
    have within := within.mono grows
    refine (evaluate_confined confined ((within.keep _).keep _) _).bind
      fun _ more key keySafe => ?_
    have within := within.mono more
    have valuesSafe := valuesSafe.mono (le_trans grows more)
    exact (Value.store_confined confined _ within.environment (objectSafe.mono more).headD
      keySafe.headD valuesSafe.headD).bind fun _ most _ _ => confines_pure (within.mono most)
  · exact confines_throw _

omit within in
/-- Assigning safe values to targets in a safe frame is confined, and leaves the frame safe. -/
theorem assignTargets_confined {frame : Frame} (within : frame.Within safe)
    (targets : List Expression) {values : List Value} (valuesSafe : AllWithin safe values) :
    Confines safe Frame.Within (assignTargets call frame targets values) := by
  induction targets generalizing safe frame values with
  | nil => exact confines_pure within
  | cons target rest ih =>
    unfold assignTargets
    exact (assignTarget_confined confined within target valuesSafe).bind
      fun _ grows frame within =>
        ih within ((valuesSafe.mono grows).subset (List.drop_subset _ _))

/-- Running a statement in a safe frame is confined, and leaves the frame safe. -/
theorem execute_confined (statement : Statement) :
    Confines safe Frame.Within (execute call frame statement) := by
  cases statement with
  | declare names values =>
    exact (evaluateList_confined confined within values).bind fun _ grows values valuesSafe =>
      confines_pure ((within.mono grows).declareNames names valuesSafe)
  | assign targets values =>
    exact (evaluateList_confined confined within values).bind fun _ grows values valuesSafe =>
      assignTargets_confined confined (within.mono grows) targets valuesSafe
  | run expression =>
    exact (evaluate_confined confined within expression).bind fun _ grows _ _ =>
      confines_pure (within.mono grows)

omit within in
/-- Running statements in a safe frame is confined, and leaves the frame safe. -/
theorem runStatements_confined {frame : Frame} (within : frame.Within safe)
    (statements : List Statement) :
    Confines safe Frame.Within (runStatements call frame statements) := by
  induction statements generalizing safe frame with
  | nil => exact confines_pure within
  | cons statement rest ih =>
    unfold runStatements
    exact (execute_confined confined within statement).bind fun _ _ frame within => ih within

/-- Running a block in a safe frame is confined. -/
theorem runBlock_confined (block : Block) :
    Confines safe AllWithin (runBlock call frame block) := by
  unfold runBlock
  refine (runStatements_confined confined within _).bind fun _ _ frame within => ?_
  split
  · exact evaluateList_confined confined within _
  · exact confines_pure allWithin_nil

end Calls

section Calls

variable {call : Caller} (confined : call.Confines)
include confined

omit confined in
/-- What compiled code brings in comes from the compiler. -/
theorem Compiler.refers_of_code {compiler : Compiler} {name source : String}
    {parameters : List String} {code : Code}
    (compiled : compiler.code name source parameters = .ok code) {target : Reference}
    (refers : code.Refers target) : compiler.Refers target := by
  cases compiler with
  | script =>
    unfold Compiler.code at compiled
    dsimp only at compiled
    split at compiled
    · obtain rfl := Except.ok.inj compiled
      exact refers
    · contradiction
  | host compile =>
    change (compile name source parameters.length).map Code.host = .ok code at compiled
    cases made : compile name source parameters.length with
    | error failure =>
      rw [made] at compiled
      contradiction
    | ok routine =>
      rw [made] at compiled
      obtain rfl := Except.ok.inj compiled
      exact ⟨name, source, parameters.length, routine, made, refers⟩

/-- Running code that brings in safe things with safe arguments is confined. -/
theorem Code.run_confined (held : List Reference) {arguments : List Value}
    (argumentsSafe : AllWithin safe arguments) {code : Code}
    (known : code.Refers ≤ safe) :
    Confines safe AllWithin (code.run call held arguments) := by
  cases code with
  | script block parameters =>
    unfold Code.run runScript
    dsimp only
    split
    · next environment rest =>
      obtain ⟨first, others⟩ := allWithin_cons.mp argumentsSafe
      have fresh : Frame.Within safe
          { environment, extras := rest.drop parameters.length, held } :=
        { environment := within_reference.mp first
          locals := fun _ member => absurd member List.not_mem_nil
          extras := others.subset (List.drop_subset _ _) }
      exact runBlock_confined confined (fresh.declareNames parameters others) block
    · exact confines_throw _
  | host routine => exact confined _ { held } _ _ nofun (Routine.callee_within known) argumentsSafe

namespace Environment

/-- What the code of a chunk brings in is safe. -/
def ChunkWithin (safe : Reference → Prop) (chunk : Chunk) : Prop :=
  ∀ code, chunk.code = some code → code.Refers ≤ safe

omit confined in
/-- Compiling in a safe environment is confined. -/
theorem compile_confined {id : EnvironmentId} (holds : safe (.environment id))
    (name source : String) (parameters : List (String × Hint)) :
    Confines safe ChunkWithin (compile id name source parameters) := by
  unfold compile
  split
  · exact confines_throw _
  · refine Confines.view_environment holds fun environment known => ?_
    dsimp only
    split
    · next code compiled =>
      refine confines_pure fun made same target refers => known target (.compiler ?_)
      obtain rfl := Option.some.inj same
      exact Compiler.refers_of_code compiled refers
    · exact confines_throw _

section Runs

variable {id : EnvironmentId} (holds : safe (.environment id))
include holds

/-- Running a chunk in a safe environment with safe arguments is confined. -/
theorem runChunk_confined (held : List Reference) {chunk : Chunk} (known : ChunkWithin safe chunk)
    {arguments : List Value} (argumentsSafe : AllWithin safe arguments) :
    Confines safe AllWithin (runChunk call held id chunk arguments) := by
  unfold runChunk
  split
  · next code compiled =>
    exact Code.run_confined confined held
      (allWithin_cons.mpr ⟨within_reference.mpr holds, argumentsSafe⟩) (known code compiled)
  · exact confines_throw _

variable {arguments : List (String × Value)} (argumentsSafe : AllWithin safe (arguments.map (·.2)))
include argumentsSafe

/-- Running a source in a safe environment with safe arguments is confined. -/
theorem doString_confined (held : List Reference) (source name : String) :
    Confines safe AllWithin (doString call held id source name arguments) := by
  unfold doString
  exact (compile_confined holds name source _).bind fun _ grows chunk known =>
    runChunk_confined confined (grows _ holds) _ known (argumentsSafe.mono grows)

/-- Running a file in a safe environment with safe arguments is confined. -/
theorem doFile_confined (held : List Reference) (path : String) :
    Confines safe AllWithin (doFile call held id path arguments) := by
  unfold doFile
  refine Confines.of_view fun text => ?_
  split
  · exact doString_confined confined holds argumentsSafe _ _ _
  · exact confines_throw _

/-- Running bytes in a safe environment with safe arguments is confined. -/
theorem doBytes_confined (held : List Reference) (content : ByteArray) (name : String) :
    Confines safe AllWithin (doBytes call held id content name arguments) := by
  unfold doBytes
  split
  · exact doString_confined confined holds argumentsSafe _ _ _
  · exact confines_throw _

end Runs

end Environment

end Calls

/-! ## The core functions -/

namespace Core

section Environments

variable {context : Context} (inside : context.Within safe)
include inside

/-- Counting the memory is confined. -/
theorem memoryCount_confined : Confines safe AllWithin (memoryCount context) := by
  unfold memoryCount
  refine Confines.required_bind inside _ fun id holds => ?_
  refine Confines.of_view fun environment => ?_
  exact confines_pure (by simp)

/-- Heap queries are confined. -/
theorem collectGarbage_confined (arguments : List Value) :
    Confines safe AllWithin (collectGarbage context arguments) := by
  unfold collectGarbage
  split
  · exact confines_pure allWithin_nil
  · refine Confines.of_view fun option => ?_
    split
    · refine Confines.required_bind inside _ fun id holds => ?_
      exact (Environment.collect_confined holds).bind fun _ grows _ _ =>
        memoryCount_confined (inside.mono grows)
    · exact memoryCount_confined inside
    · exact confines_single (within_boolean _)
    · exact confines_pure allWithin_nil

/-- Printing is confined. -/
theorem print_confined (arguments : List Value) :
    Confines safe AllWithin (print context arguments) := by
  have done {wide : Reference → Prop} : Confines wide AllWithin (pure [] : Action (List Value)) :=
    confines_pure allWithin_nil
  unfold print
  dsimp only
  split
  · split
    · next id known =>
      refine Confines.of_view fun line => ?_
      exact (Environment.printLine_confined (inside id known) line).bind fun _ _ _ _ => done
    · exact done
  · exact done

end Environments

section Arguments

variable {arguments : List Value} (within : AllWithin safe arguments)
include within

/-- Checking a condition is confined for safe arguments. -/
theorem assert_confined : Confines safe AllWithin (assert arguments) := by
  unfold assert
  dsimp only
  split
  · exact confines_single (Arguments.value_within within 0)
  · split
    · exact confines_throw _
    · exact Confines.of_view fun _ => confines_throw _

/-- The table that is found among safe arguments is safe. -/
theorem tableArgument_confined (function : String) :
    Confines safe (fun wide id => wide (.table id)) (tableArgument arguments function) := by
  unfold tableArgument
  split
  · next id found =>
    exact confines_pure (within_reference.mp (found ▸ Arguments.value_within within 0))
  · exact confines_throw _

/-- Reading a table is confined for safe arguments. -/
theorem rawGet_confined : Confines safe AllWithin (rawGet arguments) := by
  unfold rawGet
  refine (tableArgument_confined within _).bind fun _ _ id holds => ?_
  exact Confines.view_table holds fun table known => confines_single (known.get _)

/-- Writing to a table is confined for safe arguments. -/
theorem rawSet_confined {context : Context} (inside : context.Within safe) :
    Confines safe AllWithin (rawSet context arguments) := by
  unfold rawSet
  refine (tableArgument_confined within _).bind fun _ grows id holds => ?_
  have inside := inside.mono grows
  have keySafe := Arguments.value_within (within.mono grows) 1
  have valueSafe := Arguments.value_within (within.mono grows) 2
  dsimp only
  split
  · exact confines_throw _
  · split
    · next environment known =>
      exact (Environment.storeInTable_confined (inside environment known) holds keySafe
        valueSafe).bind fun _ more _ _ => confines_single (within_reference.mpr (more _ holds))
    · exact (confines_rawSet holds keySafe valueSafe).bind fun _ more _ _ =>
        confines_single (within_reference.mpr (more _ holds))

/-- Selecting among safe arguments is confined. -/
theorem select_confined : Confines safe AllWithin (select arguments) := by
  unfold select
  split
  · exact confines_throw _
  · exact confines_single (within_ofNat _)
  · next selector rest _ =>
    split
    · obtain ⟨-, others⟩ := allWithin_cons.mp within
      refine confines_pure ?_
      unfold selected
      split <;> exact others.subset (List.drop_subset _ _)
    · exact confines_throw _

omit within in
/-- Measuring a value is confined. -/
theorem rawLen_confined (arguments : List Value) :
    Confines safe AllWithin (rawLen arguments) := by
  have rest (length : Nat) : Confines safe AllWithin
      (pure [.ofNat length] : Action (List Value)) :=
    confines_single (within_ofNat length)
  unfold rawLen
  split
  · exact (plain_pure _).confines_bind fun _ _ => rest _
  · exact Confines.of_view fun _ => rest _
  · exact Confines.of_view fun _ => rest _
  · exact (plain_pure _).confines_bind fun _ _ => rest _

omit within in
/-- Converting to a number is confined. -/
theorem toNumber_confined (arguments : List Value) :
    Confines safe AllWithin (toNumber arguments) := by
  unfold toNumber
  refine (numberBase_plain arguments).confines_bind fun base _ => ?_
  split
  · next result converted => exact confines_single (Value.toNumber_within converted)
  · exact confines_throw _

omit within in
/-- Converting to a text is confined. -/
theorem toString_confined (arguments : List Value) :
    Confines safe AllWithin (toString arguments) := by
  unfold toString
  split
  · exact confines_single within_nil
  · exact Confines.of_view fun _ =>
      confines_single (within_text _)

end Arguments

end Core

/-! ## Calls -/

section Calls

variable {call : Caller} (confined : call.Confines) {arguments : List Value}
  (within : AllWithin safe arguments)
include confined within

/-- A core function is confined in a safe environment for safe arguments. -/
theorem CoreFunction.run_confined {context : Context} (inside : context.Within safe)
    (function : CoreFunction) :
    Confines safe AllWithin (function.run call context arguments) := by
  cases function with
  | assert => exact Core.assert_confined within
  | collectgarbage => exact Core.collectGarbage_confined inside arguments
  | dofile =>
    unfold CoreFunction.run Core.doFile
    dsimp only
    split
    · refine Confines.required_bind inside _ fun id holds => ?_
      exact Environment.doFile_confined confined holds allWithin_nil _ _
    · exact confines_throw _
  | error =>
    exact Confines.of_view fun _ => confines_throw _
  | print => exact Core.print_confined inside arguments
  | rawequal => exact confines_single (within_boolean _)
  | rawget => exact Core.rawGet_confined within
  | rawlen => exact Core.rawLen_confined arguments
  | rawset => exact Core.rawSet_confined within inside
  | select => exact Core.select_confined within
  | tonumber => exact Core.toNumber_confined arguments
  | tostring => exact Core.toString_confined arguments
  | type => exact confines_single (within_text _)

/-- A function that refers to safe things is confined in a safe environment for safe arguments. -/
theorem Callable.run_confined {caller : Context} (inside : caller.Within safe)
    {function : Callable} (known : function.Refers ≤ safe) :
    Confines safe AllWithin (function.run call caller arguments) := by
  have kept : (caller.keep arguments).Within safe := inside
  have body (target : Reference) (refers : function.body.Refers target) : safe target :=
    known target (.body refers)
  have home : Confines safe Context.Within (function.context (caller.keep arguments)) := by
    unfold Callable.context
    split
    · next id home =>
      refine Confines.of_view fun live => ?_
      split
      · exact confines_pure fun other same => Option.some.inj same ▸ known _ (.home home)
      · exact confines_throw _
    · exact confines_pure kept
  unfold Callable.run
  dsimp only
  split
  · next builtin _ =>
    refine home.bind fun _ grows context inside => ?_
    cases builtin with
    | core function => exact CoreFunction.run_confined confined (within.mono grows) inside function
    | library function => exact LibraryFunction.run_confined context (within.mono grows) function
  · next code same =>
    rw [same] at body
    refine Routine.run_confined confined _ (fun target refers => ?_) within
    by_cases here : ∀ id ∈ caller.environment, target ≠ .environment id
    · exact body target ⟨caller.environment, here, refers⟩
    · push Not at here
      obtain ⟨id, known, rfl⟩ := here
      exact inside id known
  · next group same =>
    rw [same] at body
    exact MethodGroup.invoke_confined confined _ body within

end Calls

/-- Calls within any depth are confined. -/
theorem callWithin_confines (depth : Nat) : (callWithin depth).Confines := by
  induction depth with
  | zero => exact fun _ _ _ _ _ _ _ => confines_throw _
  | succ depth ih =>
    intro safe context callee arguments inside calleeSafe within
    unfold callWithin
    refine Confines.view_bind (fun callable => callable.Refers ≤ safe) ?_
      fun callable known => Callable.run_confined ih within inside known
    intro world guards
    cases callee with
    | function id => exact guards.functions id calleeSafe
    | body code =>
      rintro target (⟨⟨⟩⟩ | refers)
      exact calleeSafe target refers

/-- Calls are confined. -/
theorem caller_confines : caller.Confines := callWithin_confines callDepth

end ScriptHost
