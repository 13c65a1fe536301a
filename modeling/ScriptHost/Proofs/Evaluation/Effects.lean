import ScriptHost.Evaluation.Call
import ScriptHost.Proofs.Environment.Operations
import ScriptHost.Proofs.Host.Effects

/-!
# Effects of running code

The evaluator and code of the host do nothing to the world that is not one of the changes
of scripts, given that of the calls they make. Calls nest to a bounded depth, so by
induction on that depth the same holds of every call, and with it of every script.
Expressions without calls keep whatever reading keeps.
-/

namespace ScriptHost

open ScriptHost.Action Script World

/-- The name that a key stands for is found without a change. -/
theorem keyName_plain (object key : Value) : Plain (keyName object key) := by
  unfold keyName
  split
  · exact plain_pure _
  · exact plain_throw _

/-! ## Tables that constructors make -/

/-- Values placed at positions are writes. -/
theorem placeValues_written {table : Table} (written : table.Written) (position : Nat)
    (values : List Value) : (placeValues table position values).Written := by
  induction values generalizing table position with
  | nil => exact written
  | cons value rest ih => exact ih (written.write _ value) _

/-- A table with one more entry set is one more write. -/
theorem set_written {table : Table} (written : table.Written) {key value : Value}
    {changed : Value × Table} (set : table.set key value = .ok changed) : changed.2.Written := by
  unfold Table.set at set
  split at set
  · obtain rfl := Except.ok.inj set
    exact written.write _ value
  · contradiction

/-- A table constructor gives a table that writes have made. -/
theorem evaluateFields_written (call : Caller) (frame : Frame) (table : Table)
    (written : table.Written) (position : Nat) (fields : List Field) :
    Gives Table.Written (evaluateFields call frame table position fields) := by
  induction fields generalizing table position with
  | nil =>
    rw [evaluateFields]
    exact gives_pure written
  | cons field rest ih =>
    cases field with
    | positional value =>
      cases rest with
      | nil =>
        rw [evaluateFields]
        exact Gives.bind fun values => gives_pure (placeValues_written written _ _)
      | cons next rest =>
        rw [evaluateFields]
        · exact Gives.bind fun values => ih _ (placeValues_written written _ _) _
        · simp
    | keyed key value =>
      rw [evaluateFields]
      refine Gives.bind fun keys => Gives.bind fun values => ?_
      dsimp only
      cases set : table.set (firstValue keys) (firstValue values) with
      | error cause =>
        intro world result given
        contradiction
      | ok changed => exact ih _ (set_written written set) _

/-! ## Expressions that give one value -/

/-- Calls and `...` apart, an expression gives one value, so the last one of a list adds one value
unless it is one of these. -/
theorem evaluate_gives_one (call : Caller) (frame : Frame) {expression : Expression}
    (single : expression.isMultiple = false) :
    Gives (fun values => ∃ value, values = [value]) (evaluate call frame expression) := by
  have one {Result : Type} {action : Action Result} {value : Result → Value} :
      Gives (fun values => ∃ value, values = [value]) (do return [value (← action)]) :=
    Gives.bind fun _ => gives_pure ⟨_, rfl⟩
  cases expression with
  | varargs | call | method => contradiction
  | nil | boolean | integer | number | text =>
    rw [evaluate]
    exact gives_pure ⟨_, rfl⟩
  | name name =>
    rw [evaluate]
    exact one
  | index object key =>
    rw [evaluate]
    exact Gives.bind fun _ => Gives.bind fun _ => one
  | binary op left right =>
    cases op with
    | and =>
      rw [evaluate]
      refine Gives.bind fun _ => ?_
      dsimp only
      split
      · exact one
      · exact gives_pure ⟨_, rfl⟩
    | or =>
      rw [evaluate]
      refine Gives.bind fun _ => ?_
      dsimp only
      split
      · exact gives_pure ⟨_, rfl⟩
      · exact one
    | _ =>
      rw [evaluate]
      · exact Gives.bind fun _ => Gives.bind fun _ => one
      all_goals simp
  | unary op operand =>
    cases op with
    | not =>
      rw [evaluate]
      exact one
    | minus =>
      rw [evaluate]
      exact Gives.bind fun _ => one
  | table fields =>
    rw [evaluate]
    exact Gives.bind fun _ => one
  | paren inner =>
    rw [evaluate]
    exact one
/-! ## Expressions without calls -/

mutual

/-- Expressions in which nothing is called. -/
def Script.Expression.CallFree : Expression → Prop
  | .nil | .boolean _ | .integer _ | .number _ | .text _ | .varargs | .name _ => True
  | .index object key => object.CallFree ∧ key.CallFree
  | .call _ _ | .method _ _ _ => False
  | .binary _ left right => left.CallFree ∧ right.CallFree
  | .unary _ operand => operand.CallFree
  | .table fields => Field.AllCallFree fields
  | .paren inner => inner.CallFree

/-- Fields of a table in which nothing is called. -/
def Script.Field.AllCallFree : List Field → Prop
  | [] => True
  | .positional value :: rest => value.CallFree ∧ Field.AllCallFree rest
  | .keyed key value :: rest => (key.CallFree ∧ value.CallFree) ∧ Field.AllCallFree rest

end

/-! ## What expressions keep -/

section Keeps

variable {relates : World → World → Prop} [IsPreorder World relates]

/-- The calls of expressions keep a relation. -/
structure Caller.Calls (relates : World → World → Prop) (call : Caller) : Prop where
  value : ∀ context callee arguments,
    Action.Keeps relates (Value.apply call context callee arguments)
  method : ∀ context object name arguments,
    Action.Keeps relates (Value.applyMethod call context object name arguments)

variable {call : Caller}

/-- Reading a member keeps what reading keeps. -/
theorem Value.index_keeps_of (reads : call.Reads relates) (context : Context) (object key : Value) :
    Keeps relates (Value.index call context object key) := by
  unfold Value.index
  split
  · exact reads.hooked _ _ _
  · refine Keeps.bind (keyName_plain _ _).keeps fun name => ?_
    exact NodeId.readMember_keeps reads _ _ _ _
  · refine Keeps.bind (keyName_plain _ _).keeps fun name => ?_
    exact Keeps.bind (ObjectId.readMember?_keeps reads _ _ _ _) fun _ => keeps_pure _
  · refine Keeps.bind (keyName_plain _ _).keeps fun name => ?_
    exact reads.named _ _ _
  · exact keeps_throw _

/-- Looking a name up keeps what reading keeps. -/
theorem lookupName_keeps_of (reads : call.Reads relates) (frame : Frame) (name : String) :
    Keeps relates (lookupName call frame name) := by
  unfold lookupName
  split
  · exact keeps_pure _
  · exact reads.named _ _ _

mutual

/-- Evaluating an expression keeps what reading and its calls keep. -/
theorem evaluate_keeps_of (reads : call.Reads relates) (frame : Frame) : (expression : Expression) →
    (expression.CallFree ∨ call.Calls relates) → Keeps relates (evaluate call frame expression)
  | .nil, _ | .boolean _, _ | .integer _, _ | .number _, _ | .text _, _ | .varargs, _ => by
    rw [evaluate]
    exact keeps_pure _
  | .name name, _ => by
    rw [evaluate]
    exact Keeps.bind (lookupName_keeps_of reads frame name) fun _ => keeps_pure _
  | .index object key, calls => by
    have inObject := calls.imp_left And.left
    have inKey := calls.imp_left And.right
    rw [evaluate]
    refine Keeps.bind (evaluate_keeps_of reads frame object inObject) fun object => ?_
    refine Keeps.bind (evaluate_keeps_of reads _ key inKey) fun key => ?_
    exact Keeps.bind (Value.index_keeps_of reads _ _ _) fun _ => keeps_pure _
  | .call callee arguments, calls => by
    have called : call.Calls relates := calls.resolve_left id
    rw [evaluate]
    refine Keeps.bind (evaluate_keeps_of reads frame callee (.inr called)) fun callee => ?_
    refine Keeps.bind (evaluateList_keeps_of reads called _ arguments) fun arguments => ?_
    exact called.value _ _ _
  | .method object name arguments, calls => by
    have called : call.Calls relates := calls.resolve_left id
    rw [evaluate]
    refine Keeps.bind (evaluate_keeps_of reads frame object (.inr called)) fun object => ?_
    refine Keeps.bind (evaluateList_keeps_of reads called _ arguments) fun arguments => ?_
    exact called.method _ _ _ _
  | .binary op left right, calls => by
    have first := evaluate_keeps_of reads frame left (calls.imp_left And.left)
    have second (values : List Value) :=
      evaluate_keeps_of reads (frame.keep values) right (calls.imp_left And.right)
    have both (combine : Value → Value → Except TypeFault Value) :
        Keeps relates (do
          let left := firstValue (← evaluate call frame left)
          let right := firstValue (← evaluate call (frame.keep [left]) right)
          return [← ofFaulty (combine left right)]) := by
      refine Keeps.bind first fun left => ?_
      refine Keeps.bind (second _) fun right => ?_
      exact Keeps.bind (plain_ofFaulty _).keeps fun _ => keeps_pure _
    cases op with
    | and =>
      rw [evaluate]
      refine Keeps.bind first fun left => ?_
      dsimp only
      split
      · exact Keeps.bind (second _) fun _ => keeps_pure _
      · exact keeps_pure _
    | or =>
      rw [evaluate]
      refine Keeps.bind first fun left => ?_
      dsimp only
      split
      · exact keeps_pure _
      · exact Keeps.bind (second _) fun _ => keeps_pure _
    | _ =>
      rw [evaluate]
      exact both _
      all_goals simp
  | .unary op operand, calls => by
    cases op with
    | not =>
      rw [evaluate]
      exact Keeps.bind (evaluate_keeps_of reads frame operand calls) fun _ => keeps_pure _
    | minus =>
      rw [evaluate]
      refine Keeps.bind (evaluate_keeps_of reads frame operand calls) fun operand => ?_
      exact Keeps.bind (plain_ofFaulty _).keeps fun _ => keeps_pure _
  | .table fields, calls => by
    rw [evaluate]
    refine Keeps.bind_of_gives (evaluateFields_keeps_of reads frame default 1 fields calls)
      (evaluateFields_written call frame default .empty 1 fields) fun table written => ?_
    exact Keeps.bind ((newTable_grows written).mono reads.grown) fun _ => keeps_pure _
  | .paren inner, calls => by
    rw [evaluate]
    exact Keeps.bind (evaluate_keeps_of reads frame inner calls) fun _ => keeps_pure _

/-- Evaluating a list of expressions keeps what reading and calls keep. -/
theorem evaluateList_keeps_of (reads : call.Reads relates) (calls : call.Calls relates)
    (frame : Frame) :
    (expressions : List Expression) → Keeps relates (evaluateList call frame expressions)
  | [] => by
    rw [evaluateList]
    exact keeps_pure _
  | [last] => by
    rw [evaluateList]
    exact evaluate_keeps_of reads frame last (.inr calls)
  | expression :: next :: rest => by
    rw [evaluateList]
    · refine Keeps.bind (evaluate_keeps_of reads frame expression (.inr calls)) fun value => ?_
      exact Keeps.bind (evaluateList_keeps_of reads calls _ (next :: rest)) fun _ => keeps_pure _
    · simp

/-- Evaluating fields keeps what reading and their calls keep. -/
theorem evaluateFields_keeps_of (reads : call.Reads relates) (frame : Frame) (table : Table)
    (position : Nat) :
    (fields : List Field) → (Field.AllCallFree fields ∨ call.Calls relates) →
      Keeps relates (evaluateFields call frame table position fields)
  | [], _ => by
    rw [evaluateFields]
    exact keeps_pure _
  | [.positional last], calls => by
    have inLast := calls.imp_left And.left
    rw [evaluateFields]
    exact Keeps.bind (evaluate_keeps_of reads _ last inLast) fun _ => keeps_pure _
  | .positional value :: next :: rest, calls => by
    rw [evaluateFields]
    · refine Keeps.bind (evaluate_keeps_of reads _ value (calls.imp_left And.left)) fun value => ?_
      exact evaluateFields_keeps_of reads frame _ _ (next :: rest) (calls.imp_left And.right)
    · simp
  | .keyed key value :: rest, calls => by
    have both := calls.imp_left fun free : Field.AllCallFree (.keyed key value :: rest) => free.1
    rw [evaluateFields]
    refine Keeps.bind (evaluate_keeps_of reads _ key (both.imp_left And.left)) fun key => ?_
    refine Keeps.bind (evaluate_keeps_of reads _ value (both.imp_left And.right)) fun value => ?_
    refine Keeps.bind (plain_ofFaulty _).keeps fun changed => ?_
    exact evaluateFields_keeps_of reads frame _ _ rest (calls.imp_left And.right)

end

end Keeps

/-! ## Expressions, statements and chunks -/

section Calls

variable {call : Caller} (keeps : call.Keeps)
include keeps

/-- Calling a value makes changes only. -/
theorem Value.apply_keeps (context : Context) (callee : Value) (arguments : List Value) :
    Keeps Later (Value.apply call context callee arguments) := by
  unfold Value.apply
  split
  · exact keeps _ _ _
  · exact keeps_throw _

/-- Reading a member makes changes only. -/
theorem Value.index_keeps (context : Context) (object key : Value) :
    Keeps Later (Value.index call context object key) :=
  Value.index_keeps_of keeps.reads context object key

/-- Writing a member makes changes only. -/
theorem Value.store_keeps (held : List Reference) (environment : EnvironmentId)
    (object key value : Value) : Keeps Later (Value.store call held environment object key value) := by
  unfold Value.store
  split
  · exact Environment.storeInTable_keeps _ _ _ _
  · refine Keeps.bind (keyName_plain _ _).keeps fun name => ?_
    exact NodeId.writeMember_keeps keeps _ _ _ _ _
  · refine Keeps.bind (keyName_plain _ _).keeps fun name => ?_
    refine Keeps.bind (ObjectId.writeMember_keeps keeps _ _ _ _) fun written => ?_
    split
    · exact keeps_pure _
    · exact Keeps.bind (keeps_view _) fun _ => keeps_throw _
  · exact Keeps.bind (keyName_plain _ _).keeps fun _ => Environment.setGlobal_keeps _ _ _
  · exact keeps_throw _

/-- Calling a method makes changes only. -/
theorem Value.applyMethod_keeps (context : Context) (object : Value) (name : String)
    (arguments : List Value) : Keeps Later (Value.applyMethod call context object name arguments) := by
  unfold Value.applyMethod
  split
  · exact NodeId.callMember_keeps keeps _ _ _ _ _
  · refine Keeps.bind (ObjectId.callMember?_keeps keeps _ _ _ _ _) fun called => ?_
    split
    · exact keeps_pure _
    · refine Keeps.bind (ObjectId.readMember?_keeps keeps.reads _ _ _ _) fun member => ?_
      split
      · exact keeps _ _ _
      · exact Keeps.bind (keeps_view _) fun _ => keeps_throw _
  · refine Keeps.bind (Value.index_keeps keeps _ _ _) fun method => ?_
    exact Value.apply_keeps keeps _ _ _

/-- The calls of expressions make changes only. -/
theorem Caller.Keeps.calls : call.Calls Later where
  value := Value.apply_keeps keeps
  method := Value.applyMethod_keeps keeps

/-- Evaluating an expression makes changes only. -/
theorem evaluate_keeps (frame : Frame) (expression : Expression) :
    Keeps Later (evaluate call frame expression) :=
  evaluate_keeps_of keeps.reads frame expression
    (.inr keeps.calls)

/-- Evaluating a list of expressions makes changes only. -/
theorem evaluateList_keeps (frame : Frame) (expressions : List Expression) :
    Keeps Later (evaluateList call frame expressions) :=
  evaluateList_keeps_of keeps.reads keeps.calls frame
    expressions

end Calls

section Calls

variable {call : Caller} (keeps : call.Keeps)
include keeps

/-- Assigning to a target makes changes only. -/
theorem assignTarget_keeps (frame : Frame) (target : Expression) (values : List Value) :
    Keeps Later (assignTarget call frame target values) := by
  unfold assignTarget
  split
  · unfold assignName
    split
    · exact keeps_pure _
    · exact Keeps.bind (Environment.setGlobal_keeps _ _ _) fun _ => keeps_pure _
  · refine Keeps.bind (evaluate_keeps keeps _ _) fun object => ?_
    refine Keeps.bind (evaluate_keeps keeps _ _) fun key => ?_
    exact Keeps.bind (Value.store_keeps keeps _ _ _ _ _) fun _ => keeps_pure _
  · exact keeps_throw _

/-- Assigning to targets makes changes only. -/
theorem assignTargets_keeps (frame : Frame) (targets : List Expression) (values : List Value) :
    Keeps Later (assignTargets call frame targets values) := by
  induction targets generalizing frame values with
  | nil => exact keeps_pure _
  | cons target rest ih =>
    unfold assignTargets
    exact Keeps.bind (assignTarget_keeps keeps _ _ _) fun _ => ih _ _

/-- Running a statement makes changes only. -/
theorem execute_keeps (frame : Frame) (statement : Statement) :
    Keeps Later (execute call frame statement) := by
  cases statement with
  | declare names values =>
    exact Keeps.bind (evaluateList_keeps keeps _ _) fun _ => keeps_pure _
  | assign targets values =>
    exact Keeps.bind (evaluateList_keeps keeps _ _) fun _ => assignTargets_keeps keeps _ _ _
  | run expression =>
    exact Keeps.bind (evaluate_keeps keeps _ _) fun _ => keeps_pure _

/-- Running statements makes changes only. -/
theorem runStatements_keeps (frame : Frame) (statements : List Statement) :
    Keeps Later (runStatements call frame statements) := by
  induction statements generalizing frame with
  | nil => exact keeps_pure _
  | cons statement rest ih =>
    unfold runStatements
    exact Keeps.bind (execute_keeps keeps _ _) fun _ => ih _

/-- Running a block makes changes only. -/
theorem runBlock_keeps (frame : Frame) (block : Block) :
    Keeps Later (runBlock call frame block) := by
  unfold runBlock
  refine Keeps.bind (runStatements_keeps keeps _ _) fun frame => ?_
  split
  · exact evaluateList_keeps keeps _ _
  · exact keeps_pure _

/-- Running code makes changes only. -/
theorem Code.run_keeps (held : List Reference) (arguments : List Value) (code : Code) :
    Keeps Later (code.run call held arguments) := by
  cases code with
  | script block parameters =>
    unfold Code.run runScript
    dsimp only
    split
    · exact runBlock_keeps keeps _ _
    · exact keeps_throw _
  | host routine => exact keeps _ _ _

namespace Environment

omit keeps in
/-- Compiling keeps everything. -/
theorem compile_keeps (id : EnvironmentId) (name source : String)
    (parameters : List (String × Hint)) : Keeps Later (compile id name source parameters) := by
  unfold compile
  split
  · exact keeps_throw _
  · refine Keeps.bind (keeps_view _) fun environment => ?_
    dsimp only
    split
    · exact keeps_pure _
    · exact keeps_throw _

/-- Running a chunk makes changes only. -/
theorem runChunk_keeps (held : List Reference) (id : EnvironmentId) (chunk : Chunk)
    (arguments : List Value) : Keeps Later (runChunk call held id chunk arguments) := by
  unfold runChunk
  split
  · exact Code.run_keeps keeps _ _ _
  · exact keeps_throw _

/-- Running a source makes changes only. -/
theorem doString_keeps (held : List Reference) (id : EnvironmentId) (source name : String)
    (arguments : List (String × Value)) :
    Keeps Later (doString call held id source name arguments) := by
  unfold doString
  exact Keeps.bind (compile_keeps _ _ _ _) fun _ => runChunk_keeps keeps _ _ _ _

/-- Running a file makes changes only. -/
theorem doFile_keeps (held : List Reference) (id : EnvironmentId) (path : String)
    (arguments : List (String × Value)) :
    Keeps Later (doFile call held id path arguments) := by
  unfold doFile
  refine Keeps.bind (keeps_view _) fun text => ?_
  split
  · exact doString_keeps keeps _ _ _ _ _
  · exact keeps_throw _

/-- Running bytes makes changes only. -/
theorem doBytes_keeps (held : List Reference) (id : EnvironmentId) (content : ByteArray)
    (name : String) (arguments : List (String × Value)) :
    Keeps Later (doBytes call held id content name arguments) := by
  unfold doBytes
  split
  · exact doString_keeps keeps _ _ _ _ _
  · exact keeps_throw _

end Environment

end Calls

/-! ## The core functions -/

/-- The environment that a function needs is found without a change. -/
theorem Context.required_plain (context : Context) (name : String) :
    Plain (context.required name) := by
  unfold Context.required
  split
  · exact plain_pure _
  · exact plain_throw _

namespace Core

/-- Checking a condition makes changes only. -/
theorem assert_keeps (arguments : List Value) : Keeps Later (assert arguments) := by
  unfold assert
  dsimp only
  split
  · exact keeps_pure _
  · split
    · exact keeps_throw _
    · exact Keeps.bind (keeps_view _) fun _ => keeps_throw _

/-- Counting the memory keeps everything. -/
theorem memoryCount_keeps (context : Context) : Keeps Later (memoryCount context) := by
  unfold memoryCount
  refine Keeps.bind (context.required_plain _).keeps fun id => ?_
  exact Keeps.bind (keeps_view _) fun _ => keeps_pure _

/-- Heap queries make changes only. -/
theorem collectGarbage_keeps (context : Context) (arguments : List Value) :
    Keeps Later (collectGarbage context arguments) := by
  unfold collectGarbage
  split
  · exact keeps_pure _
  · refine Keeps.bind (keeps_view _) fun option => ?_
    split
    · refine Keeps.bind (context.required_plain _).keeps fun id => ?_
      exact Keeps.bind (Environment.collect_keeps id) fun _ => memoryCount_keeps context
    · exact memoryCount_keeps context
    · exact keeps_pure _
    · exact keeps_pure _

/-- Failing keeps everything. -/
theorem error_keeps (arguments : List Value) : Keeps Later (error arguments) := by
  unfold error
  exact Keeps.bind (keeps_view _) fun _ => keeps_throw _

/-- Printing makes changes only. -/
theorem print_keeps (context : Context) (arguments : List Value) :
    Keeps Later (print context arguments) := by
  unfold print
  dsimp only
  split
  · split
    · refine Keeps.bind (keeps_view _) fun line => ?_
      exact Keeps.bind (Environment.printLine_keeps _ _) fun _ => keeps_pure _
    · exact keeps_pure _
  · exact keeps_pure _

/-- Finding a table argument is plain. -/
theorem tableArgument_plain (arguments : List Value) (function : String) :
    Plain (tableArgument arguments function) := by
  unfold tableArgument
  split
  · exact plain_pure _
  · exact plain_throw _

/-- Reading a table keeps everything. -/
theorem rawGet_keeps (arguments : List Value) : Keeps Later (rawGet arguments) := by
  unfold rawGet
  refine Keeps.bind (tableArgument_plain _ _).keeps fun id => ?_
  exact Keeps.bind (keeps_view _) fun _ => keeps_pure _

/-- Writing to a table makes changes only. -/
theorem rawSet_keeps (context : Context) (arguments : List Value) :
    Keeps Later (rawSet context arguments) := by
  unfold rawSet
  refine Keeps.bind (tableArgument_plain _ _).keeps fun id => ?_
  dsimp only
  split
  · exact keeps_throw _
  · split
    · exact Keeps.bind (Environment.storeInTable_keeps _ _ _ _) fun _ => keeps_pure _
    · exact Keeps.bind (Action.rawSet_keeps _ _ _) fun _ => keeps_pure _

/-- Measuring a value keeps everything. -/
theorem rawLen_keeps (arguments : List Value) : Keeps Later (rawLen arguments) := by
  have rest (length : Nat) : Keeps Later (pure [.ofNat length] : Action (List Value)) :=
    keeps_pure _
  unfold rawLen
  split
  · exact Keeps.bind (keeps_pure _) rest
  · exact Keeps.bind (keeps_view _) rest
  · exact Keeps.bind (keeps_view _) rest
  · exact Keeps.bind (keeps_pure _) rest

/-- Selecting arguments is plain. -/
theorem select_plain (arguments : List Value) : Plain (select arguments) := by
  unfold select
  split
  · exact plain_throw _
  · exact plain_pure _
  · split
    · exact plain_pure _
    · exact plain_throw _

/-- Finding the base of a conversion is plain. -/
theorem numberBase_plain (arguments : List Value) : Plain (numberBase arguments) := by
  unfold numberBase
  split
  · exact plain_pure _
  · split
    · split
      · exact plain_pure _
      · exact plain_throw _
    · exact plain_throw _

/-- Converting to a number is plain. -/
theorem toNumber_plain (arguments : List Value) : Plain (toNumber arguments) := by
  unfold toNumber
  refine Plain.bind (numberBase_plain arguments) fun base => ?_
  split
  · exact plain_pure _
  · exact plain_throw _

/-- Converting to a text keeps everything. -/
theorem toString_keeps (arguments : List Value) : Keeps Later (toString arguments) := by
  unfold toString
  split
  · exact keeps_pure _
  · exact Keeps.bind (keeps_view _) fun _ => keeps_pure _

end Core

/-! ## Calls -/

section Calls

variable {call : Caller} (keeps : call.Keeps)
include keeps

/-- A core function makes changes only. -/
theorem CoreFunction.run_keeps (context : Context) (arguments : List Value)
    (function : CoreFunction) : Keeps Later (function.run call context arguments) := by
  cases function with
  | assert => exact Core.assert_keeps arguments
  | collectgarbage => exact Core.collectGarbage_keeps context arguments
  | dofile =>
    unfold CoreFunction.run Core.doFile
    dsimp only
    split
    · refine Keeps.bind (context.required_plain _).keeps fun id => ?_
      exact Environment.doFile_keeps keeps _ _ _ _
    · exact keeps_throw _
  | error => exact Core.error_keeps arguments
  | print => exact Core.print_keeps context arguments
  | rawequal => exact keeps_pure _
  | rawget => exact Core.rawGet_keeps arguments
  | rawlen => exact Core.rawLen_keeps arguments
  | rawset => exact Core.rawSet_keeps context arguments
  | select => exact (Core.select_plain arguments).keeps
  | tonumber => exact (Core.toNumber_plain arguments).keeps
  | tostring => exact Core.toString_keeps arguments
  | type => exact keeps_pure _

/-- An operation of the host makes changes only. -/
theorem HostOperation.perform_keeps (held : List Reference) (operation : HostOperation) :
    Keeps Later (operation.perform call held) := by
  cases operation with
  | display value => exact Keeps.bind (keeps_view _) fun _ => keeps_pure _
  | makeTable => exact Keeps.bind (newTable_keeps .empty) fun _ => keeps_pure _
  | get table key => exact Keeps.bind (keeps_view _) fun _ => keeps_pure _
  | set table key value => exact Keeps.bind (rawSet_keeps _ _ _) fun _ => keeps_pure _
  | entries table => exact Keeps.bind (keeps_view _) fun _ => keeps_pure _
  | length table => exact Keeps.bind (keeps_view _) fun _ => keeps_pure _
  | remembered key => exact Keeps.bind (keeps_view _) fun _ => keeps_pure _
  | remember key value => exact Keeps.bind (remember_keeps _ _) fun _ => keeps_pure _
  | index environment object key =>
    exact Keeps.bind (Value.index_keeps keeps _ _ _) fun _ => keeps_pure _
  | store environment object key value =>
    exact Keeps.bind (Value.store_keeps keeps _ _ _ _ _) fun _ => keeps_pure _
  | call environment callee arguments => exact Value.apply_keeps keeps _ _ _
  | method environment object name arguments => exact Value.applyMethod_keeps keeps _ _ _ _

/-- Code of the host makes changes only. -/
theorem HostCode.run_keeps {Result : Type} (held : List Reference) (code : HostCode Result) :
    Keeps Later (code.run call held) := by
  induction code generalizing held with
  | done result => exact keeps_pure _
  | step operation next ih =>
    exact Keeps.bind (operation.perform_keeps keeps held).attempt fun reply => ih reply _

/-- A routine of the host makes changes only. -/
theorem Routine.run_keeps (held : List Reference) (arguments : List Value) (routine : Routine) :
    Keeps Later (routine.run call held arguments) :=
  Keeps.bind (HostCode.run_keeps keeps held _) fun _ => (plain_ofOutcome _).keeps

/-- A group of overloads makes changes only. -/
theorem MethodGroup.invoke_keeps (held : List Reference) (group : MethodGroup)
    (arguments : List Value) : Keeps Later (group.invoke call held arguments) := by
  unfold invoke
  split
  · exact Routine.run_keeps keeps held arguments _
  · exact keeps_throw _

/-- A function makes changes only. -/
theorem Callable.run_keeps (caller : Context) (arguments : List Value) (function : Callable) :
    Keeps Later (function.run call caller arguments) := by
  have home (context : Context) : Keeps Later (function.context context) := by
    unfold Callable.context
    split
    · refine Keeps.bind (keeps_view _) fun live => ?_
      split
      · exact keeps_pure _
      · exact keeps_throw _
    · exact keeps_pure _
  unfold Callable.run
  dsimp only
  split
  · next builtin _ =>
    refine Keeps.bind (home _) fun context => ?_
    cases builtin with
    | core function => exact CoreFunction.run_keeps keeps _ _ function
    | library function => exact LibraryFunction.run_keeps _ _ function
  · exact Routine.run_keeps keeps _ _ _
  · exact MethodGroup.invoke_keeps keeps _ _ _

end Calls

/-- Calls within any depth make changes only. -/
theorem callWithin_keeps (depth : Nat) : (callWithin depth).Keeps := by
  induction depth with
  | zero => exact fun _ _ _ => keeps_throw _
  | succ depth ih =>
    intro context callee arguments
    unfold callWithin
    exact Keeps.bind (keeps_view _) fun _ => Callable.run_keeps ih _ _ _

/-- Calls make changes only. -/
theorem caller_keeps : caller.Keeps := callWithin_keeps callDepth

end ScriptHost
