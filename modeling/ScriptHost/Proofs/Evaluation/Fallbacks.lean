import ScriptHost.Evaluation.Call
import ScriptHost.Proofs.Script.Reading

/-!
# Branches that no script reaches

Evaluation has two branches for shapes that scripts do not have: one for an assignment to
something that is no name or member, and one for arithmetic with an operator that is none.
Here evaluation takes what it does in these branches as a parameter. It comes out the same
whatever that is: the first branch is closed by the blocks that reading gives, the second
one because evaluation turns to arithmetic for arithmetic operators only.
-/

namespace ScriptHost

open ScriptHost.Action ScriptHost.Binary Script

/-- What evaluation does in the branches for shapes that scripts do not have. -/
structure Fallbacks where
  /-- An assignment to what is no name or member. -/
  target : Action Frame
  /-- Arithmetic with an operator that is none. -/
  arithmetic : Except TypeFault Double

/-- What evaluation does by itself in these branches. -/
def Fallbacks.standard : Fallbacks where
  target := fault .assignmentTarget
  arithmetic := .error .unsupportedOperator

/-! ## Evaluation with fallbacks -/

namespace Value

/-- An operation on doubles, with a fallback for other operators. -/
def doubleOperationOr (fallback : Except TypeFault Double) (op : BinaryOperator)
    (left right : Double) : Except TypeFault Double :=
  match op with
  | .add => .ok (left.add right)
  | .sub => .ok (left.sub right)
  | .mul => .ok (left.mul right)
  | .div => .ok (left.div right)
  | .mod => .ok (left.sub ((left.div right).floor.mul right))
  | _ => fallback

/-- Arithmetic on two values, with a fallback for other operators. -/
def arithmeticOr (fallback : Except TypeFault Double) (op : BinaryOperator)
    (left right : Value) : Except TypeFault Value :=
  match left.toDouble?, right.toDouble? with
  | some a, some b =>
    match onWords? op left right with
    | some result => result.map .ofInt64
    | none => (doubleOperationOr fallback op a b).map .number
  | none, _ => .error (.notArithmetic left.kind)
  | some _, none => .error (.notArithmetic right.kind)

/-- The result of an operator with two evaluated operands, with a fallback for operators that are
not arithmetic. -/
def operateOr (fallback : Except TypeFault Double) (op : BinaryOperator) (left right : Value) :
    Except TypeFault Value :=
  match op with
  | .eq => .ok (.boolean (left.scriptEqual right))
  | .notEq => .ok (.boolean (!left.scriptEqual right))
  | .less => do return .boolean (← left.order right).isLT
  | .lessEq => do return .boolean (← left.order right).isLE
  | .greater => do return .boolean (← left.order right).isGT
  | .greaterEq => do return .boolean (← left.order right).isGE
  | .concat => concatenate left right
  | _ => arithmeticOr fallback op left right

end Value

section Evaluation

variable (fallbacks : Fallbacks) (call : Caller)

mutual

/-- The values of an expression. -/
def evaluateOr (frame : Frame) : Expression → Action (List Value)
  | .nil => return [.nil]
  | .boolean value => return [.boolean value]
  | .integer value => return [.ofInt64 value]
  | .number value => return [.number value]
  | .text value => return [.text value]
  | .varargs => return frame.extras
  | .name name => do return [← lookupName call frame name]
  | .index object key => do
    let object := firstValue (← evaluateOr frame object)
    let key := firstValue (← evaluateOr (frame.keep [object]) key)
    return [← Value.index call frame.context object key]
  | .call callee arguments => do
    let callee := firstValue (← evaluateOr frame callee)
    let arguments ← evaluateListOr (frame.keep [callee]) arguments
    Value.apply call frame.context callee arguments
  | .method object name arguments => do
    let object := firstValue (← evaluateOr frame object)
    let arguments ← evaluateListOr (frame.keep [object]) arguments
    Value.applyMethod call frame.context object name arguments
  | .binary .and left right => do
    let left := firstValue (← evaluateOr frame left)
    if left.isTruthy then return [firstValue (← evaluateOr (frame.keep [left]) right)]
    else return [left]
  | .binary .or left right => do
    let left := firstValue (← evaluateOr frame left)
    if left.isTruthy then return [left]
    else return [firstValue (← evaluateOr (frame.keep [left]) right)]
  | .binary op left right => do
    let left := firstValue (← evaluateOr frame left)
    let right := firstValue (← evaluateOr (frame.keep [left]) right)
    return [← ofFaulty (Value.operateOr fallbacks.arithmetic op left right)]
  | .unary .not operand => do
    let operand := firstValue (← evaluateOr frame operand)
    return [.boolean !operand.isTruthy]
  | .unary .minus operand => do
    let operand := firstValue (← evaluateOr frame operand)
    return [← ofFaulty operand.negate]
  | .table fields => do
    let table ← evaluateFieldsOr frame default 1 fields
    return [.table (← newTable table)]
  | .paren inner => do return [firstValue (← evaluateOr frame inner)]

/-- The values of a list of expressions. -/
def evaluateListOr (frame : Frame) : List Expression → Action (List Value)
  | [] => return []
  | [last] => evaluateOr frame last
  | expression :: rest => do
    let value := firstValue (← evaluateOr frame expression)
    return value :: (← evaluateListOr (frame.keep [value]) rest)

/-- The table of fields, from what the fields before have stored and the next position. -/
def evaluateFieldsOr (frame : Frame) (table : Table) (position : Nat) :
    List Field → Action Table
  | [] => return table
  | [.positional last] => do
    return placeValues table position (← evaluateOr (frame.keepTable table) last)
  | .positional value :: rest => do
    let value := firstValue (← evaluateOr (frame.keepTable table) value)
    evaluateFieldsOr frame (placeValues table position [value]) (position + 1) rest
  | .keyed key value :: rest => do
    let key := firstValue (← evaluateOr (frame.keepTable table) key)
    let value := firstValue (← evaluateOr ((frame.keepTable table).keep [key]) value)
    let (_, table) ← ofFaulty (table.set key value)
    evaluateFieldsOr frame table position rest

end

/-- Assign the first of the values still to be assigned to a target. -/
def assignTargetOr (frame : Frame) (target : Expression) (values : List Value) : Action Frame :=
  match target with
  | .name name => assignName frame name (firstValue values)
  | .index object key => do
    let busy := frame.keep values
    let object := firstValue (← evaluateOr fallbacks call busy object)
    let key := firstValue (← evaluateOr fallbacks call (busy.keep [object]) key)
    let held := ((busy.keep [object]).keep [key]).holds
    Value.store call held frame.environment object key (firstValue values)
    return frame
  | _ => fallbacks.target

/-- Assign values to targets in order. -/
def assignTargetsOr : Frame → List Expression → List Value → Action Frame
  | frame, [], _ => pure frame
  | frame, target :: rest, values => do
    let frame ← assignTargetOr fallbacks call frame target values
    assignTargetsOr frame rest (values.drop 1)

/-- Run a statement. -/
def executeOr (frame : Frame) : Statement → Action Frame
  | .declare names values => do
    return declareNames frame names (← evaluateListOr fallbacks call frame values)
  | .assign targets values => do
    assignTargetsOr fallbacks call frame targets (← evaluateListOr fallbacks call frame values)
  | .run expression => do
    let _ ← evaluateOr fallbacks call frame expression
    return frame

/-- Run statements in order. -/
def runStatementsOr : Frame → List Statement → Action Frame
  | frame, [] => pure frame
  | frame, statement :: rest => do
    runStatementsOr (← executeOr fallbacks call frame statement) rest

/-- Run a block and give the values it returns. -/
def runBlockOr (frame : Frame) (block : Block) : Action (List Value) := do
  let frame ← runStatementsOr fallbacks call frame block.statements
  match block.result with
  | some expressions => evaluateListOr fallbacks call frame expressions
  | none => return []

/-- Run a block with arguments, the environment first. -/
def runScriptOr (held : List Reference) (block : Block) (parameters : List String)
    (arguments : List Value) : Action (List Value) :=
  match arguments with
  | .reference (.environment environment) :: rest =>
    let frame : Frame := { environment, extras := rest.drop parameters.length, held }
    runBlockOr fallbacks call (declareNames frame parameters rest) block
  | _ => fault (.chunkEnvironment ((arguments.head?).map (·.kind)))

end Evaluation

/-! ## Operators -/

/-- Whether an operator decides by its left operand if the right one is evaluated. -/
def isConnective : BinaryOperator → Bool
  | .and | .or => true
  | _ => false

/-- Operators that evaluate both operands never need the fallback. -/
theorem Value.operateOr_eq (fallback : Except TypeFault Double) {op : BinaryOperator}
    (strict : isConnective op = false) (left right : Value) :
    operateOr fallback op left right = left.operate op right := by
  cases op <;> first | rfl | contradiction

section Unreached

variable (fallbacks : Fallbacks) (call : Caller)

mutual

/-- The values of an expression do not depend on the fallbacks. -/
theorem evaluateOr_eq (frame : Frame) :
    (expression : Expression) → evaluateOr fallbacks call frame expression =
      evaluate call frame expression
  | .nil | .boolean _ | .integer _ | .number _ | .text _ | .varargs | .name _ => by
    rw [evaluateOr, evaluate]
  | .index object key => by
    rw [evaluateOr, evaluate, evaluateOr_eq frame object]
    simp only [evaluateOr_eq _ key]
  | .call callee arguments => by
    rw [evaluateOr, evaluate, evaluateOr_eq frame callee]
    simp only [evaluateListOr_eq _ arguments]
  | .method object name arguments => by
    rw [evaluateOr, evaluate, evaluateOr_eq frame object]
    simp only [evaluateListOr_eq _ arguments]
  | .binary op left right => by
    have first := evaluateOr_eq frame left
    have second (frame : Frame) := evaluateOr_eq frame right
    cases connective : isConnective op with
    | true =>
      cases op <;> first | contradiction | rw [evaluateOr, evaluate, first]; simp only [second]
    | false =>
      rw [evaluateOr, evaluate, first]
      · simp only [second, Value.operateOr_eq _ connective]
      all_goals
        rintro rfl
        contradiction
  | .unary op operand => by
    cases op <;> rw [evaluateOr, evaluate, evaluateOr_eq frame operand]
  | .table fields => by rw [evaluateOr, evaluate, evaluateFieldsOr_eq frame default 1 fields]
  | .paren inner => by rw [evaluateOr, evaluate, evaluateOr_eq frame inner]

/-- The values of a list of expressions do not depend on the fallbacks. -/
theorem evaluateListOr_eq (frame : Frame) :
    (expressions : List Expression) → evaluateListOr fallbacks call frame expressions =
      evaluateList call frame expressions
  | [] => by rw [evaluateListOr, evaluateList]
  | [last] => by rw [evaluateListOr, evaluateList, evaluateOr_eq frame last]
  | expression :: next :: rest => by
    rw [evaluateListOr, evaluateList, evaluateOr_eq frame expression]
    · simp only [evaluateListOr_eq _ (next :: rest)]
    · simp
    · simp

/-- The table of fields does not depend on the fallbacks. -/
theorem evaluateFieldsOr_eq (frame : Frame) (table : Table) (position : Nat) :
    (fields : List Field) → evaluateFieldsOr fallbacks call frame table position fields =
      evaluateFields call frame table position fields
  | [] => by rw [evaluateFieldsOr, evaluateFields]
  | [.positional last] => by
    rw [evaluateFieldsOr, evaluateFields, evaluateOr_eq _ last]
  | .positional value :: next :: rest => by
    rw [evaluateFieldsOr, evaluateFields, evaluateOr_eq _ value]
    · simp only [evaluateFieldsOr_eq _ _ _ (next :: rest)]
    · simp
    · simp
  | .keyed key value :: rest => by
    rw [evaluateFieldsOr, evaluateFields, evaluateOr_eq _ key]
    simp only [evaluateOr_eq _ value, evaluateFieldsOr_eq _ _ _ rest]

end

/-! ## Assignments and blocks -/

/-- Assigning to a name or a member does not depend on the fallbacks, and assigning to anything else
only on the one for targets. -/
theorem assignTargetOr_eq (frame : Frame) {target : Expression} (values : List Value)
    (safe : fallbacks.target = fault .assignmentTarget ∨ target.isAssignable = true) :
    assignTargetOr fallbacks call frame target values = assignTarget call frame target values := by
  cases target
  case name name => rfl
  case index object key => simp only [assignTargetOr, assignTarget, evaluateOr_eq]
  all_goals exact safe.resolve_right Bool.false_ne_true

/-- Assigning to several targets depends on the fallbacks only where assigning to one does. -/
theorem assignTargetsOr_eq (frame : Frame) {targets : List Expression} (values : List Value)
    (safe : ∀ target ∈ targets,
      fallbacks.target = fault .assignmentTarget ∨ target.isAssignable = true) :
    assignTargetsOr fallbacks call frame targets values =
      assignTargets call frame targets values := by
  induction targets generalizing frame values with
  | nil => rfl
  | cons target rest ih =>
    obtain ⟨first, others⟩ := List.forall_mem_cons.mp safe
    rw [assignTargetsOr, assignTargets, assignTargetOr_eq fallbacks call frame values first]
    simp only [ih _ _ others]

/-- Running a well-formed statement does not depend on the fallbacks. -/
theorem executeOr_eq (frame : Frame) {statement : Statement}
    (safe : fallbacks.target = fault .assignmentTarget ∨ statement.WellFormed) :
    executeOr fallbacks call frame statement = execute call frame statement := by
  cases statement with
  | declare names values => rw [executeOr, execute, evaluateListOr_eq]
  | assign targets values =>
    have each (target : Expression) (member : target ∈ targets) :
        fallbacks.target = fault .assignmentTarget ∨ target.isAssignable = true :=
      safe.imp_right fun formed => formed.2.2.1 target member
    rw [executeOr, execute, evaluateListOr_eq]
    simp only [assignTargetsOr_eq fallbacks call frame _ each]
  | run expression => rw [executeOr, execute, evaluateOr_eq]

/-- Running well-formed statements does not depend on the fallbacks. -/
theorem runStatementsOr_eq (frame : Frame) {statements : List Statement}
    (safe : ∀ statement ∈ statements,
      fallbacks.target = fault .assignmentTarget ∨ statement.WellFormed) :
    runStatementsOr fallbacks call frame statements = runStatements call frame statements := by
  induction statements generalizing frame with
  | nil => rfl
  | cons statement rest ih =>
    obtain ⟨first, others⟩ := List.forall_mem_cons.mp safe
    rw [runStatementsOr, runStatements, executeOr_eq fallbacks call frame first]
    simp only [ih _ others]

/-- Running a well-formed block does not depend on the fallbacks. -/
theorem runBlockOr_eq (frame : Frame) {block : Block}
    (safe : fallbacks.target = fault .assignmentTarget ∨ block.WellFormed) :
    runBlockOr fallbacks call frame block = runBlock call frame block := by
  have each (statement : Statement) (member : statement ∈ block.statements) :
      fallbacks.target = fault .assignmentTarget ∨ statement.WellFormed :=
    safe.imp_right fun wellFormed => wellFormed.statements statement member
  unfold runBlockOr runBlock
  rw [runStatementsOr_eq fallbacks call frame each]
  refine congrArg (runStatements call frame block.statements >>= ·) (funext fun frame => ?_)
  cases block.result with
  | none => rfl
  | some expressions => exact evaluateListOr_eq fallbacks call frame expressions

/-- Running a well-formed script with any arguments does not depend on the fallbacks, and running any
script only on the one for targets. -/
theorem runScriptOr_eq (held : List Reference) {block : Block}
    (safe : fallbacks.target = fault .assignmentTarget ∨ block.WellFormed)
    (parameters : List String) (arguments : List Value) :
    runScriptOr fallbacks call held block parameters arguments =
      runScript call held block parameters arguments := by
  cases arguments with
  | nil => rfl
  | cons first rest =>
    cases first with
    | reference target =>
      cases target with
      | environment environment => exact runBlockOr_eq fallbacks call _ safe
      | table | function | node | object => rfl
    | nil | boolean | int | single | number | text => rfl

end Unreached

/-- With the standard fallbacks, every script runs as ever. -/
theorem runScriptOr_standard (call : Caller) (held : List Reference) (block : Block)
    (parameters : List String) (arguments : List Value) :
    runScriptOr .standard call held block parameters arguments =
      runScript call held block parameters arguments :=
  runScriptOr_eq .standard call held (.inl rfl) parameters arguments

/-! ## The shapes of scripts -/

/-- What a source can be refused for, apart from the grammar. -/
def defectMessages : List String :=
  ["cannot assign to this expression", "syntax error: expression is not a statement",
    "invalid escape sequence", "hexadecimal literal is too large"]

/-- Every source is read as a block, or the grammar does not match it, or it is refused for one of
four defects. A block has names and members as its only targets, calls as its only call statements,
identifiers that are not reserved as its only names and integers without a sign, and it runs to the
same end whatever evaluation would do for a bad target or an operator that is none. -/
theorem readScript_shapes (source : List Char) :
    (∃ block, readScript source = .ok block ∧ block.WellFormed ∧
      ∀ (fallbacks : Fallbacks) (call : Caller) (held : List Reference) (parameters : List String)
        (arguments : List Value),
        runScriptOr fallbacks call held block parameters arguments =
          runScript call held block parameters arguments) ∨
      readScript source = .error .mismatch ∨
      ∃ kind offset, readScript source = .error (.defect kind offset) ∧
        kind.message ∈ defectMessages := by
  rcases readScript_cases source with ⟨block, read, wellFormed⟩ | refused | ⟨kind, offset, read⟩
  · exact .inl ⟨block, read, wellFormed, fun fallbacks call held =>
      runScriptOr_eq fallbacks call held (.inr wellFormed)⟩
  · exact .inr (.inl refused)
  · exact .inr (.inr ⟨kind, offset, read, by cases kind <;> decide⟩)

end ScriptHost
