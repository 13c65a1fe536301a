import ScriptHost.Evaluation.Expression

/-!
# Chunks

A chunk is named code with parameters. Code is called with its environment as first
argument; the next arguments are the values of the parameters, and the remaining
ones are the extra arguments. Statements run in order, each in the frame that the
ones before have left.
-/

namespace ScriptHost

open ScriptHost.Action Script

/-- Assign to a name: to the local if there is one, else to the global. -/
def assignName (frame : Frame) (name : String) (value : Value) : Action Frame :=
  match frame.find? name with
  | some _ => pure (frame.declare name value)
  | none => do
    Environment.setGlobal frame.environment name value
    return frame

/-- Assign the first of the values still to be assigned to a target, `nil` where they have run
out. All of them are held until then. -/
def assignTarget (call : Caller) (frame : Frame) (target : Expression) (values : List Value) :
    Action Frame :=
  match target with
  | .name name => assignName frame name (firstValue values)
  | .index object key => do
    let busy := frame.keep values
    let object := firstValue (← evaluate call busy object)
    let key := firstValue (← evaluate call (busy.keep [object]) key)
    let held := ((busy.keep [object]).keep [key]).holds
    Value.store call held frame.environment object key (firstValue values)
    return frame
  | _ => fault .assignmentTarget

/-- Assign values to targets in order. -/
def assignTargets (call : Caller) : Frame → List Expression → List Value → Action Frame
  | frame, [], _ => pure frame
  | frame, target :: rest, values => do
    let frame ← assignTarget call frame target values
    assignTargets call frame rest (values.drop 1)

/-- The frame with locals for names in order, `nil` where values run out. -/
def declareNames : Frame → List String → List Value → Frame
  | frame, [], _ => frame
  | frame, name :: rest, values =>
    declareNames (frame.declare name (firstValue values)) rest (values.drop 1)

/-- Run a statement. -/
def execute (call : Caller) (frame : Frame) : Statement → Action Frame
  | .declare names values => do
    return declareNames frame names (← evaluateList call frame values)
  | .assign targets values => do
    assignTargets call frame targets (← evaluateList call frame values)
  | .run expression => do
    let _ ← evaluate call frame expression
    return frame

/-- Run statements in order. -/
def runStatements (call : Caller) : Frame → List Statement → Action Frame
  | frame, [] => pure frame
  | frame, statement :: rest => do runStatements call (← execute call frame statement) rest

/-- Run a block and give the values it returns. -/
def runBlock (call : Caller) (frame : Frame) (block : Block) : Action (List Value) := do
  let frame ← runStatements call frame block.statements
  match block.result with
  | some expressions => evaluateList call frame expressions
  | none => return []

/-- The declared type of a parameter, absent where any value is meant. -/
abbrev Hint : Type := Option Kind

/-- The hint that an argument gives. -/
def Hint.ofValue (value : Value) : Hint := if value.isNil then none else some value.kind

/-- The name of a hint. -/
def Hint.label (hint : Hint) : String :=
  match hint with
  | some kind => kind.label
  | none => "Object"

/-- What a chunk executes. -/
inductive Code where
  | script (block : Block) (parameters : List String)
  /-- Code of the host. -/
  | host (routine : Routine)

/-- Named code with parameters. Code that was never compiled or was released is absent. -/
structure Chunk where
  name : String
  parameters : List (String × Hint)
  code : Option Code

/-- Run a block with arguments, the environment first. `held` is what the code around it holds. -/
def runScript (call : Caller) (held : List Reference) (block : Block) (parameters : List String)
    (arguments : List Value) : Action (List Value) :=
  match arguments with
  | .reference (.environment environment) :: rest =>
    let frame : Frame := { environment, extras := rest.drop parameters.length, held }
    runBlock call (declareNames frame parameters rest) block
  | _ => fault (.chunkEnvironment ((arguments.head?).map (·.kind)))

/-- Run code with arguments, the environment first. -/
def Code.run (call : Caller) (held : List Reference) (arguments : List Value) :
    Code → Action (List Value)
  | .script block parameters => runScript call held block parameters arguments
  | .host routine => call { held } routine.callee arguments

/-- Make code of a source. -/
def Compiler.code (compiler : Compiler) (name source : String) (parameters : List String) :
    Except Failure Code :=
  match compiler with
  | .script =>
    match readScript source.toList with
    | .ok block => .ok (.script block parameters)
    | .error error => .error (.compile name (.unreadable error))
  | .host compile => (compile name source parameters.length).map Code.host

namespace Environment

/-- Compile a chunk with the environment's compiler. -/
def compile (id : EnvironmentId) (name source : String) (parameters : List (String × Hint)) :
    Action Chunk := do
  if name.isEmpty then refuse .chunkName
  else
    let compiler := (← view (·.environment id)).compiler
    match compiler.code name source (parameters.map (·.1)) with
    | .ok code => return { name, parameters, code := some code }
    | .error failure => Action.fail failure

/-- Execute a chunk in an environment. -/
def runChunk (call : Caller) (held : List Reference) (id : EnvironmentId) (chunk : Chunk)
    (arguments : List Value) : Action (List Value) :=
  match chunk.code with
  | some code => code.run call held (.environment id :: arguments)
  | none => Action.fail (.compile chunk.name .notCompiled)

/-- Compile a source and execute it once with named arguments, which are held to the end. -/
def doString (call : Caller) (held : List Reference) (id : EnvironmentId) (source name : String)
    (arguments : List (String × Value)) : Action (List Value) := do
  let parameters := arguments.map fun argument => (argument.1, Hint.ofValue argument.2)
  let chunk ← compile id name source parameters
  runChunk call (arguments.flatMap (·.2.holds) ++ held) id chunk (arguments.map (·.2))

/-- Execute a file once with named arguments. The chunk is named after the file. -/
def doFile (call : Caller) (held : List Reference) (id : EnvironmentId) (path : String)
    (arguments : List (String × Value)) : Action (List Value) := do
  match ← view fun world => world.files.text path with
  | .ok source => doString call held id source (Files.baseName path) arguments
  | .error fault => Action.fail (.io (.cannotOpen path fault))

/-- Execute bytes that must be text. -/
def doBytes (call : Caller) (held : List Reference) (id : EnvironmentId) (content : ByteArray)
    (name : String) (arguments : List (String × Value)) : Action (List Value) :=
  match Files.decode content with
  | .ok source => doString call held id source name arguments
  | .error fault => Action.fail (.io (.unreadable fault))

end Environment

end ScriptHost
