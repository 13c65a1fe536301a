import ScriptHost.Evaluation.Call
import ScriptHost.Proofs.World.Outcome

/-!
# Runs of files

Executing a file makes code of its text with the compiler of an environment and runs the
code there. All statements of a script are run in frames of that environment, so names
that are no locals are read and written among its globals.
-/

namespace ScriptHost

open ScriptHost.Action Script

/-! ## Globals of a frame -/

/-- A frame uses the globals of an environment: a name that is no local of the frame is read and
written there. -/
structure UsesGlobals (id : EnvironmentId) (frame : Frame) : Prop where
  reads : ∀ call name, frame.find? name = none →
    lookupName call frame name = Environment.getGlobal call frame.holds id name
  writes : ∀ name value, frame.find? name = none →
    assignName frame name value = (do
      Environment.setGlobal id name value
      return frame)

/-- A frame uses the globals of its environment. -/
theorem usesGlobals_environment (frame : Frame) : UsesGlobals frame.environment frame := by
  constructor
  · intro call name free
    unfold lookupName
    rw [free]
  · intro name value free
    unfold assignName
    rw [free]

/-- Locals with values leave the environment of a frame. -/
theorem environment_declareNames (names : List String) (frame : Frame) (values : List Value) :
    (declareNames frame names values).environment = frame.environment := by
  induction names generalizing frame values with
  | nil => rfl
  | cons name rest ih => exact ih _ _

/-- An assignment leaves the environment of a frame. -/
theorem assignTarget_environment (call : Caller) (frame : Frame) (target : Expression)
    (values : List Value) :
    Gives (fun last : Frame => last.environment = frame.environment)
      (assignTarget call frame target values) := by
  unfold assignTarget
  split
  · unfold assignName
    split
    · exact gives_pure rfl
    · exact Gives.bind fun _ => gives_pure rfl
  · exact Gives.bind fun _ => Gives.bind fun _ => Gives.bind fun _ => gives_pure rfl
  · exact gives_throw _

/-- Assignments one after another leave the environment of a frame. -/
theorem assignTargets_environment (call : Caller) (targets : List Expression) (frame : Frame)
    (values : List Value) :
    Gives (fun last : Frame => last.environment = frame.environment)
      (assignTargets call frame targets values) := by
  induction targets generalizing frame values with
  | nil => exact gives_pure rfl
  | cons target rest ih =>
    refine (assignTarget_environment call frame target values).bind_of_gives fun middle same => ?_
    exact same ▸ ih middle _

/-- A statement is run in one environment. -/
theorem execute_environment (call : Caller) (frame : Frame) (statement : Statement) :
    Gives (fun last : Frame => last.environment = frame.environment)
      (execute call frame statement) := by
  cases statement with
  | declare names values =>
    exact Gives.bind fun _ => gives_pure (environment_declareNames _ _ _)
  | assign targets values => exact Gives.bind fun _ => assignTargets_environment call _ _ _
  | run expression => exact Gives.bind fun _ => gives_pure rfl

/-- Statements one after another are run in one environment. -/
theorem runStatements_environment (call : Caller) (statements : List Statement) (frame : Frame) :
    Gives (fun last : Frame => last.environment = frame.environment)
      (runStatements call frame statements) := by
  induction statements generalizing frame with
  | nil => exact gives_pure rfl
  | cons statement rest ih =>
    refine (execute_environment call frame statement).bind_of_gives fun middle same => ?_
    exact same ▸ ih middle

/-! ## Executing a file -/

/-- A run in an environment of the file of a path. A file that cannot be read fails, naming the
path. The text of any other one becomes code by the environment's compiler, under the last part of
the path, and what the compiler reports is the failure. The statements of a script are run in turn,
all of them with the globals of the environment. -/
structure RunsFile (world : World) (id : EnvironmentId) (call : Caller) (held : List Reference)
    (path : String) (run : EStateM.Result Interrupt World (List Value)) : Prop where
  unread : ∀ fault, world.files.text path = .error fault →
    run = .error (.failed (.io (.cannotOpen path fault))) world
  script : ∀ source block, world.files.text path = .ok source →
    (world.environment id).compiler = .script → readScript source.toList = .ok block →
      run = runBlock call { environment := id, held } block world ∧
        ∀ passed frame,
          outcome (runStatements call { environment := id, held } (block.statements.take passed))
              world = .ok frame →
            UsesGlobals id frame
  unreadable : ∀ source error, world.files.text path = .ok source →
    (world.environment id).compiler = .script → readScript source.toList = .error error →
      run = .error (.failed (.compile (Files.baseName path) (.unreadable error))) world
  host : ∀ source compile routine, world.files.text path = .ok source →
    (world.environment id).compiler = .host compile →
      compile (Files.baseName path) source 0 = .ok routine →
        run = call { held } routine.callee [.environment id] world
  reported : ∀ source compile failure, world.files.text path = .ok source →
    (world.environment id).compiler = .host compile →
      compile (Files.baseName path) source 0 = .error failure → run = .error (.failed failure) world

/-- A file that can be read has a name. -/
theorem Files.baseName_of_text {files : Files} {path source : String}
    (readable : files.text path = .ok source) : (Files.baseName path).isEmpty = false := by
  have named : path.isEmpty = false := by
    cases empty : path.isEmpty with
    | false => rfl
    | true =>
      have unread : files.text path = .error .notFound := by
        unfold text bytes
        rw [empty]
        rfl
      rw [unread] at readable
      contradiction
  unfold baseName
  cases last : (steps path).getLast? with
  | none => exact named
  | some step =>
    have part := (List.mem_filter.mp (List.mem_of_getLast? last)).2
    rw [Option.getD_some, String.isEmpty_eq_false_iff]
    rintro rfl
    exact absurd part (by decide)

/-- Scripts are compiled by reading them. -/
theorem Compiler.code_script (name source : String) (parameters : List String) :
    Compiler.script.code name source parameters =
      match readScript source.toList with
      | .ok block => .ok (.script block parameters)
      | .error error => .error (.compile name (.unreadable error)) := rfl

/-- What executing a readable file without arguments comes to: running the code that the
environment's compiler makes of its text. -/
theorem Environment.doFile_of_text {world : World} {id : EnvironmentId} {path source : String}
    (readable : world.files.text path = .ok source) (call : Caller) (held : List Reference) :
    doFile call held id path [] world =
      (match (world.environment id).compiler.code (Files.baseName path) source [] with
        | .ok code => code.run call held [.environment id]
        | .error failure => Action.fail failure : Action (List Value)) world := by
  unfold doFile
  rw [run_view_bind, readable]
  dsimp only
  have compiled : compile id (Files.baseName path) source [] world =
      (match (world.environment id).compiler.code (Files.baseName path) source [] with
        | .ok code => return { name := Files.baseName path, parameters := [], code := some code }
        | .error failure => Action.fail failure : Action Chunk) world := by
    unfold compile
    rw [Files.baseName_of_text readable]
    rfl
  unfold doString
  show (compile id (Files.baseName path) source [] >>= fun chunk =>
    runChunk call held id chunk []) world = _
  rw [bind_of_run_eq compiled]
  cases (world.environment id).compiler.code (Files.baseName path) source [] with
  | ok code => rfl
  | error failure => rfl

/-- Executing a file without arguments runs it in the environment. -/
theorem Environment.doFile_runs (world : World) (id : EnvironmentId) (call : Caller)
    (held : List Reference) (path : String) :
    RunsFile world id call held path (doFile call held id path [] world) where
  unread := by
    intro fault unread
    unfold doFile
    rw [run_view_bind, unread]
    rfl
  script := by
    intro source block readable compiler read
    constructor
    · rw [doFile_of_text readable, compiler, Compiler.code_script, read]
      rfl
    · intro passed frame given
      have same : frame.environment = id :=
        runStatements_environment call _ _ world frame given
      exact same ▸ usesGlobals_environment frame
  unreadable := by
    intro source error readable compiler read
    rw [doFile_of_text readable, compiler, Compiler.code_script, read]
    rfl
  host := by
    intro source compile routine readable compiler made
    have coded : (Compiler.host compile).code (Files.baseName path) source [] =
      (compile (Files.baseName path) source 0).map Code.host := rfl
    rw [doFile_of_text readable, compiler, coded, made]
    rfl
  reported := by
    intro source compile failure readable compiler made
    have coded : (Compiler.host compile).code (Files.baseName path) source [] =
      (compile (Files.baseName path) source 0).map Code.host := rfl
    rw [doFile_of_text readable, compiler, coded, made]
    rfl

end ScriptHost
