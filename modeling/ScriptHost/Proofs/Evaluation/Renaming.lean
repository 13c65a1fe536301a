import ScriptHost.Evaluation.Call
import ScriptHost.Proofs.Script.Renaming

/-!
# Parameter names do not matter

A script in which one parameter has another, unused name runs as the script itself. Its
frames are those of the script with that local renamed: what they hold is the same and in
the same order, a name finds the same local or none, and a name that finds none is the
same in both, since the renamed one is a local from the start to the end.
-/

namespace ScriptHost

open ScriptHost.Action Script

/-! ## Frames -/

namespace Frame

/-- The names of the locals. -/
def names (frame : Frame) : List String := frame.locals.map Prod.fst

/-- A frame with its locals renamed. -/
def rename (old new : String) (frame : Frame) : Frame :=
  { frame with locals := frame.locals.map (Prod.map (renameName old new) id) }

/-- A frame allows a renaming if it has a local of the old name and none of the new one. -/
structure Allows (old new : String) (frame : Frame) : Prop where
  bound : old ∈ frame.names
  fresh : new ∉ frame.names

variable {old new : String} {frame : Frame}

/-- Holding values besides and renaming can change places. -/
@[simp]
theorem rename_keep (values : List Value) :
    (frame.rename old new).keep values = (frame.keep values).rename old new :=
  rfl

/-- Holding a table besides and renaming can change places. -/
@[simp]
theorem rename_keepTable (table : Table) :
    (frame.rename old new).keepTable table = (frame.keepTable table).rename old new :=
  rfl

/-- What is held besides does not matter for a renaming. -/
@[simp]
theorem allows_keep (values : List Value) :
    (frame.keep values).Allows old new ↔ frame.Allows old new :=
  ⟨fun ⟨bound, fresh⟩ => ⟨bound, fresh⟩, fun ⟨bound, fresh⟩ => ⟨bound, fresh⟩⟩

/-- What is held besides does not matter for a renaming. -/
@[simp]
theorem allows_keepTable (table : Table) :
    (frame.keepTable table).Allows old new ↔ frame.Allows old new :=
  ⟨fun ⟨bound, fresh⟩ => ⟨bound, fresh⟩, fun ⟨bound, fresh⟩ => ⟨bound, fresh⟩⟩

/-- A renaming keeps what a frame holds, in order. -/
@[simp]
theorem holds_rename (frame : Frame) : (frame.rename old new).holds = frame.holds := by
  simp [holds, rename, List.flatMap_map]

/-- A renaming keeps the context of what is called. -/
@[simp]
theorem context_rename (frame : Frame) : (frame.rename old new).context = frame.context := by
  simp only [context, holds_rename]
  rfl

/-- A renamed name finds the local that the name has found. -/
theorem find?_rename {name : String} (fresh : new ∉ frame.names) (other : name ≠ new) :
    (frame.rename old new).find? (renameName old new name) = frame.find? name := by
  obtain ⟨environment, locals, extras, held⟩ := frame
  unfold find? rename
  unfold names at fresh
  dsimp only at fresh ⊢
  induction locals with
  | nil => rfl
  | cons entry rest ih =>
    obtain ⟨key, value⟩ := entry
    rw [List.map_cons, List.mem_cons, not_or] at fresh
    have same : renameName old new name == renameName old new key ↔ name == key := by
      simpa only [beq_iff_eq] using renameName_inj other (Ne.symm fresh.1)
    simp only [List.map_cons, Prod.map_apply, id_eq, List.lookup_cons, ih fresh.2,
      Bool.eq_iff_iff.mpr same]

/-- A bound name finds a local. -/
theorem find?_of_bound {name : String} (bound : name ∈ frame.names) :
    ∃ value, frame.find? name = some value := by
  obtain ⟨⟨_, value⟩, member, rfl⟩ := List.mem_map.mp bound
  exact Option.isSome_iff_exists.mp (List.lookup_isSome_iff.mpr ⟨_, member, beq_self_eq_true _⟩)

/-- A name that finds no local is not renamed, since the old name always finds one. -/
theorem Allows.renameName_of_missing {name : String} (allows : frame.Allows old new)
    (missing : frame.find? name = none) : renameName old new name = name := by
  refine renameName_of_ne new ?_
  rintro rfl
  obtain ⟨value, found⟩ := find?_of_bound allows.bound
  exact nomatch missing.symm.trans found

/-- Declaring a local and renaming can change places. -/
theorem rename_declare {name : String} (value : Value) (fresh : new ∉ frame.names)
    (other : name ≠ new) :
    (frame.rename old new).declare (renameName old new name) value =
      (frame.declare name value).rename old new := by
  obtain ⟨environment, locals, extras, held⟩ := frame
  simp only [declare, rename, mk.injEq, true_and, and_true]
  unfold names at fresh
  dsimp only at fresh
  induction locals with
  | nil => rfl
  | cons entry rest ih =>
    obtain ⟨key, old⟩ := entry
    rw [List.map_cons, List.mem_cons, not_or] at fresh
    simp only [List.map_cons, Prod.map_apply, id_eq, put,
      renameName_inj (Ne.symm fresh.1) other]
    split
    · rfl
    · rw [List.map_cons, ih fresh.2]
      rfl

/-- A declared local has a name, and so have the ones before. -/
theorem mem_names_declare {key name : String} (frame : Frame) (value : Value) :
    key ∈ (frame.declare name value).names ↔ key = name ∨ key ∈ frame.names := by
  obtain ⟨environment, locals, extras, held⟩ := frame
  simp only [names, declare]
  induction locals with
  | nil => simp [put]
  | cons entry rest ih =>
    obtain ⟨first, _⟩ := entry
    by_cases same : first = name
    · simp [put, same]
    · simp only [put, if_neg same, List.map_cons, List.mem_cons, ih]
      exact or_left_comm

/-- Declared locals have their names, and so have the ones before. -/
theorem mem_names_declareNames {key : String} (frame : Frame) (declared : List String)
    (values : List Value) :
    key ∈ (declareNames frame declared values).names ↔ key ∈ declared ∨ key ∈ frame.names := by
  induction declared generalizing frame values with
  | nil => simp [declareNames]
  | cons name rest ih =>
    rw [declareNames, ih, mem_names_declare, List.mem_cons, or_left_comm, or_assoc]

/-- Declaring locals and renaming can change places. -/
theorem rename_declareNames (declared : List String) (values : List Value)
    (fresh : new ∉ frame.names) (unused : new ∉ declared) :
    declareNames (frame.rename old new) (declared.map (renameName old new)) values =
      (declareNames frame declared values).rename old new := by
  induction declared generalizing frame values with
  | nil => rfl
  | cons name rest ih =>
    rw [List.mem_cons, not_or] at unused
    rw [List.map_cons, declareNames, declareNames,
      rename_declare _ fresh (Ne.symm unused.1), ih _ _ unused.2]
    rw [mem_names_declare, not_or]
    exact ⟨unused.1, fresh⟩

/-- Declaring locals of other names than the new one keeps what a frame allows. -/
theorem Allows.declareNames (allows : frame.Allows old new) (declared : List String)
    (values : List Value) (unused : new ∉ declared) :
    (declareNames frame declared values).Allows old new where
  bound := (mem_names_declareNames frame declared values).mpr (.inr allows.bound)
  fresh member :=
    ((mem_names_declareNames frame declared values).mp member).elim unused allows.fresh

end Frame

section Simulation

variable {old new : String} (call : Caller)

/-! ## Expressions -/

/-- A renamed name has the value that the name has had. -/
theorem lookupName_rename {frame : Frame} {name : String} (allows : frame.Allows old new)
    (other : name ≠ new) :
    lookupName call (frame.rename old new) (renameName old new name) =
      lookupName call frame name := by
  unfold lookupName
  rw [Frame.find?_rename allows.fresh other]
  cases found : frame.find? name with
  | some value => rfl
  | none =>
    rw [allows.renameName_of_missing found, Frame.holds_rename]
    rfl

mutual

/-- A renamed expression has the values that the expression has had. -/
theorem evaluate_rename {frame : Frame} (allows : frame.Allows old new) :
    (expression : Expression) → new ∉ expression.variables →
      evaluate call (frame.rename old new) (expression.rename old new) =
        evaluate call frame expression
  | .nil, _ | .boolean _, _ | .integer _, _ | .number _, _ | .text _, _ | .varargs, _ => by
    simp only [Expression.rename, evaluate]
    try rfl
  | .name name, unused => by
    rw [Expression.variables, List.mem_singleton] at unused
    rw [Expression.rename, evaluate, evaluate, lookupName_rename call allows (Ne.symm unused)]
  | .index object key, unused => by
    rw [Expression.variables, List.mem_append, not_or] at unused
    simp only [Expression.rename, evaluate, evaluate_rename allows object unused.1,
      Frame.rename_keep, Frame.context_rename,
      fun values => evaluate_rename ((Frame.allows_keep values).mpr allows) key unused.2]
  | .call callee arguments, unused => by
    rw [Expression.variables, List.mem_append, not_or] at unused
    simp only [Expression.rename, evaluate, evaluate_rename allows callee unused.1,
      Frame.rename_keep, Frame.context_rename,
      fun values => evaluateList_rename ((Frame.allows_keep values).mpr allows) arguments unused.2]
  | .method object name arguments, unused => by
    rw [Expression.variables, List.mem_append, not_or] at unused
    simp only [Expression.rename, evaluate, evaluate_rename allows object unused.1,
      Frame.rename_keep, Frame.context_rename,
      fun values => evaluateList_rename ((Frame.allows_keep values).mpr allows) arguments unused.2]
  | .binary op left right, unused => by
    rw [Expression.variables, List.mem_append, not_or] at unused
    have first := evaluate_rename allows left unused.1
    have second (values : List Value) :=
      evaluate_rename ((Frame.allows_keep values).mpr allows) right unused.2
    cases op <;>
      simp only [Expression.rename, evaluate, first, Frame.rename_keep, second]
  | .unary op operand, unused => by
    rw [Expression.variables] at unused
    cases op <;> simp only [Expression.rename, evaluate, evaluate_rename allows operand unused]
  | .table fields, unused => by
    rw [Expression.variables] at unused
    simp only [Expression.rename, evaluate, evaluateFields_rename allows default 1 fields unused]
  | .paren inner, unused => by
    rw [Expression.variables] at unused
    simp only [Expression.rename, evaluate, evaluate_rename allows inner unused]

/-- Renamed expressions have the values that the expressions have had. -/
theorem evaluateList_rename {frame : Frame} (allows : frame.Allows old new) :
    (expressions : List Expression) → new ∉ Expression.allVariables expressions →
      evaluateList call (frame.rename old new) (Expression.renameAll old new expressions) =
        evaluateList call frame expressions
  | [], _ => by
    simp only [Expression.renameAll, evaluateList]
  | [last], unused => by
    rw [Expression.allVariables, List.mem_append, not_or] at unused
    simp only [Expression.renameAll, evaluateList, evaluate_rename allows last unused.1]
  | expression :: next :: rest, unused => by
    rw [Expression.allVariables, List.mem_append, not_or] at unused
    have others (values : List Value) :=
      evaluateList_rename ((Frame.allows_keep values).mpr allows) (next :: rest) unused.2
    rw [Expression.renameAll] at others
    simp only [Expression.renameAll, evaluateList, evaluate_rename allows expression unused.1,
      Frame.rename_keep, others]

/-- Renamed fields make the table that the fields have made. -/
theorem evaluateFields_rename {frame : Frame} (allows : frame.Allows old new) (table : Table)
    (position : Nat) :
    (fields : List Field) → new ∉ Field.allVariables fields →
      evaluateFields call (frame.rename old new) table position (Field.renameAll old new fields) =
        evaluateFields call frame table position fields
  | [], _ => by
    simp only [Field.renameAll, evaluateFields]
  | [.positional last], unused => by
    rw [Field.allVariables, List.mem_append, not_or] at unused
    have only := evaluate_rename ((Frame.allows_keepTable table).mpr allows) last unused.1
    simp only [Field.renameAll, evaluateFields, Frame.rename_keepTable, only]
  | .positional value :: next :: rest, unused => by
    rw [Field.allVariables, List.mem_append, not_or] at unused
    have first := evaluate_rename ((Frame.allows_keepTable table).mpr allows) value unused.1
    have others (table : Table) (position : Nat) :=
      evaluateFields_rename allows table position (next :: rest) unused.2
    have more : Field.renameAll old new (next :: rest) ≠ [] := by
      cases next <;> simp [Field.renameAll]
    rw [Field.renameAll, evaluateFields, evaluateFields, Frame.rename_keepTable, first]
    · simp only [others]
    all_goals simp [more]
  | .keyed key value :: rest, unused => by
    simp only [Field.allVariables, List.mem_append, not_or] at unused
    have first := evaluate_rename ((Frame.allows_keepTable table).mpr allows) key unused.1.1
    have second (values : List Value) :=
      evaluate_rename ((Frame.allows_keep values).mpr ((Frame.allows_keepTable table).mpr allows))
        value unused.1.2
    have others (table : Table) := evaluateFields_rename allows table position rest unused.2
    simp only [Field.renameAll, evaluateFields, Frame.rename_keepTable, first, Frame.rename_keep,
      second, others]

end

/-! ## Statements -/

/-- Renamed code that leaves a frame follows the code it comes from: whatever runs in the renamed
frame as the other does in the frame itself, the two runs are the same. -/
structure Follows (old new : String) (renamed plain : Action Frame) : Prop where
  same_after {Result : Type} {afterRenamed after : Frame → Action Result} :
    (∀ frame : Frame, frame.Allows old new → afterRenamed (frame.rename old new) = after frame) →
      renamed >>= afterRenamed = plain >>= after

/-- A frame is followed by the renamed one. -/
theorem Follows.pure {frame : Frame} (allows : frame.Allows old new) :
    Follows old new (pure (frame.rename old new)) (pure frame) :=
  ⟨fun same => same frame allows⟩

/-- What runs first in both may be anything. -/
theorem Follows.after {Found : Type} (first : Action Found) {renamed plain : Found → Action Frame}
    (follows : ∀ found, Follows old new (renamed found) (plain found)) :
    Follows old new (first >>= renamed) (first >>= plain) where
  same_after same := by simp only [bind_assoc, (follows _).same_after same]

/-- Steps that follow one another do so together. -/
theorem Follows.bind {renamed plain : Action Frame} {renamedNext next : Frame → Action Frame}
    (follows : Follows old new renamed plain)
    (nextFollows : ∀ frame : Frame, frame.Allows old new →
      Follows old new (renamedNext (frame.rename old new)) (next frame)) :
    Follows old new (renamed >>= renamedNext) (plain >>= next) where
  same_after same := by
    simp only [bind_assoc]
    exact follows.same_after fun frame allows => (nextFollows frame allows).same_after same

/-- A failure is followed by itself. -/
theorem Follows.fault (cause : TypeFault) : Follows old new (fault cause) (fault cause) :=
  ⟨fun _ => rfl⟩

/-- Assigning to a renamed name follows assigning to the name. -/
theorem assignName_follows {frame : Frame} {name : String} (allows : frame.Allows old new)
    (other : name ≠ new) (value : Value) :
    Follows old new (assignName (frame.rename old new) (renameName old new name) value)
      (assignName frame name value) := by
  unfold assignName
  rw [Frame.find?_rename allows.fresh other]
  cases found : frame.find? name with
  | some value' =>
    dsimp only
    rw [Frame.rename_declare value allows.fresh other]
    exact .pure (allows.declareNames [name] [value] (by simpa using Ne.symm other))
  | none =>
    rw [allows.renameName_of_missing found]
    exact .after _ fun _ => .pure allows

/-- Assigning to a renamed target follows assigning to the target. -/
theorem assignTarget_follows {frame : Frame} (allows : frame.Allows old new) (target : Expression)
    (unused : new ∉ target.variables) (values : List Value) :
    Follows old new (assignTarget call (frame.rename old new) (target.rename old new) values)
      (assignTarget call frame target values) := by
  cases target
  case name name =>
    rw [Expression.variables, List.mem_singleton] at unused
    rw [Expression.rename]
    exact assignName_follows allows (Ne.symm unused) _
  case index object key =>
    rw [Expression.variables, List.mem_append, not_or] at unused
    have busy := (Frame.allows_keep values).mpr allows
    have second (values : List Value) :=
      evaluate_rename call ((Frame.allows_keep values).mpr busy) key unused.2
    simp only [Expression.rename, assignTarget, Frame.rename_keep, Frame.holds_rename,
      evaluate_rename call busy object unused.1, second]
    exact .after _ fun _ => .after _ fun _ => .after _ fun _ => .pure allows
  all_goals
    rw [Expression.rename]
    exact .fault .assignmentTarget

/-- Assigning to renamed targets follows assigning to the targets. -/
theorem assignTargets_follows {frame : Frame} (allows : frame.Allows old new)
    (targets : List Expression) (unused : new ∉ Expression.allVariables targets)
    (values : List Value) :
    Follows old new
      (assignTargets call (frame.rename old new) (Expression.renameAll old new targets) values)
      (assignTargets call frame targets values) := by
  induction targets generalizing frame values with
  | nil =>
    rw [Expression.renameAll]
    exact .pure allows
  | cons target rest ih =>
    rw [Expression.allVariables, List.mem_append, not_or] at unused
    rw [Expression.renameAll, assignTargets, assignTargets]
    exact (assignTarget_follows call allows target unused.1 values).bind fun frame allows =>
      ih allows unused.2 _

/-- A renamed statement follows the statement. -/
theorem execute_follows {frame : Frame} (allows : frame.Allows old new) (statement : Statement)
    (unused : new ∉ statement.variables) :
    Follows old new (execute call (frame.rename old new) (statement.rename old new))
      (execute call frame statement) := by
  cases statement with
  | declare names values =>
    rw [Statement.variables, List.mem_append, not_or] at unused
    simp only [Statement.rename, execute, evaluateList_rename call allows values unused.2,
      Frame.rename_declareNames names _ allows.fresh unused.1]
    exact .after _ fun values => .pure (allows.declareNames names values unused.1)
  | assign targets values =>
    rw [Statement.variables, List.mem_append, not_or] at unused
    simp only [Statement.rename, execute, evaluateList_rename call allows values unused.2]
    exact .after _ fun values => assignTargets_follows call allows targets unused.1 values
  | run expression =>
    simp only [Statement.rename, execute, evaluate_rename call allows expression unused]
    exact .after _ fun _ => .pure allows

/-- Renamed statements follow the statements. -/
theorem runStatements_follows {frame : Frame} (allows : frame.Allows old new)
    (statements : List Statement) (unused : ∀ statement ∈ statements, new ∉ statement.variables) :
    Follows old new
      (runStatements call (frame.rename old new) (statements.map (Statement.rename old new)))
      (runStatements call frame statements) := by
  induction statements generalizing frame with
  | nil => exact .pure allows
  | cons statement rest ih =>
    obtain ⟨first, others⟩ := List.forall_mem_cons.mp unused
    rw [List.map_cons, runStatements, runStatements]
    exact (execute_follows call allows statement first).bind fun frame allows => ih allows others

/-! ## Blocks and scripts -/

/-- A renamed block returns what the block has returned. -/
theorem runBlock_rename {frame : Frame} (allows : frame.Allows old new) {block : Block}
    (unused : new ∉ block.variables) :
    runBlock call (frame.rename old new) (block.rename old new) = runBlock call frame block := by
  rw [Block.variables, List.mem_append, not_or, List.mem_flatMap] at unused
  obtain ⟨inStatements, inResult⟩ := unused
  have each (statement : Statement) (member : statement ∈ block.statements) :
      new ∉ statement.variables := fun used => inStatements ⟨statement, member, used⟩
  unfold runBlock
  refine (runStatements_follows call allows block.statements each).same_after fun frame allows => ?_
  cases found : block.result with
  | none => simp only [Block.rename, found, Option.map_none]
  | some expressions =>
    rw [found] at inResult
    simp only [Block.rename, found, Option.map_some]
    exact evaluateList_rename call allows expressions inResult

/-- Give one parameter of a script another name that the script does not use, everywhere it is
declared, read or assigned to. The script runs as before, whatever environment, extra arguments and
calls it runs with: from every world it gives the same results or the same interruption, and leaves
the same world. -/
theorem runScript_rename (held : List Reference) {block : Block} {parameters : List String}
    (parameter : old ∈ parameters) (unused : new ∉ block.variables) (free : new ∉ parameters)
    (arguments : List Value) (world : World) :
    runScript call held (block.rename old new) (parameters.map (renameName old new)) arguments
        world =
      runScript call held block parameters arguments world := by
  unfold runScript
  split
  · next environment rest =>
    rw [List.length_map]
    refine congrFun ?_ world
    let start : Frame := { environment, extras := rest.drop parameters.length, held }
    have renamed : declareNames (start.rename old new) (parameters.map (renameName old new)) rest =
        (declareNames start parameters rest).rename old new :=
      Frame.rename_declareNames parameters rest List.not_mem_nil free
    have allows : (declareNames start parameters rest).Allows old new :=
      ⟨(Frame.mem_names_declareNames start parameters rest).mpr (.inl parameter), fun member =>
        ((Frame.mem_names_declareNames start parameters rest).mp member).elim free
          List.not_mem_nil⟩
    exact (congrArg (runBlock call · (block.rename old new)) renamed).trans
      (runBlock_rename call allows unused)
  · rfl

end Simulation

/-- A script that adds to its parameter and then declares it again with a field of that name. -/
def redeclaring : Block where
  statements :=
    [.assign [.name "x"] [.binary .concat (.name "x") (.text "x")],
      .declare ["x"] [.table [.keyed (.text "x") (.name "x")]]]
  result := some [.index (.name "x") (.text "x")]

/-- The field keeps its name when the parameter gets another one. -/
theorem runScript_rename_redeclaring :
    "x" ∈ ["x"] ∧ "y" ∉ redeclaring.variables ∧ "y" ∉ ["x"] ∧
      runScript caller [] (redeclaring.rename "x" "y") ["y"]
          [.reference (.environment ⟨0⟩), .text "a"] {} =
        runScript caller [] redeclaring ["x"] [.reference (.environment ⟨0⟩), .text "a"] {} := by
  have parameter : "x" ∈ ["x"] := by decide
  have unused : "y" ∉ redeclaring.variables := by decide
  have free : "y" ∉ ["x"] := by decide
  exact ⟨parameter, unused, free, runScript_rename caller [] parameter unused free _ _⟩

end ScriptHost
