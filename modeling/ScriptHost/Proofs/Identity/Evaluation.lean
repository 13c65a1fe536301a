import ScriptHost.Evaluation.Chunk
import ScriptHost.Proofs.Identity.Members
import ScriptHost.Proofs.Isolation.Evaluation

/-!
# Evaluation matches

Frames match if they are in the same environment and hold the same, and their locals and extra
arguments match. In matching frames and worlds an expression, a statement and a whole chunk do
alike, given that the calls they make do.
-/

namespace ScriptHost

open ScriptHost.Action Script World

variable {pairing small large : Pairing}

/-! ## Operators -/

/-- A step that can fail matches itself if what it gives has no reference. -/
theorem matches_of_content {Cause : Type} {reply : Except Cause Value}
    (content : ∀ {value}, reply = .ok value → value.Within fun _ => False) :
    ReplyMatches Value.Matches pairing reply reply := by
  cases reply with
  | error cause => exact .error cause
  | ok value => exact .ok (.content fun target same => content rfl target same)

/-- Operators do alike to matching values. -/
theorem Value.Matches.operate {left right other further : Value}
    (matched : left.Matches pairing right) (others : other.Matches pairing further)
    (op : BinaryOperator) :
    ReplyMatches Value.Matches pairing (left.operate op other) (right.operate op further) := by
  have text {left right : Value} (matched : left.Matches pairing right) :
      left.text? = right.text? :=
    matched.congr Value.text? (fun _ _ => rfl) fun _ _ => rfl
  have word {left right : Value} (matched : left.Matches pairing right) :
      left.word? = right.word? :=
    matched.congr Value.word? (fun _ _ => rfl) fun _ _ => rfl
  have joined {left right : Value} (matched : left.Matches pairing right) :
      left.concatText? = right.concatText? :=
    matched.congr Value.concatText? (fun _ _ => rfl) fun _ _ => rfl
  have order : left.order other = right.order further := by
    unfold Value.order
    rw [matched.toDouble?, others.toDouble?, text matched, text others, matched.kind, others.kind]
  have computed : left.arithmetic op other = right.arithmetic op further := by
    unfold Value.arithmetic Value.onWords?
    rw [matched.toDouble?, others.toDouble?, word matched, word others, matched.kind, others.kind]
  have same : left.operate op other = right.operate op further := by
    unfold Value.operate Value.concatenate
    rw [matched.scriptEqual others, order, computed, joined matched, joined others, matched.kind,
      others.kind]
  rw [same]
  exact matches_of_content Value.operate_within

/-- Negation does alike to matching values. -/
theorem Value.Matches.negate {left right : Value} (matched : left.Matches pairing right) :
    ReplyMatches Value.Matches pairing left.negate right.negate := by
  rw [matched.congr Value.negate (fun _ _ => rfl) fun _ _ => rfl]
  exact matches_of_content Value.negate_within

/-! ## Frames -/

/-- Lists of values that match stand for matching values. -/
theorem AllMatch.firstValue {values others : List Value} (all : AllMatch pairing values others) :
    (firstValue values).Matches pairing (firstValue others) :=
  all.headD

/-- Locals of one name with matching values. -/
def LocalMatches (pairing : Pairing) (left right : String × Value) : Prop :=
  left.1 = right.1 ∧ left.2.Matches pairing right.2

/-- Frames in one environment that hold the same, with matching locals and extra arguments. -/
structure Frame.Matches (pairing : Pairing) (left right : Frame) : Prop where
  environment : left.environment = right.environment
  locals : List.Forall₂ (LocalMatches pairing) left.locals right.locals
  extras : AllMatch pairing left.extras right.extras
  held : left.held = right.held

instance Frame.lasting : Lasting Frame.Matches :=
  ⟨fun grows matched =>
    { matched with
      locals := matched.locals.imp fun _ _ known => ⟨known.1, known.2.mono grows⟩
      extras := AllMatch.mono matched.extras grows }⟩

namespace Frame.Matches

variable {frame other : Frame} (matched : frame.Matches pairing other)
include matched

/-- Matching frames have matching locals under a name. -/
theorem find? (name : String) :
    OptionMatches Value.Matches pairing (frame.find? name) (other.find? name) := by
  have found {left right : List (String × Value)}
      (locals : List.Forall₂ (LocalMatches pairing) left right) :
      OptionMatches Value.Matches pairing (left.lookup name) (right.lookup name) := by
    induction locals with
    | nil => exact .none
    | @cons first second _ _ known _ ih =>
      obtain ⟨key, value⟩ := first
      obtain ⟨further, last⟩ := second
      obtain ⟨(rfl : key = further), values⟩ := known
      rw [List.lookup_cons, List.lookup_cons]
      split
      · exact .some values
      · exact ih
  exact found matched.locals

/-- Frames match with a matching local more. -/
theorem declare (name : String) {value further : Value} (values : value.Matches pairing further) :
    (frame.declare name value).Matches pairing (other.declare name further) where
  environment := matched.environment
  locals := by
    have put {left right : List (String × Value)}
        (locals : List.Forall₂ (LocalMatches pairing) left right) :
        List.Forall₂ (LocalMatches pairing) (Frame.put name value left)
          (Frame.put name further right) := by
      induction locals with
      | nil => exact .cons ⟨rfl, values⟩ .nil
      | @cons first second _ _ known rest ih =>
        obtain ⟨key, old⟩ := first
        obtain ⟨_, last⟩ := second
        obtain ⟨(rfl : key = _), olds⟩ := known
        unfold Frame.put
        split
        · exact .cons ⟨rfl, values⟩ rest
        · exact .cons ⟨rfl, olds⟩ ih
    exact put matched.locals
  extras := matched.extras
  held := matched.held

/-- Frames match that hold matching values besides. -/
theorem keep {values others : List Value} (all : AllMatch pairing values others) :
    (frame.keep values).Matches pairing (other.keep others) :=
  { matched with held := by rw [Frame.keep, Frame.keep, all.holds, matched.held] }

/-- Frames match that hold what matching tables hold besides. -/
theorem keepTable {table rest : Table} (tables : table.Matches pairing rest) :
    (frame.keepTable table).Matches pairing (other.keepTable rest) :=
  { matched with held := by rw [Frame.keepTable, Frame.keepTable, tables.holds, matched.held] }

/-- Matching frames hold the same. -/
theorem holds : frame.holds = other.holds := by
  have locals : frame.locals.flatMap (·.2.holds) = other.locals.flatMap (·.2.holds) := by
    rw [List.flatMap_def, List.flatMap_def]
    exact congrArg _ (map_eq_of_forall₂ (fun _ _ known => known.2.holds) matched.locals)
  unfold Frame.holds
  rw [locals, matched.extras.holds, matched.held]

/-- What matching frames call runs in the same context. -/
theorem context : frame.context = other.context := by
  unfold Frame.context
  rw [matched.environment, matched.holds]

omit matched in
/-- Frames match with matching locals more. -/
theorem declareNames {frame other : Frame} (matched : frame.Matches pairing other)
    (names : List String) {values others : List Value} (all : AllMatch pairing values others) :
    (declareNames frame names values).Matches pairing (declareNames other names others) := by
  induction names generalizing frame other values others with
  | nil => exact matched
  | cons name rest ih => exact ih (matched.declare name all.firstValue) (all.drop 1)

end Frame.Matches

/-- Matching values placed at positions of matching tables leave these matching. -/
theorem Table.Matches.placeValues {table other : Table} (tables : table.Matches pairing other)
    (position : Nat) {values others : List Value} (all : AllMatch pairing values others) :
    (placeValues table position values).Matches pairing (placeValues other position others) := by
  induction all generalizing table other position with
  | nil => exact tables
  | cons first _ ih =>
    have key : Key.Matches pairing (.integer (Int64.ofNat position))
        (.integer (Int64.ofNat position)) := .content nofun
    exact ih (tables.write key first) (position + 1)

/-! ## Expressions -/

/-- Looking a name up in matching frames matches. -/
theorem lookupName_matches {call : Caller} (blind : call.Blind) {frame other : Frame}
    (frames : frame.Matches pairing other) (name : String) :
    Action.Matches Value.Matches pairing (lookupName call frame name)
      (lookupName call other name) := by
  unfold lookupName
  rcases rel_cases (frames.find? name) with ⟨none, absent⟩ | ⟨_, _, known, there, values⟩
  · rw [none, absent, frames.holds, frames.environment]
    exact Environment.getGlobal_matches blind _ _ name
  · rw [known, there]
    exact matches_pure values

/-- An action that gives one of matching values matches. -/
theorem matches_single {action other : Action Value}
    (matched : Action.Matches Value.Matches pairing action other) :
    Action.Matches AllMatch pairing (do return [← action]) (do return [← other]) :=
  matched.map fun _ _ _ _ values => AllMatch.singleton values

mutual

/-- Evaluating an expression in matching frames matches. -/
theorem evaluate_matches {call : Caller} (blind : call.Blind) {pairing : Pairing}
    {frame other : Frame} (frames : frame.Matches pairing other) :
    (expression : Expression) →
      Action.Matches AllMatch pairing (evaluate call frame expression)
        (evaluate call other expression)
  | .nil => by
    rw [evaluate, evaluate]
    exact matches_pure (AllMatch.singleton .nil)
  | .boolean content => by
    rw [evaluate, evaluate]
    exact matches_pure (AllMatch.singleton (.boolean content))
  | .integer content => by
    rw [evaluate, evaluate]
    exact matches_pure (AllMatch.singleton (.ofInt64 content))
  | .number content => by
    rw [evaluate, evaluate]
    exact matches_pure (AllMatch.singleton (.number content))
  | .text content => by
    rw [evaluate, evaluate]
    exact matches_pure (AllMatch.singleton (.text content))
  | .varargs => by
    rw [evaluate, evaluate]
    exact matches_pure frames.extras
  | .name name => by
    rw [evaluate, evaluate]
    exact matches_single (lookupName_matches blind frames name)
  | .index object key => by
    rw [evaluate, evaluate, frames.context]
    refine (evaluate_matches blind frames object).bind fun _ grows _ _ objects => ?_
    have frames : frame.Matches _ other := Lasting.mono grows frames
    refine (evaluate_matches blind (frames.keep (AllMatch.singleton objects.firstValue)) key).bind
      fun _ more _ _ keys => ?_
    exact matches_single (Value.index_matches blind _ (objects.firstValue.mono more) keys.firstValue)
  | .call callee arguments => by
    rw [evaluate, evaluate, frames.context]
    refine (evaluate_matches blind frames callee).bind fun _ grows _ _ callees => ?_
    have frames : frame.Matches _ other := Lasting.mono grows frames
    refine (evaluateList_matches blind (frames.keep (AllMatch.singleton callees.firstValue))
      arguments).bind fun _ more _ _ given => ?_
    exact Value.apply_matches blind _ (callees.firstValue.mono more) given
  | .method object name arguments => by
    rw [evaluate, evaluate, frames.context]
    refine (evaluate_matches blind frames object).bind fun _ grows _ _ objects => ?_
    have frames : frame.Matches _ other := Lasting.mono grows frames
    refine (evaluateList_matches blind (frames.keep (AllMatch.singleton objects.firstValue))
      arguments).bind fun _ more _ _ given => ?_
    exact Value.applyMethod_matches blind _ (objects.firstValue.mono more) name given
  | .binary op left right => by
    -- The right operand of each operator is evaluated in the frame that holds the left one.
    have second {pairing : Pairing} {value further : Value} (frames : frame.Matches pairing other)
        (values : value.Matches pairing further) :
        Action.Matches AllMatch pairing (evaluate call (frame.keep [value]) right)
          (evaluate call (other.keep [further]) right) :=
      evaluate_matches blind (frames.keep (AllMatch.singleton values)) right
    have both (op : BinaryOperator) :
        Action.Matches AllMatch pairing (do
          let left := firstValue (← evaluate call frame left)
          let right := firstValue (← evaluate call (frame.keep [left]) right)
          return [← ofFaulty (left.operate op right)]) (do
          let left := firstValue (← evaluate call other left)
          let right := firstValue (← evaluate call (other.keep [left]) right)
          return [← ofFaulty (left.operate op right)]) := by
      refine (evaluate_matches blind frames left).bind fun _ grows _ _ lefts => ?_
      refine (second (Lasting.mono grows frames) lefts.firstValue).bind fun _ more _ _ rights => ?_
      exact matches_single (matches_ofFaulty ((lefts.firstValue.mono more).operate rights.firstValue op))
    cases op with
    | and =>
      rw [evaluate, evaluate]
      refine (evaluate_matches blind frames left).bind fun _ grows _ _ lefts => ?_
      dsimp only
      rw [lefts.firstValue.isTruthy]
      split
      · exact (second (Lasting.mono grows frames) lefts.firstValue).map fun _ _ _ _ rights =>
          AllMatch.singleton rights.firstValue
      · exact matches_pure (AllMatch.singleton lefts.firstValue)
    | or =>
      rw [evaluate, evaluate]
      refine (evaluate_matches blind frames left).bind fun _ grows _ _ lefts => ?_
      dsimp only
      rw [lefts.firstValue.isTruthy]
      split
      · exact matches_pure (AllMatch.singleton lefts.firstValue)
      · exact (second (Lasting.mono grows frames) lefts.firstValue).map fun _ _ _ _ rights =>
          AllMatch.singleton rights.firstValue
    | _ =>
      rw [evaluate, evaluate]
      exact both _
      all_goals simp
  | .unary op operand => by
    cases op with
    | not =>
      rw [evaluate, evaluate]
      refine (evaluate_matches blind frames operand).map fun _ _ _ _ operands => ?_
      rw [operands.firstValue.isTruthy]
      exact AllMatch.singleton (.boolean _)
    | minus =>
      rw [evaluate, evaluate]
      exact (evaluate_matches blind frames operand).bind fun _ _ _ _ operands =>
        matches_single (matches_ofFaulty operands.firstValue.negate)
  | .table fields => by
    rw [evaluate, evaluate]
    refine (evaluateFields_matches blind frames .empty 1 fields).bind fun _ _ _ _ tables => ?_
    refine (matches_newTable tables).map fun _ _ made _ same => ?_
    subst same
    exact AllMatch.singleton (.table made)
  | .paren inner => by
    rw [evaluate, evaluate]
    exact (evaluate_matches blind frames inner).map fun _ _ _ _ values =>
      AllMatch.singleton values.firstValue

/-- Evaluating a list of expressions in matching frames matches. -/
theorem evaluateList_matches {call : Caller} (blind : call.Blind) {pairing : Pairing}
    {frame other : Frame} (frames : frame.Matches pairing other) :
    (expressions : List Expression) →
      Action.Matches AllMatch pairing (evaluateList call frame expressions)
        (evaluateList call other expressions)
  | [] => by
    rw [evaluateList, evaluateList]
    exact matches_pure .nil
  | [last] => by
    rw [evaluateList, evaluateList]
    exact evaluate_matches blind frames last
  | expression :: next :: rest => by
    rw [evaluateList, evaluateList]
    · refine (evaluate_matches blind frames expression).bind fun _ grows _ _ firsts => ?_
      have frames : frame.Matches _ other := Lasting.mono grows frames
      exact (evaluateList_matches blind (frames.keep (AllMatch.singleton firsts.firstValue))
        (next :: rest)).map fun _ more _ _ others => .cons (firsts.firstValue.mono more) others
    all_goals simp

/-- Evaluating fields in matching frames matches. -/
theorem evaluateFields_matches {call : Caller} (blind : call.Blind) {pairing : Pairing}
    {frame other : Frame} (frames : frame.Matches pairing other) {table further : Table}
    (tables : table.Matches pairing further) (position : Nat) :
    (fields : List Field) →
      Action.Matches Table.Matches pairing (evaluateFields call frame table position fields)
        (evaluateFields call other further position fields)
  | [] => by
    rw [evaluateFields, evaluateFields]
    exact matches_pure tables
  | [.positional last] => by
    rw [evaluateFields, evaluateFields]
    exact (evaluate_matches blind (frames.keepTable tables) last).map fun _ grows _ _ values =>
      (tables.mono grows).placeValues position values
  | .positional value :: next :: rest => by
    rw [evaluateFields, evaluateFields]
    · refine (evaluate_matches blind (frames.keepTable tables) value).bind
        fun _ grows _ _ values => ?_
      have placed := (tables.mono grows).placeValues position (AllMatch.singleton values.firstValue)
      exact evaluateFields_matches blind (Lasting.mono grows frames) placed _ (next :: rest)
    all_goals simp
  | .keyed key value :: rest => by
    rw [evaluateFields, evaluateFields]
    refine (evaluate_matches blind (frames.keepTable tables) key).bind fun _ grows _ _ keys => ?_
    have frames : frame.Matches _ other := Lasting.mono grows frames
    have tables := tables.mono grows
    refine (evaluate_matches blind
      ((frames.keepTable tables).keep (AllMatch.singleton keys.firstValue)) value).bind
      fun _ more _ _ values => ?_
    have frames : frame.Matches _ other := Lasting.mono more frames
    rcases (tables.mono more).set (keys.firstValue.mono more) values.firstValue with
      ⟨fault, stored, storedRight⟩ | ⟨_, _, kept, last, stored, storedRight, _, kepts⟩
    · dsimp only
      rw [stored, storedRight]
      exact matches_throw _
    · dsimp only
      rw [stored, storedRight]
      exact evaluateFields_matches blind frames kepts position rest

end

/-! ## Statements -/

section Statements

variable {call : Caller} (blind : call.Blind) {frame other : Frame}
  (frames : frame.Matches pairing other)
include blind frames

omit blind in
/-- Assigning matching values to a name in matching frames matches. -/
theorem assignName_matches (name : String) {value further : Value}
    (values : value.Matches pairing further) :
    Action.Matches Frame.Matches pairing (assignName frame name value)
      (assignName other name further) := by
  unfold assignName
  rcases rel_cases (frames.find? name) with ⟨none, absent⟩ | ⟨_, _, known, there, _⟩
  · rw [none, absent, frames.environment]
    exact (Environment.setGlobal_matches _ name values).map fun _ grows _ _ _ =>
      Lasting.mono grows frames
  · rw [known, there]
    exact matches_pure (frames.declare name values)

/-- Assigning matching values to a target in matching frames matches. -/
theorem assignTarget_matches (target : Expression) {values others : List Value}
    (all : AllMatch pairing values others) :
    Action.Matches Frame.Matches pairing (assignTarget call frame target values)
      (assignTarget call other target others) := by
  unfold assignTarget
  split
  · exact assignName_matches frames _ all.firstValue
  · refine (evaluate_matches blind (frames.keep all) _).bind fun _ grows _ _ objects => ?_
    have frames : frame.Matches _ other := Lasting.mono grows frames
    have all := AllMatch.mono all grows
    have busy := (frames.keep all).keep (AllMatch.singleton objects.firstValue)
    refine (evaluate_matches blind busy _).bind fun _ more _ _ keys => ?_
    have objects := objects.firstValue.mono more
    have frames : frame.Matches _ other := Lasting.mono more frames
    have all := AllMatch.mono all more
    have busy := ((frames.keep all).keep (AllMatch.singleton objects)).keep
      (AllMatch.singleton keys.firstValue)
    dsimp only
    rw [busy.holds, frames.environment]
    exact (Value.store_matches blind _ _ objects keys.firstValue all.firstValue).map
      fun _ grows _ _ _ => Lasting.mono grows frames
  · exact matches_throw _

omit frames in
/-- Assigning matching values to targets in matching frames matches. -/
theorem assignTargets_matches {pairing : Pairing} {frame other : Frame}
    (frames : frame.Matches pairing other) (targets : List Expression) {values others : List Value}
    (all : AllMatch pairing values others) :
    Action.Matches Frame.Matches pairing (assignTargets call frame targets values)
      (assignTargets call other targets others) := by
  induction targets generalizing pairing frame other values others with
  | nil => exact matches_pure frames
  | cons target rest ih =>
    unfold assignTargets
    exact (assignTarget_matches blind frames target all).bind fun _ grows _ _ frames =>
      ih frames (AllMatch.mono (all.drop 1) grows)

/-- Running a statement in matching frames matches. -/
theorem execute_matches (statement : Statement) :
    Action.Matches Frame.Matches pairing (execute call frame statement)
      (execute call other statement) := by
  cases statement with
  | declare names values =>
    exact (evaluateList_matches blind frames values).map fun _ grows _ _ all =>
      Frame.Matches.declareNames (Lasting.mono grows frames) names all
  | assign targets values =>
    exact (evaluateList_matches blind frames values).bind fun _ grows _ _ all =>
      assignTargets_matches blind (Lasting.mono grows frames) targets all
  | run expression =>
    exact (evaluate_matches blind frames expression).map fun _ grows _ _ _ =>
      Lasting.mono grows frames

omit frames in
/-- Running statements in matching frames matches. -/
theorem runStatements_matches {pairing : Pairing} {frame other : Frame}
    (frames : frame.Matches pairing other) (statements : List Statement) :
    Action.Matches Frame.Matches pairing (runStatements call frame statements)
      (runStatements call other statements) := by
  induction statements generalizing pairing frame other with
  | nil => exact matches_pure frames
  | cons statement rest ih =>
    unfold runStatements
    exact (execute_matches blind frames statement).bind fun _ _ _ _ frames => ih frames

/-- Running a block in matching frames matches. -/
theorem runBlock_matches (block : Block) :
    Action.Matches AllMatch pairing (runBlock call frame block) (runBlock call other block) := by
  unfold runBlock
  refine (runStatements_matches blind frames _).bind fun _ _ _ _ frames => ?_
  split
  · exact evaluateList_matches blind frames _
  · exact matches_pure .nil

end Statements

/-! ## Chunks -/

/-- Code of one script or of matching routines. -/
inductive Code.Matches (pairing : Pairing) : Code → Code → Prop where
  | script (block : Block) (parameters : List String) :
    Matches pairing (.script block parameters) (.script block parameters)
  | host {routine other : Routine} (routines : routine.Matches pairing other) :
    Matches pairing (.host routine) (.host other)

instance Code.lasting : Lasting Code.Matches := by
  constructor
  intro small large left right grows matched
  cases matched with
  | script block parameters => exact .script block parameters
  | host routines => exact .host (Lasting.mono grows routines)

/-- Chunks of one name with the same parameters and matching code. -/
structure Chunk.Matches (pairing : Pairing) (left right : Chunk) : Prop where
  name : left.name = right.name
  parameters : left.parameters = right.parameters
  code : OptionMatches Code.Matches pairing left.code right.code

instance Chunk.lasting : Lasting Chunk.Matches :=
  ⟨fun grows matched => { matched with code := Lasting.mono grows matched.code }⟩

/-- Matching compilers make matching code. -/
theorem Compiler.Matches.compiled {compiler other : Compiler}
    (compilers : compiler.Matches pairing other) (name source : String)
    (parameters : List String) :
    ReplyMatches Code.Matches pairing (compiler.code name source parameters)
      (other.code name source parameters) := by
  cases compilers with
  | script =>
    unfold Compiler.code
    dsimp only
    split
    · exact .ok (.script _ parameters)
    · exact .error _
  | @host compile further code =>
    have made := code name source parameters.length
    unfold Compiler.code
    dsimp only
    generalize compile name source parameters.length = first at made ⊢
    generalize further name source parameters.length = second at made ⊢
    cases made with
    | ok routines => exact .ok (.host routines)
    | error failure => exact .error failure

section Chunks

variable {call : Caller} (blind : call.Blind)
include blind

/-- Running a block with matching arguments matches. -/
theorem runScript_matches (held : List Reference) (block : Block) (parameters : List String)
    {arguments others : List Value} (given : AllMatch pairing arguments others) :
    Action.Matches AllMatch pairing (runScript call held block parameters arguments)
      (runScript call held block parameters others) := by
  unfold runScript
  cases given with
  | nil => exact matches_throw _
  | @cons value _ values others first rest =>
    cases first with
    | content scalar =>
      cases value with
      | reference target => exact absurd rfl (scalar target)
      | _ => exact matches_throw _
    | reference matched =>
      cases matched with
      | environment id =>
        let frame (rest : List Value) : Frame :=
          { environment := id, extras := rest.drop parameters.length, held }
        have frames : (frame values).Matches pairing (frame others) :=
          ⟨rfl, .nil, AllMatch.drop rest parameters.length, rfl⟩
        exact runBlock_matches blind (frames.declareNames parameters rest) block
      | _ => exact matches_throw _

/-- Running matching code with matching arguments matches. -/
theorem Code.run_matches (held : List Reference) {arguments others : List Value}
    (given : AllMatch pairing arguments others) {code other : Code}
    (codes : code.Matches pairing other) :
    Action.Matches AllMatch pairing (code.run call held arguments)
      (other.run call held others) := by
  cases codes with
  | script block parameters => exact runScript_matches blind held block parameters given
  | host routines => exact blind pairing _ _ _ _ _ routines.callee given

namespace Environment

omit blind in
/-- Compiling a chunk matches. -/
theorem compile_matches (id : EnvironmentId) (name source : String)
    (parameters : List (String × Hint)) :
    Action.Matches Chunk.Matches pairing (compile id name source parameters)
      (compile id name source parameters) := by
  unfold compile
  split
  · exact matches_throw _
  · refine (matches_view fun _ _ _ _ worlds => worlds.environment id).bind
      fun _ _ environment other environments => ?_
    have made := environments.compiler.compiled name source (parameters.map (·.1))
    dsimp only
    generalize environment.compiler.code name source (parameters.map (·.1)) = first at made ⊢
    generalize other.compiler.code name source (parameters.map (·.1)) = second at made ⊢
    cases made with
    | ok codes => exact matches_pure ⟨rfl, rfl, .some codes⟩
    | error failure => exact matches_throw _

/-- Executing matching chunks with matching arguments matches. -/
theorem runChunk_matches (held : List Reference) (id : EnvironmentId) {chunk other : Chunk}
    (chunks : chunk.Matches pairing other) {arguments others : List Value}
    (given : AllMatch pairing arguments others) :
    Action.Matches AllMatch pairing (runChunk call held id chunk arguments)
      (runChunk call held id other others) := by
  unfold runChunk
  rcases rel_cases chunks.code with ⟨none, absent⟩ | ⟨_, _, known, there, codes⟩
  · rw [none, absent, chunks.name]
    exact matches_throw _
  · rw [known, there]
    exact Code.run_matches blind held (.cons (.environment id) given) codes

/-- Named arguments that match. -/
abbrev ArgumentsMatch (pairing : Pairing) : List (String × Value) → List (String × Value) → Prop :=
  List.Forall₂ (LocalMatches pairing)

variable {arguments others : List (String × Value)} (given : ArgumentsMatch pairing arguments others)
include given

/-- Executing a source with matching arguments matches. -/
theorem doString_matches (held : List Reference) (id : EnvironmentId) (source name : String) :
    Action.Matches AllMatch pairing (doString call held id source name arguments)
      (doString call held id source name others) := by
  have parameters : arguments.map (fun argument => (argument.1, Hint.ofValue argument.2)) =
      others.map fun argument => (argument.1, Hint.ofValue argument.2) := by
    refine map_eq_of_forall₂ (fun first second known => ?_) given
    rw [known.1, Hint.ofValue, Hint.ofValue, known.2.isNil, known.2.kind]
  have holds : arguments.flatMap (·.2.holds) = others.flatMap (·.2.holds) := by
    rw [List.flatMap_def, List.flatMap_def]
    exact congrArg _ (map_eq_of_forall₂ (fun _ _ known => known.2.holds) given)
  have values : AllMatch pairing (arguments.map (·.2)) (others.map (·.2)) := by
    rw [AllMatch, List.forall₂_map_left_iff, List.forall₂_map_right_iff]
    exact given.imp fun _ _ known => known.2
  unfold doString
  rw [parameters, holds]
  exact (compile_matches id name source _).bind fun _ grows _ _ chunks =>
    runChunk_matches blind _ id chunks (AllMatch.mono values grows)

/-- Executing a file with matching arguments matches. -/
theorem doFile_matches (held : List Reference) (id : EnvironmentId) (path : String) :
    Action.Matches AllMatch pairing (doFile call held id path arguments)
      (doFile call held id path others) := by
  unfold doFile
  refine matches_view_same (fun _ _ _ worlds => by rw [worlds.files]) fun text => ?_
  split
  · exact doString_matches blind given held id _ _
  · exact matches_throw _

/-- Executing bytes with matching arguments matches. -/
theorem doBytes_matches (held : List Reference) (id : EnvironmentId) (content : ByteArray)
    (name : String) :
    Action.Matches AllMatch pairing (doBytes call held id content name arguments)
      (doBytes call held id content name others) := by
  unfold doBytes
  split
  · exact doString_matches blind given held id _ name
  · exact matches_throw _

end Environment

end Chunks

end ScriptHost
