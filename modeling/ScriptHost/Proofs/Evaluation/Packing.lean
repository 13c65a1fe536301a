import Mathlib.Order.Bounds.Defs
import ScriptHost.Proofs.Environment.Builtins
import ScriptHost.Proofs.Evaluation.Effects
import ScriptHost.Proofs.Script.RoundTrip
import ScriptHost.Proofs.Table.FiniteMap

/-!
# Packing arguments

A script that returns a table of its parameters and of its extra arguments returns its
arguments at their positions. Parameters take the first arguments, `nil` where there is
none, and the extra arguments are those left over, so that the fields of the constructor
give the arguments in order, with `nil` behind them at most. What `nil` would take is left
free.
-/

namespace ScriptHost

open ScriptHost.Action Script World

/-! ## Values at positions -/

/-- The entries of values at consecutive positions. There is none for `nil`. -/
def positioned (start : Nat) : List Value → List (Key × Value)
  | [] => []
  | value :: rest =>
    (if value.isNil then [] else [(.integer (Int64.ofNat start), value)]) ++
      positioned (start + 1) rest

section Positioned

variable {start : Nat} {values : List Value}

/-- The entries of values are their positions, each with a value that is not `nil`. -/
theorem mem_positioned {key : Key} {value : Value} :
    (key, value) ∈ positioned start values ↔
      ∃ place, values[place]? = some value ∧ value ≠ .nil ∧
        key = .integer (Int64.ofNat (start + place)) := by
  induction values generalizing start with
  | nil => simp [positioned]
  | cons first rest ih =>
    have here :
        (key, value) ∈ (if first.isNil then [] else [(.integer (Int64.ofNat start), first)]) ↔
          first = value ∧ value ≠ .nil ∧ key = .integer (Int64.ofNat start) := by
      by_cases missing : first = .nil
      · subst missing
        simp only [Value.isNil, if_true, List.not_mem_nil, false_iff]
        rintro ⟨rfl, present, -⟩
        exact present rfl
      · rw [Value.isNil_eq_false missing, if_neg Bool.false_ne_true, List.mem_singleton,
          Prod.mk.injEq]
        constructor
        · rintro ⟨same, rfl⟩
          exact ⟨rfl, missing, same⟩
        · rintro ⟨rfl, -, same⟩
          exact ⟨same, rfl⟩
    rw [positioned, List.mem_append, here, ih]
    constructor
    · rintro (⟨rfl, present, same⟩ | ⟨place, listed, present, same⟩)
      · exact ⟨0, rfl, present, same⟩
      · refine ⟨place + 1, listed, present, ?_⟩
        rw [same, Nat.add_right_comm, Nat.add_assoc]
    · rintro ⟨_ | place, listed, present, same⟩
      · exact .inl ⟨Option.some.inj listed, present, same⟩
      · refine .inr ⟨place, listed, present, ?_⟩
        rw [same, Nat.add_right_comm, Nat.add_assoc]

/-- There is one entry for each value that is not `nil`. -/
theorem length_positioned (start : Nat) (values : List Value) :
    (positioned start values).length = (values.filter (!·.isNil)).length := by
  induction values generalizing start with
  | nil => rfl
  | cons first rest ih =>
    rw [positioned, List.length_append, ih]
    cases missing : first.isNil with
    | true => simp [missing]
    | false =>
      simp only [missing, List.filter_cons_of_pos, Bool.not_false, List.length_cons]
      exact Nat.add_comm _ _

/-- Values that are `nil` take no entries at the end. -/
theorem positioned_append_nil (start : Nat) (values : List Value) (count : Nat) :
    positioned start (values ++ List.replicate count .nil) = positioned start values := by
  induction values generalizing start with
  | nil =>
    induction count generalizing start with
    | zero => rfl
    | succ count ih => exact ih (start + 1)
  | cons first rest ih => rw [List.cons_append, positioned, ih, positioned]

/-- Values placed at free positions are added to the entries. -/
theorem entries_placeValues {table : Table} (room : start + values.length ≤ 2 ^ 63)
    (free : ∀ position, start ≤ position → position < start + values.length →
      findEntry (.integer (Int64.ofNat position)) table.entries = none) :
    (placeValues table start values).entries = table.entries ++ positioned start values := by
  induction values generalizing table start with
  | nil => simp [placeValues, positioned]
  | cons first rest ih =>
    rw [List.length_cons] at room free
    have missing := free start (Nat.le_refl start) (by omega)
    have written := table.entries_write_of_missing first missing
    rw [placeValues, ih (by omega), written, positioned, List.append_assoc]
    intro position after before
    rw [findEntry_eq_none_iff, written, List.map_append, List.mem_append]
    rintro (old | new)
    · exact findEntry_eq_none_iff.mp (free position (by omega) (by omega)) old
    · have same : Key.integer (Int64.ofNat position) = .integer (Int64.ofNat start) := by
        split at new
        · contradiction
        · exact List.mem_singleton.mp new
      have apart := Table.position_inj (by omega) (by omega) same
      omega

end Positioned

/-! ## Packed tables -/

/-- A table that has values at their positions and nothing else. -/
structure Table.Packs (table : Table) (values : List Value) : Prop where
  hook : table.hook = none
  /-- The entries are the values other than `nil`, counted from one. -/
  entries : ∀ key value, (key, value) ∈ table.entries ↔
    ∃ place, values[place]? = some value ∧ value ≠ .nil ∧
      key = .integer (Int64.ofNat (1 + place))
  /-- Each position reads as its value. -/
  read : ∀ (place : Nat) (value : Value), values[place]? = some value →
    table.read (.integer (Int64.ofNat (1 + place))) = value
  count : table.count = (values.filter (!·.isNil)).length
  /-- The length is the largest number of first values of which none is `nil`. -/
  length : IsGreatest {length | ∀ place < length, ∃ value, values[place]? = some value ∧
    value ≠ .nil} table.length

namespace Table

variable {table : Table} {values : List Value}

/-- What is found at a position is the value that is listed there, and that is not `nil`. -/
theorem listed_of_findEntry (room : values.length < 2 ^ 63) {place : Nat}
    (small : 1 + place < 2 ^ 63) {value : Value}
    (known : findEntry (.integer (Int64.ofNat (1 + place))) (positioned 1 values) = some value) :
    values[place]? = some value ∧ value ≠ .nil := by
  obtain ⟨other, listed, present, same⟩ := mem_positioned.mp (mem_of_findEntry known)
  have low : other < values.length := (List.getElem?_eq_some_iff.mp listed).1
  have here := position_inj small (by omega) same
  obtain rfl : place = other := by omega
  exact ⟨listed, present⟩

variable (written : table.Written) (room : values.length < 2 ^ 63)
  (entries : table.entries = positioned 1 values)

include entries in
/-- The values other than `nil` are counted. -/
theorem count_of_entries : table.count = (values.filter (!·.isNil)).length := by
  rw [Table.count, entries, length_positioned]

include written room entries

/-- A position reads as the value that is listed there. -/
theorem read_of_listed {place : Nat} {value : Value} (listed : values[place]? = some value) :
    table.read (.integer (Int64.ofNat (1 + place))) = value := by
  have low : place < values.length := (List.getElem?_eq_some_iff.mp listed).1
  by_cases present : value = .nil
  · subst present
    rw [written.spec.2.read_eq_nil, entries]
    cases known : findEntry (.integer (Int64.ofNat (1 + place))) (positioned 1 values) with
    | none => rfl
    | some other =>
      obtain ⟨again, other⟩ := listed_of_findEntry room (by omega) known
      exact absurd (Option.some.inj (again.symm.trans listed)) other
  · have entry : (.integer (Int64.ofNat (1 + place)), value) ∈ table.entries := by
      rw [entries]
      exact mem_positioned.mpr ⟨place, listed, present, rfl⟩
    rw [Table.read, findEntry_of_mem written.distinct entry]
    rfl

/-- The length is the largest number of first values of which none is `nil`. -/
theorem isGreatest_length : IsGreatest {length | ∀ place < length, ∃ value,
    values[place]? = some value ∧ value ≠ .nil} table.length := by
  constructor
  · intro place less
    obtain ⟨-, taken, -⟩ := table.borderFrom_spec table.count 0
    have short : table.length ≤ values.length := by
      have steps := table.borderFrom_le table.count 0
      have fewer := List.length_filter_le (!·.isNil) values
      have counted := count_of_entries entries
      rw [Table.length]
      omega
    have there := taken (1 + place) (by omega) (show 1 + place ≤ table.length by omega)
    obtain ⟨value, known⟩ := Option.ne_none_iff_exists'.mp there
    rw [entries] at known
    exact ⟨value, listed_of_findEntry room (by omega) known⟩
  · intro other all
    by_contra more
    obtain ⟨value, listed, present⟩ := all table.length (Nat.lt_of_not_le more)
    have low : table.length < values.length := (List.getElem?_eq_some_iff.mp listed).1
    let word := Int64.ofNat (1 + table.length)
    have next : word.toInt = table.length + 1 := by
      rw [Int64.toInt_ofNat_of_lt (by omega)]
      omega
    have stands := Value.toInt64?_ofInt64 word
    have free := (border_length written.spec.2).beyond (.ofInt64 word) word stands next
    rw [Table.get, Value.key_of_word stands] at free
    exact present ((read_of_listed written room entries listed).symm.trans free)

/-- A table that writes have made with entries at the positions of values packs them. -/
theorem packs_of_entries : table.Packs values where
  hook := written.spec.1
  entries key value := by rw [entries, mem_positioned]
  read _ _ listed := read_of_listed written room entries listed
  count := count_of_entries entries
  length := isGreatest_length written room entries

end Table

/-! ## Frames of arguments -/

section Frames

/-- A local that is put is found, and every other one as before. -/
theorem lookup_put (name other : String) (value : Value) (locals : List (String × Value)) :
    (Frame.put name value locals).lookup other =
      if other = name then some value else locals.lookup other := by
  induction locals with
  | nil =>
    rw [Frame.put, List.lookup_cons]
    by_cases same : other = name
    · simp [same]
    · simp [same, beq_false_of_ne same]
  | cons entry rest ih =>
    obtain ⟨key, old⟩ := entry
    unfold Frame.put
    split
    · next here =>
      subst here
      rw [List.lookup_cons, List.lookup_cons]
      by_cases same : other = key
      · simp [same]
      · simp [same, beq_false_of_ne same]
    · next apart =>
      rw [List.lookup_cons, List.lookup_cons, ih]
      by_cases same : other = key
      · subst same
        simp [apart]
      · rw [beq_false_of_ne same]

/-- A name finds the value it has been declared with. -/
theorem Frame.find?_declare (frame : Frame) (name other : String) (value : Value) :
    (frame.declare name value).find? other =
      if other = name then some value else frame.find? other :=
  lookup_put name other value frame.locals

/-- Declaring names leaves the extra arguments alone. -/
theorem extras_declareNames (frame : Frame) (names : List String) (values : List Value) :
    (declareNames frame names values).extras = frame.extras := by
  induction names generalizing frame values with
  | nil => rfl
  | cons name rest ih => exact ih (frame.declare name (firstValue values)) (values.drop 1)

/-- A name that is not declared finds what it found. -/
theorem find?_declareNames (frame : Frame) {names : List String} (values : List Value)
    {other : String} (undeclared : other ∉ names) :
    (declareNames frame names values).find? other = frame.find? other := by
  induction names generalizing frame values with
  | nil => rfl
  | cons name rest ih =>
    rw [List.mem_cons, not_or] at undeclared
    obtain ⟨apart, later⟩ := undeclared
    rw [declareNames, ih _ _ later, Frame.find?_declare, if_neg apart]

/-- The values that names are declared with in order. -/
def declaredValues : List String → List Value → List Value
  | [], _ => []
  | _ :: rest, values => firstValue values :: declaredValues rest (values.drop 1)

/-- Different names find the values that they are declared with. -/
theorem forall₂_declareNames (frame : Frame) {names : List String} (distinct : names.Nodup)
    (values : List Value) :
    List.Forall₂ (fun name value => (declareNames frame names values).find? name = some value)
      names (declaredValues names values) := by
  induction names generalizing frame values with
  | nil => exact .nil
  | cons name rest ih =>
    obtain ⟨fresh, different⟩ := List.nodup_cons.mp distinct
    refine .cons ?_ (ih _ different _)
    rw [declareNames, find?_declareNames _ _ fresh, Frame.find?_declare, if_pos rfl]

/-- The declared values and those left over are the values, with `nil` for names behind them. -/
theorem declaredValues_append_drop (names : List String) (values : List Value) :
    declaredValues names values ++ values.drop names.length =
      values ++ List.replicate (names.length - values.length) .nil := by
  induction names generalizing values with
  | nil => simp [declaredValues]
  | cons name rest ih =>
    cases values with
    | nil =>
      have none := ih []
      simp only [List.drop_nil, List.append_nil, List.nil_append, List.length_nil] at none
      simp [declaredValues, none, firstValue, List.replicate_succ]
    | cons first others =>
      have further := ih others
      simp [declaredValues, firstValue, further]

end Frames

/-! ## Scripts of arguments -/

/-- The script that returns a table of its parameters and its extra arguments. -/
def packing (parameters : List String) : Block :=
  ⟨[], some [.table (parameters.map (fun name => .positional (.name name)) ++
    [.positional .varargs])]⟩

/-- The script that returns a function's results for an index and its extra arguments. -/
def selecting (callee : Expression) (index : Nat) : Block :=
  ⟨[], some [.call callee [.integer (Int64.ofNat index), .varargs]]⟩

/-- The frame that a script starts with. -/
def startFrame (held : List Reference) (id : EnvironmentId) (parameters : List String)
    (arguments : List Value) : Frame :=
  declareNames { environment := id, extras := arguments.drop parameters.length, held } parameters
    arguments

/-- A script of parameters that are names can be written. -/
theorem packing_writable {parameters : List String}
    (named : ∀ name ∈ parameters, isName name = true) :
    (packing parameters).WellFormed ∧ (packing parameters).NumberFree := by
  have fields := (Field.allWritable_iff (parameters.map (fun name => .positional (.name name)) ++
    [.positional .varargs])).mpr fun field member => by
      rcases List.mem_append.mp member with parameter | extras
      · obtain ⟨name, known, rfl⟩ := List.mem_map.mp parameter
        exact ⟨named name known, trivial⟩
      · obtain rfl := List.mem_singleton.mp extras
        exact ⟨trivial, trivial⟩
  constructor
  · refine ⟨nofun, ?_⟩
    rintro _ ⟨⟩
    exact ⟨fields.1, trivial⟩
  · refine ⟨nofun, ?_⟩
    rintro _ ⟨⟩
    exact ⟨fields.2, trivial⟩

section Run

variable (call : Caller) (world : World)

/-- A name gives its local. -/
theorem evaluate_name {frame : Frame} {name : String} {value : Value}
    (found : frame.find? name = some value) :
    evaluate call frame (.name name) world = .ok [value] world := by
  rw [evaluate]
  unfold lookupName
  rw [found]
  rfl

/-- Fields of names and of the extra arguments place the values of the names and these. -/
theorem evaluateFields_names (frame : Frame) {names : List String} {values : List Value}
    (found : List.Forall₂ (fun name value => frame.find? name = some value) names values)
    (table : Table) (position : Nat) :
    evaluateFields call frame table position
        (names.map (fun name => .positional (.name name)) ++ [.positional .varargs]) world =
      .ok (placeValues table position (values ++ frame.extras)) world := by
  induction found generalizing table position with
  | nil =>
    show evaluateFields call frame table position [.positional .varargs] world = _
    rw [evaluateFields, evaluate]
    rfl
  | @cons name value names values known rest ih =>
    have next := ih (placeValues table position [value]) (position + 1)
    have first : evaluate call (frame.keepTable table) (.name name) world = .ok [value] world :=
      evaluate_name call world known
    rw [List.map_cons, List.cons_append, evaluateFields, bind_of_run_ok first]
    · exact next
    · simp

end Run

section Start

variable (call : Caller) (held : List Reference) (id : EnvironmentId) (world : World)
  {parameters : List String} {arguments : List Value}

/-- The extra arguments of a script are those behind its parameters. -/
theorem extras_startFrame :
    (startFrame held id parameters arguments).extras = arguments.drop parameters.length :=
  extras_declareNames _ parameters arguments

/-- A script that only returns expressions gives what they give in the frame it starts with. -/
theorem runScript_return (expression : Expression) :
    runScript call held ⟨[], some [expression]⟩ parameters (.environment id :: arguments) world =
      evaluate call (startFrame held id parameters arguments) expression world := by
  show evaluateList call (startFrame held id parameters arguments) [expression] world = _
  rw [evaluateList]

/-- The script that packs its arguments makes one table, which packs them. -/
theorem runScript_packing (distinct : parameters.Nodup) (few : parameters.length < 2 ^ 63)
    (room : arguments.length < 2 ^ 63) :
    ∃ table : Table, table.Packs arguments ∧
      runScript call held (packing parameters) parameters (.environment id :: arguments) world =
        .ok [.table ⟨world.tables.size⟩] { world with tables := world.tables.push table } := by
  let frame := startFrame held id parameters arguments
  let spare := parameters.length - arguments.length
  let table := placeValues default 1 (arguments ++ List.replicate spare .nil)
  have found := forall₂_declareNames
    { environment := id, extras := arguments.drop parameters.length, held } distinct arguments
  have fields := evaluateFields_names call world frame found default 1
  rw [extras_startFrame, declaredValues_append_drop] at fields
  have entries : table.entries = positioned 1 arguments := by
    have long : 1 + (arguments ++ List.replicate spare Value.nil).length ≤ 2 ^ 63 := by
      rw [List.length_append, List.length_replicate]
      omega
    have placed : table.entries = [] ++ positioned 1 (arguments ++ List.replicate spare .nil) :=
      entries_placeValues long fun _ _ _ => rfl
    rw [placed, List.nil_append, positioned_append_nil]
  refine ⟨table, Table.packs_of_entries (placeValues_written .empty 1 _) room entries, ?_⟩
  unfold packing
  rw [runScript_return, evaluate, bind_of_run_ok fields]
  rfl

/-- The script that calls a function with an index calls it with the extra arguments behind that. -/
theorem runScript_selecting (callee : Expression) (index : Nat) {function : FunctionId}
    {later : World}
    (given : evaluate call (startFrame held id parameters arguments) callee world =
      .ok [.function function] later) :
    runScript call held (selecting callee index) parameters (.environment id :: arguments) world =
      call (startFrame held id parameters arguments).context function
        (.ofInt64 (Int64.ofNat index) :: arguments.drop parameters.length) later := by
  unfold selecting
  rw [runScript_return, evaluate, bind_of_run_ok given, ← extras_startFrame held id]
  rfl

end Start

/-- Selecting from an index on drops the arguments before it. -/
theorem Core.select_of_index {index : Nat} (small : index < 2 ^ 63) (rest : List Value)
    (world : World) :
    select (.ofInt64 (Int64.ofNat index) :: rest) world = .ok (rest.drop index) world := by
  have word : (Int64.ofNat index).toInt = index := Int64.toInt_ofNat_of_lt small
  have stands := Value.toInt64?_ofInt64 (Int64.ofNat index)
  have chosen : selected (Int64.ofNat index).toInt rest = rest.drop index := by
    rw [selected, word, if_neg (by omega), Int.toNat_natCast]
  -- The value of a word is an integer of one of two kinds, and so no text.
  obtain ⟨kind, content, integer⟩ := Value.ofInt64_eq_int (Int64.ofNat index)
  rw [integer] at stands ⊢
  unfold select
  simp only [stands, chosen]
  rfl

/-- Arguments survive packing, for every list of different names as parameters, every list of
arguments, every environment and every world. However the script that returns a table of its
parameters and its extra arguments is written, it is read as that. It gives one new table, which
has each argument at its position from one on and nothing else, where an argument that is `nil`
takes no entry. The number of its entries is that of the arguments that are not `nil`, and the
built-in `rawlen` gives the largest number of first arguments of which none is `nil`. For every
index up to the number of extra arguments the built-in `select` gives the extra arguments from
that place on, and so does the script that returns a call of it in the environment, while the
environment is held. No list in memory has more members than there are positive words. -/
theorem arguments_survive_packing (call : Caller) (held : List Reference) (id : EnvironmentId)
    (world : World) {parameters : List String} (distinct : parameters.Nodup)
    (named : ∀ name ∈ parameters, isName name = true) (few : parameters.length < 2 ^ 63)
    {arguments : List Value} (room : arguments.length < 2 ^ 63) :
    let extras := arguments.drop parameters.length
    let frame := startFrame held id parameters arguments
    (∀ (style : Style) (text : List Char),
      Spaced Separates ((packing parameters).tokens style) text →
        readScript text = .ok (packing parameters)) ∧
    (∃ table : Table, table.Packs arguments ∧
      let later : World := { world with tables := world.tables.push table }
      runScript call held (packing parameters) parameters (.environment id :: arguments) world =
          .ok [.table ⟨world.tables.size⟩] later ∧
        ∀ context, CoreFunction.rawlen.run call context [.table ⟨world.tables.size⟩] later =
          .ok [.ofNat table.length] later) ∧
    ∀ index ≤ extras.length,
      let selection := Value.ofInt64 (Int64.ofNat index) :: extras
      (∀ context later, CoreFunction.select.run call context selection later =
        .ok (extras.drop index) later) ∧
      ∀ depth callee made later,
        evaluate (callWithin (depth + 1)) frame callee world = .ok [.function made] later →
          later.functions[made.index]? = some (CoreFunction.select.bound id) →
          later.isLive (frame.context.keep selection).holds id = true →
            runScript (callWithin (depth + 1)) held (selecting callee index) parameters
              (.environment id :: arguments) world = .ok (extras.drop index) later := by
  intro extras frame
  obtain ⟨formed, free⟩ := packing_writable named
  obtain ⟨table, packs, run⟩ := runScript_packing call held id world distinct few room
  let later : World := { world with tables := world.tables.push table }
  have new : later.table ⟨world.tables.size⟩ = table := by
    rw [World.table_push, if_pos rfl]
  refine ⟨fun style text spaced =>
      readScript_of_upcoming formed free (upcoming_of_spaced formed free spaced),
    ⟨table, packs, run, fun context => ?_⟩, fun index inside => ?_⟩
  · show EStateM.Result.ok [Value.ofNat (later.table ⟨world.tables.size⟩).length] later = _
    rw [new]
  · intro selection
    have small : index < 2 ^ 63 := by
      have fewer : extras.length ≤ arguments.length := by simp [extras]
      omega
    have selects (later : World) := Core.select_of_index small extras later
    refine ⟨fun context later => selects later, ?_⟩
    intro depth callee made later given bound live
    rw [runScript_selecting _ held id world callee index given]
    exact ((actsIn_of_bound bound).runs depth frame.context selection live).trans (selects later)

/-- Of four arguments, two of them for parameters and two `nil`, the table has the others at their
positions, and the second extra argument can be selected. -/
theorem arguments_survive_packing_four :
    let parameters := ["a", "b"]
    let arguments : List Value := [.nil, .text "x", .nil, .text "y"]
    let run (block : Block) :=
      runScript (callWithin 1) [] block parameters (.environment ⟨0⟩ :: arguments)
    (∃ table : Table, table.Packs arguments ∧ outcome (run (packing parameters)) launched =
      .ok [.table ⟨1⟩]) ∧
    outcome (run (selecting (.name "select") 1)) launched = .ok [.text "y"] := by
  intro parameters arguments run
  have named : ∀ name ∈ parameters, isName name = true := by
    simp only [parameters, List.forall_mem_cons]
    exact ⟨by decide, by decide, nofun⟩
  have room : arguments.length < 2 ^ 63 := by decide
  obtain ⟨-, ⟨table, packs, packed, -⟩, selects⟩ := arguments_survive_packing (callWithin 1) [] ⟨0⟩
    launched (by decide) named (by decide) room
  let frame := startFrame [] ⟨0⟩ parameters arguments
  let later := left (evaluate (callWithin 1) frame (.name "select")) launched
  have selected := (selects 1 (by decide)).2 0 (.name "select") ⟨0⟩ later rfl rfl rfl
  refine ⟨⟨table, packs, ?_⟩, ?_⟩
  · simp only [run, outcome, packed]
    rfl
  · simp only [run, outcome, selected]
    rfl

end ScriptHost
