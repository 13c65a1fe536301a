import ScriptHost.Evaluation.Chunk
import ScriptHost.Proofs.Identity.Tables

/-!
# Code of the host that matches

Code of the host matches other code if it asks for matching operations and, whatever
matching replies it gets, goes on matching. That is so for the same code in two worlds if it
takes functions and objects as what they are and does not look at their identities. Host
types, functions, compilers and sources match if the code in them does.
-/

namespace ScriptHost

variable {pairing small large : Pairing}

/-! ## Relations that last -/

/-- What a pairing relates larger pairings do. -/
class Lasting {First Second : Type} (related : Pairing → First → Second → Prop) : Prop where
  mono : ∀ {small large left right}, small ≤ large → related small left right →
    related large left right

/-- Results that are the same. -/
abbrev Exactly {Result : Type} (_ : Pairing) (left right : Result) : Prop := left = right

/-- Options whose contents are related. -/
abbrev OptionMatches {First Second : Type} (related : Pairing → First → Second → Prop)
    (pairing : Pairing) : Option First → Option Second → Prop :=
  Option.Rel (related pairing)

/-- Results that are related, or the same failure. -/
inductive ReplyMatches {Cause First Second : Type} (related : Pairing → First → Second → Prop)
    (pairing : Pairing) : Except Cause First → Except Cause Second → Prop where
  | ok {left : First} {right : Second} (matched : related pairing left right) :
    ReplyMatches related pairing (.ok left) (.ok right)
  | error (cause : Cause) : ReplyMatches related pairing (.error cause) (.error cause)

section Lasting

variable {First Second : Type} {related : Pairing → First → Second → Prop}

instance Value.lasting : Lasting Value.Matches := ⟨fun grows matched => matched.mono grows⟩

instance AllMatch.lasting : Lasting AllMatch :=
  ⟨fun grows matched => AllMatch.mono matched grows⟩

instance Table.lasting : Lasting Table.Matches := ⟨fun grows matched => matched.mono grows⟩

instance lasting_exactly {Result : Type} :
    Lasting (Exactly : Pairing → Result → Result → Prop) :=
  ⟨fun _ same => same⟩

instance lasting_option [Lasting related] : Lasting (OptionMatches related) := by
  constructor
  intro small large left right grows matched
  cases matched with
  | some known => exact .some (Lasting.mono grows known)
  | none => exact .none

/-- Lists whose entries are related stay so if what relates these lasts. -/
theorem lasting_entries [Lasting related] {left : List First} {right : List Second}
    (grows : small ≤ large) (matched : List.Forall₂ (related small) left right) :
    List.Forall₂ (related large) left right :=
  matched.imp fun _ _ known => Lasting.mono grows known

instance ReplyMatches.lasting {Cause : Type} [Lasting related] :
    Lasting (@ReplyMatches Cause First Second related) := by
  constructor
  intro small large left right grows matched
  cases matched with
  | ok known => exact .ok (Lasting.mono grows known)
  | error cause => exact .error cause

end Lasting

/-! ## Operations and code -/

/-- Operations that do the same to what matches. -/
inductive HostOperation.Matches (pairing : Pairing) : HostOperation → HostOperation → Prop where
  | display {value other : Value} (values : value.Matches pairing other) :
    Matches pairing (.display value) (.display other)
  | makeTable : Matches pairing .makeTable .makeTable
  | get (table : TableId) {key other : Value} (keys : key.Matches pairing other) :
    Matches pairing (.get table key) (.get table other)
  | set (table : TableId) {key other value further : Value} (keys : key.Matches pairing other)
    (values : value.Matches pairing further) :
    Matches pairing (.set table key value) (.set table other further)
  | entries (table : TableId) : Matches pairing (.entries table) (.entries table)
  | length (table : TableId) : Matches pairing (.length table) (.length table)
  | remembered {key other : Value} (keys : key.Matches pairing other) :
    Matches pairing (.remembered key) (.remembered other)
  | remember {key other value further : Value} (keys : key.Matches pairing other)
    (values : value.Matches pairing further) :
    Matches pairing (.remember key value) (.remember other further)
  | index (environment : Option EnvironmentId) {object other key further : Value}
    (objects : object.Matches pairing other) (keys : key.Matches pairing further) :
    Matches pairing (.index environment object key) (.index environment other further)
  | store (environment : EnvironmentId) {object other key further value last : Value}
    (objects : object.Matches pairing other) (keys : key.Matches pairing further)
    (values : value.Matches pairing last) :
    Matches pairing (.store environment object key value) (.store environment other further last)
  | call (environment : Option EnvironmentId) {callee other : Value}
    (callees : callee.Matches pairing other) {arguments others : List Value}
    (given : AllMatch pairing arguments others) :
    Matches pairing (.call environment callee arguments) (.call environment other others)
  | method (environment : Option EnvironmentId) {object other : Value}
    (objects : object.Matches pairing other) (name : String) {arguments others : List Value}
    (given : AllMatch pairing arguments others) :
    Matches pairing (.method environment object name arguments)
      (.method environment other name others)

instance HostOperation.lasting : Lasting HostOperation.Matches := by
  constructor
  intro small large left right grows matched
  cases matched with
  | display values => exact .display (values.mono grows)
  | makeTable => exact .makeTable
  | get table keys => exact .get table (keys.mono grows)
  | set table keys values => exact .set table (keys.mono grows) (values.mono grows)
  | entries table => exact .entries table
  | length table => exact .length table
  | remembered keys => exact .remembered (keys.mono grows)
  | remember keys values => exact .remember (keys.mono grows) (values.mono grows)
  | index environment objects keys =>
    exact .index environment (objects.mono grows) (keys.mono grows)
  | store environment objects keys values =>
    exact .store environment (objects.mono grows) (keys.mono grows) (values.mono grows)
  | call environment callees given =>
    exact .call environment (callees.mono grows) (AllMatch.mono given grows)
  | method environment objects name given =>
    exact .method environment (objects.mono grows) name (AllMatch.mono given grows)

/-- Code that asks for matching operations, goes on matching after matching replies, and ends with
related results. -/
inductive HostCode.Matches {First Second : Type} (related : Pairing → First → Second → Prop) :
    Pairing → HostCode First → HostCode Second → Prop where
  | done {pairing : Pairing} {left : First} {right : Second} (matched : related pairing left right) :
    Matches related pairing (.done left) (.done right)
  | step {pairing : Pairing} {left right : HostOperation} (operations : left.Matches pairing right)
    {next : HostReply → HostCode First} {further : HostReply → HostCode Second}
    (rest : ∀ large, pairing ≤ large → ∀ reply other, ReplyMatches AllMatch large reply other →
      Matches related large (next reply) (further other)) :
    Matches related pairing (.step left next) (.step right further)

namespace HostCode

variable {First Second Third Fourth : Type} {related : Pairing → First → Second → Prop}
  {others : Pairing → Third → Fourth → Prop}

instance lasting [Lasting related] : Lasting (Matches related) := by
  constructor
  intro small large left right grows matched
  cases matched with
  | done known => exact .done (Lasting.mono grows known)
  | step operations rest =>
    exact .step (Lasting.mono grows operations) fun larger more =>
      rest larger (le_trans grows more)

/-- Matching code followed by matching code matches. -/
theorem Matches.bind {code : HostCode First} {other : HostCode Second}
    (matched : Matches related pairing code other) {next : First → HostCode Third}
    {further : Second → HostCode Fourth}
    (rest : ∀ large, pairing ≤ large → ∀ left right, related large left right →
      Matches others large (next left) (further right)) :
    Matches others pairing (code.bind next) (other.bind further) := by
  induction matched with
  | done known => exact rest _ (le_refl _) _ _ known
  | step operations _ ih =>
    exact .step operations fun large grows reply other replies =>
      ih large grows reply other replies fun larger more => rest larger (le_trans grows more)

end HostCode

/-! ## Host types -/

/-- Routines that match for matching arguments. -/
def Routine.Matches (pairing : Pairing) (left right : Routine) : Prop :=
  ∀ large, pairing ≤ large → ∀ arguments others, AllMatch large arguments others →
    HostCode.Matches (ReplyMatches AllMatch) large (left arguments) (right others)

/-- Getters that match. -/
abbrev Getter.Matches (pairing : Pairing) (left right : Getter) : Prop :=
  HostCode.Matches Value.Matches pairing left right

/-- Setters that match for matching values. -/
def Setter.Matches (pairing : Pairing) (left right : Setter) : Prop :=
  ∀ large, pairing ≤ large → ∀ value other, value.Matches large other →
    HostCode.Matches (ReplyMatches Exactly) large (left value) (right other)

/-- Overloads for the same number of arguments with matching routines. -/
structure Overload.Matches (pairing : Pairing) (left right : Overload) : Prop where
  arity : left.arity = right.arity
  routine : left.routine.Matches pairing right.routine

/-- Members with matching code. -/
inductive Member.Matches (pairing : Pairing) : Member → Member → Prop where
  | field {getter other : Getter} (getters : getter.Matches pairing other)
    {setter further : Option Setter} (setters : OptionMatches Setter.Matches pairing setter further) :
    Matches pairing (.field getter setter) (.field other further)
  | methods {left right : List Overload}
    (overloads : List.Forall₂ (Overload.Matches pairing) left right) :
    Matches pairing (.methods left) (.methods right)

/-- Members under one name with matching code. -/
def Member.Named (pairing : Pairing) (left right : String × Member) : Prop :=
  left.1 = right.1 ∧ left.2.Matches pairing right.2

/-- Host types of one name with matching members and constructors. -/
structure HostType.Matches (pairing : Pairing) (left right : HostType) : Prop where
  fullName : left.fullName = right.fullName
  members : List.Forall₂ (Member.Named pairing) left.members right.members
  constructors : List.Forall₂ (Overload.Matches pairing) left.constructors right.constructors

/-- Groups of one label with matching overloads. -/
structure MethodGroup.Matches (pairing : Pairing) (left right : MethodGroup) : Prop where
  label : left.label = right.label
  overloads : List.Forall₂ (Overload.Matches pairing) left.overloads right.overloads

instance Routine.lasting : Lasting Routine.Matches :=
  ⟨fun grows matched larger more => matched larger (le_trans grows more)⟩

instance Setter.lasting : Lasting Setter.Matches :=
  ⟨fun grows matched larger more => matched larger (le_trans grows more)⟩

instance Overload.lasting : Lasting Overload.Matches :=
  ⟨fun grows matched => ⟨matched.arity, Lasting.mono grows matched.routine⟩⟩

instance Member.lasting : Lasting Member.Matches := by
  constructor
  intro small large left right grows matched
  cases matched with
  | field getters setters =>
    exact .field (Lasting.mono grows getters)
      (Lasting.mono grows setters)
  | methods overloads => exact .methods (lasting_entries grows overloads)

instance HostType.lasting : Lasting HostType.Matches :=
  ⟨fun grows matched =>
    ⟨matched.fullName,
      matched.members.imp fun _ _ known => ⟨known.1, Lasting.mono grows known.2⟩,
      lasting_entries grows matched.constructors⟩⟩

instance MethodGroup.lasting : Lasting MethodGroup.Matches :=
  ⟨fun grows matched => ⟨matched.label, lasting_entries grows matched.overloads⟩⟩

/-- The routines of matching getters match. -/
theorem Getter.Matches.routine {left right : Getter} (matched : left.Matches pairing right) :
    left.routine.Matches pairing right.routine := by
  intro large grows arguments others _
  exact (Lasting.mono grows matched).bind fun _ _ _ _ values =>
    .done (.ok (AllMatch.singleton values))

/-- The routines of matching setters match. -/
theorem Setter.Matches.routine {left right : Setter} (matched : left.Matches pairing right) :
    left.routine.Matches pairing right.routine := by
  intro large grows arguments others given
  refine (matched large grows _ _ (AllMatch.headD given)).bind fun _ _ taken other same => ?_
  cases same with
  | ok _ => exact .done (.ok .nil)
  | error failure => exact .done (.error failure)

/-- Lists whose entries match have matching entries where a test that sees no difference first
holds. -/
theorem find?_matches {Entry : Type} {related : Entry → Entry → Prop} (test : Entry → Bool)
    (blind : ∀ left right, related left right → test left = test right) {left right : List Entry}
    (matched : List.Forall₂ related left right) :
    Option.Rel related (left.find? test) (right.find? test) := by
  induction matched with
  | nil => exact .none
  | @cons first second _ _ known _ ih =>
    rw [List.find?_cons, List.find?_cons, blind first second known]
    split
    · exact .some known
    · exact ih

/-- Members under the same names have matching members under a name. -/
theorem findMember_matches (name : String) {left right : List (String × Member)}
    (matched : List.Forall₂ (Member.Named pairing) left right) :
    Option.Rel (Member.Matches pairing) (findMember name left) (findMember name right) := by
  induction matched with
  | nil => exact .none
  | cons known _ ih =>
    unfold findMember
    rw [known.1]
    split
    · exact .some known.2
    · exact ih

/-- Matching host types have matching members under a name. -/
theorem HostType.Matches.find? {left right : HostType} (matched : left.Matches pairing right)
    (name : String) (ignoreCase : Bool) :
    Option.Rel (Member.Named pairing) (left.find? name ignoreCase)
      (right.find? name ignoreCase) := by
  have exact' := findMember_matches name matched.members
  have folded := find?_matches (fun entry => sameFolded entry.1 name)
    (fun first second known => by rw [known.1]) matched.members
  unfold HostType.find?
  rcases rel_cases exact' with ⟨none, other⟩ | ⟨_, _, some, other, members⟩
  · rw [none, other]
    dsimp only
    split
    · exact folded
    · exact .none
  · rw [some, other]
    exact .some ⟨rfl, members⟩

/-- Matching groups select matching overloads. -/
theorem MethodGroup.Matches.select {left right : MethodGroup} (matched : left.Matches pairing right)
    (count : Nat) :
    Option.Rel (Overload.Matches pairing) (left.select count) (right.select count) := by
  have fixed := find?_matches (fun overload => overload.arity == some count)
    (fun first second known => by rw [known.arity]) matched.overloads
  have any := find?_matches (fun overload => overload.arity.isNone)
    (fun first second known => by rw [known.arity]) matched.overloads
  unfold MethodGroup.select
  rcases rel_cases fixed with ⟨none, other⟩ | ⟨_, _, some, other, overloads⟩
  · rw [none, other]
    exact any
  · rw [some, other]
    exact .some overloads

/-- Matching host types have matching constructors, or both have none. -/
theorem HostType.Matches.constructorGroup? {left right : HostType}
    (matched : left.Matches pairing right) :
    OptionMatches MethodGroup.Matches pairing left.constructorGroup? right.constructorGroup? := by
  have group : (left.group constructorName left.constructors).Matches pairing
      (right.group constructorName right.constructors) :=
    ⟨by rw [HostType.group, HostType.group, matched.fullName], matched.constructors⟩
  have empty : left.constructors.isEmpty = right.constructors.isEmpty := by
    rw [Bool.eq_iff_iff, List.isEmpty_iff_length_eq_zero, List.isEmpty_iff_length_eq_zero,
      matched.constructors.length_eq]
  unfold HostType.constructorGroup?
  rw [empty]
  split
  · exact .none
  · exact .some group

/-! ## Functions, compilers and sources -/

/-- Bodies with matching code. -/
inductive FunctionBody.Matches (pairing : Pairing) : FunctionBody → FunctionBody → Prop where
  | builtin (function : Builtin) : Matches pairing (.builtin function) (.builtin function)
  | closure {left right : Option EnvironmentId → Routine}
    (code : ∀ environment, (left environment).Matches pairing (right environment)) :
    Matches pairing (.closure left) (.closure right)
  | methods {left right : MethodGroup} (groups : left.Matches pairing right) :
    Matches pairing (.methods left) (.methods right)

/-- Functions of one name and one home with matching bodies. -/
structure Callable.Matches (pairing : Pairing) (left right : Callable) : Prop where
  name : left.name = right.name
  home : left.home = right.home
  body : left.body.Matches pairing right.body

/-- Callees that match: functions that are paired, or matching bodies. -/
inductive Callee.Matches (pairing : Pairing) : Callee → Callee → Prop where
  | function {left right : FunctionId} (paired : pairing.functions left right) :
    Matches pairing (.function left) (.function right)
  | body {left right : FunctionBody} (bodies : left.Matches pairing right) :
    Matches pairing (.body left) (.body right)

/-- Compilers that make matching code. -/
inductive Compiler.Matches (pairing : Pairing) : Compiler → Compiler → Prop where
  | script : Matches pairing .script .script
  | host {left right : String → String → Nat → Except Failure Routine}
    (code : ∀ name source count,
      ReplyMatches Routine.Matches pairing (left name source count) (right name source count)) :
    Matches pairing (.host left) (.host right)

/-- Answers of a source that match. -/
abbrev AnswerMatches : Pairing → Except Failure (Option Value) → Except Failure (Option Value) → Prop :=
  ReplyMatches (OptionMatches Value.Matches)

/-- Sources that answer alike. -/
inductive Source.Matches (pairing : Pairing) : Source → Source → Prop where
  | reserved : Matches pairing .reserved .reserved
  | storage : Matches pairing .storage .storage
  | coreFunctions : Matches pairing .coreFunctions .coreFunctions
  | systemLibraries : Matches pairing .systemLibraries .systemLibraries
  | host (name : String) {kept others : List Value} (values : AllMatch pairing kept others)
    {reply other : Reply}
    (replies : ∀ id name, HostCode.Matches AnswerMatches pairing (reply id name) (other id name)) :
    Matches pairing (.host name kept reply) (.host name others other)

instance FunctionBody.lasting : Lasting FunctionBody.Matches := by
  constructor
  intro small large left right grows matched
  cases matched with
  | builtin function => exact .builtin function
  | closure code => exact .closure fun environment => Lasting.mono grows (code environment)
  | methods groups => exact .methods (Lasting.mono grows groups)

instance Callable.lasting : Lasting Callable.Matches :=
  ⟨fun grows matched =>
    ⟨matched.name, matched.home, Lasting.mono grows matched.body⟩⟩

instance Compiler.lasting : Lasting Compiler.Matches := by
  constructor
  intro small large left right grows matched
  cases matched with
  | script => exact .script
  | host code =>
    exact .host fun name source count => Lasting.mono grows (code name source count)

instance Source.lasting : Lasting Source.Matches := by
  constructor
  intro small large left right grows matched
  cases matched with
  | host name values replies =>
    exact .host name (AllMatch.mono values grows) fun id name =>
      Lasting.mono grows (replies id name)
  | reserved => exact .reserved
  | storage => exact .storage
  | coreFunctions => exact .coreFunctions
  | systemLibraries => exact .systemLibraries

/-- Matching sources hold the same. -/
theorem Source.Matches.holds {left right : Source} (matched : left.Matches pairing right) :
    left.holds = right.holds := by
  cases matched with
  | host name values replies => exact AllMatch.holds values
  | _ => rfl

/-- Matching routines are matching callees. -/
theorem Routine.Matches.callee {left right : Routine} (matched : left.Matches pairing right) :
    left.callee.Matches pairing right.callee :=
  .body (.closure fun _ => matched)

end ScriptHost
