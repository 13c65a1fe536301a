import Mathlib.Data.List.Forall2
import Mathlib.Order.Basic
import ScriptHost.World.Measure
import ScriptHost.World.Retention

/-!
# Pairings of identities

Functions and host objects have identities that nothing shows. A pairing says which of them
stand for each other in two worlds, one to one. Values match under a pairing if they are the
same up to what is paired, and tables match if their entries do, one after the other. What
does not look at identities cannot tell matching values apart.
-/

namespace ScriptHost

/-- Functions and objects of one world that stand for those of another, one to one. -/
structure Pairing where
  functions : FunctionId → FunctionId → Prop
  objects : ObjectId → ObjectId → Prop
  functions_one : ∀ {left right other further}, functions left right → functions other further →
    (left = other ↔ right = further)
  objects_one : ∀ {left right other further}, objects left right → objects other further →
    (left = other ↔ right = further)

/-- A pairing grows by pairing more. -/
instance : Preorder Pairing where
  le small large :=
    (∀ left right, small.functions left right → large.functions left right) ∧
      ∀ left right, small.objects left right → large.objects left right
  le_refl _ := ⟨fun _ _ paired => paired, fun _ _ paired => paired⟩
  le_trans _ _ _ first second :=
    ⟨fun _ _ paired => second.1 _ _ (first.1 _ _ paired),
      fun _ _ paired => second.2 _ _ (first.2 _ _ paired)⟩

namespace Pairing

/-- The pairing of nothing. -/
def none : Pairing where
  functions _ _ := False
  objects _ _ := False
  functions_one nothing := False.elim nothing
  objects_one nothing := False.elim nothing

/-- A relation with one more pair is one to one if neither side was in a pair. -/
theorem one_add {Id : Type} {paired : Id → Id → Prop}
    (one : ∀ {left right other further}, paired left right → paired other further →
      (left = other ↔ right = further))
    {left right : Id} (newLeft : ∀ other, ¬ paired left other)
    (newRight : ∀ other, ¬ paired other right) {first second third fourth : Id}
    (pair : paired first second ∨ first = left ∧ second = right)
    (others : paired third fourth ∨ third = left ∧ fourth = right) :
    first = third ↔ second = fourth := by
  rcases pair with before | ⟨rfl, rfl⟩
  · rcases others with known | ⟨rfl, rfl⟩
    · exact one before known
    · constructor
      · rintro rfl
        exact absurd before (newLeft _)
      · rintro rfl
        exact absurd before (newRight _)
  · rcases others with known | ⟨rfl, rfl⟩
    · constructor
      · rintro rfl
        exact absurd known (newLeft _)
      · rintro rfl
        exact absurd known (newRight _)
    · exact ⟨fun _ => rfl, fun _ => rfl⟩

section Adding

variable (pairing : Pairing)

/-- The pairing with one more pair of functions. -/
def addFunction {left right : FunctionId} (newLeft : ∀ other, ¬ pairing.functions left other)
    (newRight : ∀ other, ¬ pairing.functions other right) : Pairing where
  functions first second := pairing.functions first second ∨ first = left ∧ second = right
  objects := pairing.objects
  functions_one := one_add pairing.functions_one newLeft newRight
  objects_one := pairing.objects_one

/-- The pairing with one more pair of objects. -/
def addObject {left right : ObjectId} (newLeft : ∀ other, ¬ pairing.objects left other)
    (newRight : ∀ other, ¬ pairing.objects other right) : Pairing where
  functions := pairing.functions
  objects first second := pairing.objects first second ∨ first = left ∧ second = right
  functions_one := pairing.functions_one
  objects_one := one_add pairing.objects_one newLeft newRight

end Adding

/-- One more pair of functions makes a pairing larger. -/
theorem le_addFunction (pairing : Pairing) {left right : FunctionId}
    (newLeft : ∀ other, ¬ pairing.functions left other)
    (newRight : ∀ other, ¬ pairing.functions other right) :
    pairing ≤ pairing.addFunction newLeft newRight :=
  ⟨fun _ _ paired => .inl paired, fun _ _ paired => paired⟩

/-- One more pair of objects makes a pairing larger. -/
theorem le_addObject (pairing : Pairing) {left right : ObjectId}
    (newLeft : ∀ other, ¬ pairing.objects left other)
    (newRight : ∀ other, ¬ pairing.objects other right) :
    pairing ≤ pairing.addObject newLeft newRight :=
  ⟨fun _ _ paired => paired, fun _ _ paired => .inl paired⟩

end Pairing

/-! ## Values -/

/-- References to the same thing up to what is paired. -/
inductive Reference.Matches (pairing : Pairing) : Reference → Reference → Prop where
  | table (id : TableId) : Matches pairing (.table id) (.table id)
  | function {left right : FunctionId} (paired : pairing.functions left right) :
    Matches pairing (.function left) (.function right)
  | node (id : NodeId) : Matches pairing (.node id) (.node id)
  | object {left right : ObjectId} (paired : pairing.objects left right) :
    Matches pairing (.object left) (.object right)
  | environment (id : EnvironmentId) : Matches pairing (.environment id) (.environment id)

/-- Values that are the same up to what is paired. -/
inductive Value.Matches (pairing : Pairing) : Value → Value → Prop where
  | content {value : Value} (scalar : ∀ target, value ≠ .reference target) :
    Matches pairing value value
  | reference {left right : Reference} (matched : left.Matches pairing right) :
    Matches pairing (.reference left) (.reference right)

/-- Keys that are the same up to what is paired. -/
inductive Key.Matches (pairing : Pairing) : Key → Key → Prop where
  | content {key : Key} (scalar : ∀ target, key ≠ .reference target) : Matches pairing key key
  | reference {left right : Reference} (matched : left.Matches pairing right) :
    Matches pairing (.reference left) (.reference right)

/-- Lists of values that match one after the other. -/
abbrev AllMatch (pairing : Pairing) : List Value → List Value → Prop :=
  List.Forall₂ (Value.Matches pairing)

variable {pairing small large : Pairing}

/-- References that match do so under a larger pairing. -/
theorem Reference.Matches.mono {left right : Reference} (matched : left.Matches small right)
    (grows : small ≤ large) : left.Matches large right := by
  cases matched with
  | table id => exact .table id
  | function paired => exact .function (grows.1 _ _ paired)
  | node id => exact .node id
  | object paired => exact .object (grows.2 _ _ paired)
  | environment id => exact .environment id

/-- References are the same in both worlds or in neither. -/
theorem Reference.Matches.eq_iff {left right other further : Reference}
    (matched : left.Matches pairing right) (others : other.Matches pairing further) :
    left = other ↔ right = further := by
  cases matched with
  | function paired =>
    cases others with
    | function known => simpa using pairing.functions_one paired known
    | _ => simp
  | object paired =>
    cases others with
    | object known => simpa using pairing.objects_one paired known
    | _ => simp
  | _ => cases others <;> simp

namespace Value.Matches

variable {left right other further : Value}

/-- Values that match do so under a larger pairing. -/
theorem mono (matched : left.Matches small right) (grows : small ≤ large) :
    left.Matches large right := by
  cases matched with
  | content scalar => exact .content scalar
  | reference matched => exact .reference (matched.mono grows)

/-- `nil` matches itself. -/
theorem nil : Matches pairing .nil .nil := .content nofun

/-- A truth value matches itself. -/
theorem boolean (content : Bool) : Matches pairing (.boolean content) (.boolean content) :=
  .content nofun

/-- A datum matches itself. -/
theorem number (content : Binary.Double) : Matches pairing (.number content) (.number content) :=
  .content nofun

/-- A text matches itself. -/
theorem text (content : String) : Matches pairing (.text content) (.text content) :=
  .content nofun

/-- An integer matches itself. -/
theorem ofInt64 (content : Int64) : Matches pairing (.ofInt64 content) (.ofInt64 content) := by
  refine .content fun target => ?_
  unfold Value.ofInt64
  split <;> nofun

/-- A natural number matches itself. -/
theorem ofNat (content : Nat) : Matches pairing (.ofNat content) (.ofNat content) := .ofInt64 _

/-- A table matches itself. -/
theorem table (id : TableId) : Matches pairing (.table id) (.table id) := .reference (.table id)

/-- A node matches itself. -/
theorem node (id : NodeId) : Matches pairing (.node id) (.node id) := .reference (.node id)

/-- An environment matches itself. -/
theorem environment (id : EnvironmentId) :
    Matches pairing (.environment id) (.environment id) := .reference (.environment id)

/-- What is the same for all functions and for all objects is the same for matching values. -/
theorem congr {Result : Type} (matched : left.Matches pairing right) (look : Value → Result)
    (functions : ∀ first second, look (.function first) = look (.function second))
    (objects : ∀ first second, look (.object first) = look (.object second)) :
    look left = look right := by
  cases matched with
  | content scalar => rfl
  | reference matched =>
    cases matched with
    | function paired => exact functions _ _
    | object paired => exact objects _ _
    | _ => rfl

/-- Matching values have the same kind. -/
theorem kind (matched : left.Matches pairing right) : left.kind = right.kind :=
  matched.congr Value.kind (fun _ _ => rfl) fun _ _ => rfl

/-- Matching values are `nil` together. -/
theorem isNil (matched : left.Matches pairing right) : left.isNil = right.isNil :=
  matched.congr Value.isNil (fun _ _ => rfl) fun _ _ => rfl

/-- Matching values count as true together. -/
theorem isTruthy (matched : left.Matches pairing right) : left.isTruthy = right.isTruthy :=
  matched.congr Value.isTruthy (fun _ _ => rfl) fun _ _ => rfl

/-- Matching values have the same double. -/
theorem toDouble? (matched : left.Matches pairing right) : left.toDouble? = right.toDouble? :=
  matched.congr Value.toDouble? (fun _ _ => rfl) fun _ _ => rfl

/-- Matching values have the same integer. -/
theorem toInt64? (matched : left.Matches pairing right) : left.toInt64? = right.toInt64? :=
  matched.congr Value.toInt64? (fun _ _ => rfl) fun _ _ => rfl

/-- Matching values hold the same. -/
theorem holds (matched : left.Matches pairing right) : left.holds = right.holds :=
  matched.congr Value.holds (fun _ _ => rfl) fun _ _ => rfl

/-- Matching values are equal in both worlds or in neither. -/
theorem rawEqual (matched : left.Matches pairing right) (others : other.Matches pairing further) :
    left.rawEqual other = right.rawEqual further := by
  cases matched with
  | content scalar =>
    refine others.congr (left.rawEqual ·) (fun first second => ?_) fun first second => ?_ <;>
      cases left <;> first | rfl | exact absurd rfl (scalar _)
  | reference matched =>
    cases others with
    | content scalar =>
      have apart (target : Reference) : (Value.reference target).rawEqual other = false := by
        cases other with
        | reference known => exact absurd rfl (scalar known)
        | _ => cases target <;> rfl
      rw [apart, apart]
    | reference known =>
      have same := matched.eq_iff known
      have alike (target known : Reference) :
          (Value.reference target).rawEqual (.reference known) = decide (target = known) := by
        unfold Value.rawEqual
        split
        · next differ =>
          symm
          rw [decide_eq_false_iff_not]
          rintro rfl
          exact differ rfl
        · rfl
      rw [alike, alike]
      exact decide_eq_decide.mpr same

/-- Matching values are equal to scripts in both worlds or in neither. -/
theorem scriptEqual (matched : left.Matches pairing right)
    (others : other.Matches pairing further) :
    left.scriptEqual other = right.scriptEqual further := by
  unfold Value.scriptEqual
  rw [matched.kind, others.kind, matched.toInt64?, others.toInt64?, matched.toDouble?,
    others.toDouble?, matched.rawEqual others]

end Value.Matches

end ScriptHost
