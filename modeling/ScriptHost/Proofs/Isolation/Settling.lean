import ScriptHost.Proofs.Environment.History
import ScriptHost.Proofs.Isolation.Separation

/-!
# Environments are settled

A move that hands over only what is there leaves a world in which whatever is there leads to
what is there: a run finds references in what it was given, in what it reads and in what it
makes, and nowhere else. So along every history of such moves each environment is settled, also
by the moves on that environment itself.
-/

namespace ScriptHost

open ScriptHost.Action World

namespace World

variable {old new world : World}

/-! ## Sturdy worlds -/

/-- What is there. The first table counts as there from the start, since environments that are not
there have it as their storage. -/
def There (world : World) : Reference → Prop := Besides world.Stands (.table ⟨0⟩)

/-- Whatever is there leads to what is there, and so do the members of host types and what code of
the host remembers. -/
def Sturdy (world : World) : Prop := world.Guards world.There

/-- What is made besides what has been there is what is there. -/
theorem Shelters.eq_there {wide : Reference → Prop} (shelters : Shelters old.There wide old new) :
    wide = new.There := by
  funext target
  refine propext ((shelters.wide_iff target).trans ⟨?_, ?_⟩)
  · rintro ((before | first) | ⟨now, -⟩)
    · exact .inl (shelters.stands target before)
    · exact .inr first
    · exact .inl now
  · rintro (now | first)
    · by_cases before : old.Stands target
      · exact .inl (.inl before)
      · exact .inr ⟨now, before⟩
    · exact .inl (.inr first)

/-- A world without tables, functions, objects, environments and host types is sturdy. -/
theorem Sturdy.start (files : Files) : Sturdy { files } where
  tables id _ := by
    rw [table_of_outside (Nat.zero_le _)]
    exact .empty
  functions _ _ target refers :=
    absurd (.function refers) (function_leads_nowhere (Nat.zero_le _) target)
  libraries id library made _ known := by
    rw [object_of_outside (Nat.zero_le _)] at known
    contradiction
  environments id _ target refers := by
    rw [environment_of_outside (Nat.zero_le _)] at refers
    cases refers with
    | storage => exact .inr rfl
    | source member refers =>
      have standard : _ ∈ standardSources := member
      cases refers <;> simp [standardSources] at standard
    | compiler refers => exact False.elim refers
    | core member => exact absurd member List.not_mem_nil
    | library member => exact absurd member List.not_mem_nil
  types id target refers := by
    rw [hostType_of_outside (Nat.zero_le _)] at refers
    cases refers <;> contradiction
  memory := .empty
  nodes _ := .inl trivial

/-- An environment of a sturdy world is settled if its storage is there. -/
theorem Sturdy.settled (sturdy : world.Sturdy) {id : EnvironmentId}
    (storage : world.Stands (.table (world.environment id).storage)) : world.Settled id := by
  intro target reaches
  rcases sturdy.reaches (.inl storage) reaches with there | rfl
  · exact there
  · exact Nat.zero_lt_of_lt storage

/-- A new host type that brings in what is there leaves a world sturdy. -/
theorem Sturdy.register (sturdy : world.Sturdy) {type : HostType}
    (brings : type.Refers ≤ world.There) (registry : Registry) :
    Sturdy { world with hostTypes := world.hostTypes.push type, registry } := by
  refine { sturdy with types := fun id => ?_ }
  have read : World.hostType { world with hostTypes := world.hostTypes.push type, registry } id =
      if id.index = world.hostTypes.size then type else world.hostType id :=
    hostType_push world type id
  rw [read]
  split
  · exact brings
  · exact sturdy.types id

end World

/-! ## Starting environments -/

namespace Environment

variable {safe : Reference → Prop} (all : ∀ id, safe (.environment id))
include all

/-- Adding packages is confined. -/
theorem addPackages_confined (id : EnvironmentId) (packages : List (String × String)) :
    Confines safe (fun _ _ => True) (addPackages id packages) := by
  induction packages generalizing safe with
  | nil => exact confines_any _
  | cons package rest ih =>
    obtain ⟨name, fullName⟩ := package
    unfold addPackages
    refine Confines.of_view fun registry => ?_
    split
    · exact confines_throw _
    · exact (addPackage_confined (all id) name _).bind fun _ grows _ _ =>
        ih fun id => grows _ (all id)

/-- Starting an environment is confined where all environments are safe. -/
theorem launch_confined (settings : Config.Settings) (sink : Sink) {compiler : Compiler}
    (brings : compiler.Refers ≤ safe) :
    Confines safe (fun _ _ => True) (launch settings sink compiler) := by
  let fresh (storage : TableId) : Environment :=
    { storage, heap := heapOf settings, sink, compiler }
  have started : Confines safe (fun _ _ => True) (new (heapOf settings) sink compiler) := by
    refine (confines_newTable .empty).bind fun wide grows storage made world guards => ?_
    show ∃ wider, Shelters wide wider world
      { world with environments := world.environments.push (fresh storage) } ∧ _
    refine ⟨wide, .of_same rfl { guards with environments := fun id holds => ?_ }
      { Spares.refl wide world with
        environments := fun id outside => absurd (grows _ (all id)) outside }, fun _ _ => trivial⟩
    rw [environment_push]
    split
    · intro target refers
      cases refers with
      | storage => exact made
      | source member refers =>
        have standard : _ ∈ standardSources := member
        cases refers <;> simp [standardSources] at standard
      | compiler refers => exact grows _ (brings _ refers)
      | core member => exact absurd member List.not_mem_nil
      | library member => exact absurd member List.not_mem_nil
    · exact guards.environments id holds
  refine started.bind fun _ grows id _ => ?_
  exact (addPackages_confined (fun id => grows _ (all id)) id settings.packages).bind
    fun _ _ _ _ => confines_any _

end Environment

/-! ## Moves -/

namespace HostMove

/-- What a move brings in: what it hands over, and what the compiler of a new environment and the
members of a new host type do. -/
def Brings : HostMove → Reference → Prop
  | launch _ _ compiler, target => compiler.Refers target
  | register type, target => type.Refers target
  | move, target => move.Hands target

/-- What a move hands over it brings in. -/
theorem brings_of_hands {move : HostMove} {target : Reference} (hands : move.Hands target) :
    move.Brings target := by
  cases move with
  | launch | register => exact False.elim hands
  | _ => exact hands

/-- A move is on some environment, or it launches one or registers a host type. -/
theorem on_launches_or_registers (move : HostMove) :
    (∃ id, move.On id) ∨ (∃ settings sink compiler, move = .launch settings sink compiler) ∨
      ∃ type, move = .register type := by
  cases move with
  | launch settings sink compiler => exact .inr (.inl ⟨settings, sink, compiler, rfl⟩)
  | register type => exact .inr (.inr ⟨type, rfl⟩)
  | drop id | addSource id | setGlobal id | addPackage id | lookUp held id | runText held id
  | runFile held id | runBytes held id | runChunk held id | store held id | collect id
  | takeOutput id => exact .inl ⟨id, rfl⟩
  | call context | callMethod context | read context =>
    exact .inl ⟨context.environment.getD ⟨0⟩, fun other same => same ▸ rfl⟩
  | _ => exact .inl ⟨⟨0⟩, trivial⟩

/-- A move that brings in only what is there leaves a world sturdy, whichever environment it is
on. -/
theorem sturdy {world : World} (sturdy : world.Sturdy) {move : HostMove}
    (brings : move.Brings ≤ world.Stands) : (left move.perform world).Sturdy := by
  have given : move.Brings ≤ world.There := le_trans brings (le_besides _ _)
  have kept (confined : Confines world.There (fun _ _ => True) move.perform) :
      (left move.perform world).Sturdy := by
    obtain ⟨wide, shelters, -⟩ := confined world sturdy
    obtain rfl := shelters.eq_there
    exact shelters.guards
  rcases move.on_launches_or_registers with
    ⟨id, on⟩ | ⟨settings, sink, compiler, rfl⟩ | ⟨type, rfl⟩
  · exact kept (move.confined on (.inl trivial) fun target hands =>
      given target (brings_of_hands hands))
  · exact kept (Environment.launch_confined (fun _ => .inl trivial) settings sink given).discard
  · exact sturdy.register given _

/-- A host makes a move that brings in only what is there. -/
def LeadsOn (old new : World) : Prop :=
  ∃ move : HostMove, move.Fits old ∧ move.Brings ≤ old.Stands ∧ new = left move.perform old

/-- Moves that bring in only what is there lead to sturdy worlds. -/
theorem sturdy_of_moves {files : Files} {world : World}
    (moved : Relation.ReflTransGen LeadsOn { files } world) :
    world.Sturdy ∧ ∃ moves, Reached moves world := by
  induction moved with
  | refl => exact ⟨.start files, [], .start files⟩
  | tail _ leads ih =>
    obtain ⟨sturdy, moves, reached⟩ := ih
    obtain ⟨move, fits, brings, rfl⟩ := leads
    exact ⟨move.sturdy sturdy brings, _, reached.step move fits⟩

/-- Every environment is settled, whatever moves a host has made on it and on others, as long as it
has brought in only what was there. -/
theorem settled_of_moves {files : Files} {world : World}
    (moved : Relation.ReflTransGen LeadsOn { files } world) {id : EnvironmentId}
    (there : id.index < world.environments.size) : world.Settled id := by
  obtain ⟨sturdy, moves, reached⟩ := sturdy_of_moves moved
  exact sturdy.settled (reached.houses there).2

/-- In every world that such moves lead to, a move on an environment lets another one alone if it is
apart from that environment and from what is handed over. -/
theorem lets_alone_after_moves {files : Files} {world : World}
    (moved : Relation.ReflTransGen LeadsOn { files } world) {mover other : EnvironmentId}
    (there : other.index < world.environments.size) {move : HostMove} (on : move.On mover)
    (apart : world.Apart (fun root => root = .environment mover ∨ move.Hands root) other) :
    LetsAlone world (left move.perform world) other :=
  (move.lets_alone on (.inl rfl) (fun _ => .inr) (settled_of_moves moved there) apart).1

end HostMove

end ScriptHost
