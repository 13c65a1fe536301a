import ScriptHost.Failure
import ScriptHost.Value.Conversion

/-!
# Code of a host

What a host puts behind members, functions, names and sources is code of its own. It
computes what it likes and reaches the world by operations, one after another, each
chosen by the replies to the ones before. What it keeps from one run to the next it
keeps in a memory of the host.
-/

namespace ScriptHost

/-- What code of a host can ask of the world. Every operation replies with values or with why it
has none. Code can act in an environment or, with `none`, outside of every one. -/
inductive HostOperation where
  /-- The display text of a value. -/
  | display (value : Value)
  /-- A new table without entries. -/
  | makeTable
  /-- The value of a key in a table, read without hooks. -/
  | get (table : TableId) (key : Value)
  /-- Store a value in a table, charged to no environment. The reply is the value before. -/
  | set (table : TableId) (key value : Value)
  /-- The keys and the values of a table in turn. -/
  | entries (table : TableId)
  /-- The length of a table. -/
  | length (table : TableId)
  /-- What the host keeps under a key. -/
  | remembered (key : Value)
  /-- Keep a value under a key, `nil` to keep nothing. The reply is the value before. -/
  | remember (key value : Value)
  /-- Read a member, of an environment a global. -/
  | index (environment : Option EnvironmentId) (object key : Value)
  /-- Write a member, charged to an environment. -/
  | store (environment : EnvironmentId) (object key value : Value)
  /-- Call a value. -/
  | call (environment : Option EnvironmentId) (callee : Value) (arguments : List Value)
  /-- Call a method. -/
  | method (environment : Option EnvironmentId) (object : Value) (name : String)
    (arguments : List Value)

/-- What an operation replies. -/
abbrev HostReply : Type := Except Failure (List Value)

/-- Code of a host that ends with a result. A failure in an operation is a reply like any other:
the code decides what becomes of it. -/
inductive HostCode (Result : Type) where
  | done (result : Result)
  | step (operation : HostOperation) (next : HostReply → HostCode Result)

namespace HostCode

variable {First Second : Type}

/-- Code followed by other code for its result. -/
def bind (code : HostCode First) (next : First → HostCode Second) : HostCode Second :=
  match code with
  | .done result => next result
  | .step operation rest => .step operation fun reply => (rest reply).bind next

instance : Monad HostCode where
  pure := .done
  bind := bind

/-- The reply to an operation. -/
def ask (operation : HostOperation) : HostCode HostReply := .step operation .done

/-- The first value of the reply to an operation, `nil` where there is none. -/
def fetch (operation : HostOperation) : HostCode Value :=
  .step operation fun
    | .ok values => .done (values.headD .nil)
    | .error _ => .done .nil

end HostCode

/-- Code that a host puts behind a method or a function: its results, or why it has none, for its
arguments. -/
abbrev Routine : Type := List Value → HostCode HostReply

/-- Code that gives the value of a field. -/
abbrev Getter : Type := HostCode Value

/-- Code that takes a value assigned to a field, or says why it does not. -/
abbrev Setter : Type := Value → HostCode (Except Failure Unit)

/-- A getter as a routine. -/
def Getter.routine (getter : Getter) : Routine := fun _ =>
  getter.bind fun value => .done (.ok [value])

/-- A setter as a routine. -/
def Setter.routine (setter : Setter) : Routine := fun arguments =>
  (setter (arguments.headD .nil)).bind fun taken => .done (taken.map fun _ => [])

end ScriptHost
