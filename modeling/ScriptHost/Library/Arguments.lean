import ScriptHost.World.Action

/-!
# Arguments of built-in functions

Positions count from zero here and from one in messages. A missing argument reads as
`nil` unless the function insists on it.
-/

namespace ScriptHost.Arguments

open ScriptHost.Binary ScriptHost.Action

/-- The argument at a position, `nil` where there is none. -/
def value (arguments : List Value) (index : Nat) : Value := arguments[index]?.getD .nil

/-- What was given at a position. -/
def given (arguments : List Value) (index : Nat) : Given := (arguments[index]?).map (·.kind)

/-- A numeric argument as a double. -/
def double (arguments : List Value) (index : Nat) (function : String) : Action Double :=
  match (arguments[index]?).bind (·.toDouble?) with
  | some datum => pure datum
  | none => badArgument (index + 1) function (.expected "number" (given arguments index))

/-- A text argument. Numbers stand for their texts. -/
def text (arguments : List Value) (index : Nat) (function : String) : Action String :=
  match (arguments[index]?).bind (·.concatText?) with
  | some content => pure content
  | none => badArgument (index + 1) function (.expected "string" (given arguments index))

/-- An integer argument, with what a missing one stands for. -/
def integer (arguments : List Value) (index : Nat) (function : String) (missing : Int64) :
    Action Int64 :=
  match value arguments index with
  | .nil => pure missing
  | argument =>
    match argument.toInt64? with
    | some content => pure content
    | none => badArgument (index + 1) function .fraction

end ScriptHost.Arguments
