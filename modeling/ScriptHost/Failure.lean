import ScriptHost.Script.Reading
import ScriptHost.Value.Basic

/-!
# Failures

A failure says why an operation gave no result. Each cause carries what its message
names, and the wording of all messages is here. Scripts raise failures of their own
with a text and a level.
-/

namespace ScriptHost

/-- The kind of an argument, absent where there is no argument. -/
abbrev Given : Type := Option Kind

/-- How a message names what was given. -/
def givenName (given : Given) : String :=
  match given with
  | some kind => kind.typeName
  | none => "no value"

/-- Something of the host whose member a message names. -/
inductive Owner where
  /-- A host object, by its type name. -/
  | object (typeName : String)
  /-- A host type behind a node of the type tree, by its full name. -/
  | type (fullName : String)
deriving DecidableEq, Repr

/-- How a message names an owner. -/
def Owner.text : Owner → String
  | .object typeName => typeName
  | .type fullName => "'" ++ fullName ++ "'"

/-- Causes that lie in the type of a value. -/
inductive TypeFault where
  | nilKey
  | nanKey
  | hookChain
  | outlived (function : String)
  | notCallable (kind : Kind)
  | unordered
  | incomparable (left right : Kind)
  | memberKey (object key : Kind)
  | notIndexable (kind : Kind)
  | noSettableMember (owner : Owner) (member : String)
  | noCallableMember (owner : Owner) (member : String)
  | notConcatenable (kind : Kind)
  | notArithmetic (kind : Kind)
  | zeroModulus
  | unsupportedOperator
  | chunkEnvironment (given : Given)
  | assignmentTarget
  | noEnvironment (caller : String)
  | readOnlyField (fullName member : String)
  | noOverload (label : String) (count : Nat)
  | unresolvedType (fullName : String)
  | tableExpected (function : String) (given : Given)
  /-- Reported by the host in its own words. -/
  | reported (text : String)
deriving DecidableEq, Repr

/-- The wording of a type fault. -/
def TypeFault.message : TypeFault → String
  | .nilKey => "table index is nil"
  | .nanKey => "table index is NaN"
  | .hookChain => "index hook chain is too deep"
  | .outlived function => "'" ++ function ++ "' outlived the environment it was bound to"
  | .notCallable kind => "attempt to call a " ++ kind.typeName ++ " value"
  | .unordered => "attempt to compare NaN"
  | .incomparable left right =>
    "attempt to compare " ++ left.typeName ++ " with " ++ right.typeName
  | .memberKey object key =>
    object.typeName ++ " members are indexed by name, got a " ++ key.typeName ++ " key"
  | .notIndexable kind => "attempt to index a " ++ kind.typeName ++ " value"
  | .noSettableMember owner member =>
    owner.text ++ " has no settable member '" ++ member ++ "'"
  | .noCallableMember owner member =>
    owner.text ++ " has no callable member '" ++ member ++ "'"
  | .notConcatenable kind => "attempt to concatenate a " ++ kind.typeName ++ " value"
  | .notArithmetic kind => "attempt to perform arithmetic on a " ++ kind.typeName ++ " value"
  | .zeroModulus => "attempt to perform 'n%0'"
  | .unsupportedOperator => "unsupported arithmetic operator"
  | .chunkEnvironment given =>
    "chunk expects the global environment as argument 0, got " ++ givenName given
  | .assignmentTarget => "cannot assign to this expression"
  | .noEnvironment caller => "'" ++ caller ++ "' requires a global environment"
  | .readOnlyField fullName member =>
    "field '" ++ fullName ++ "." ++ member ++ "' is read-only"
  | .noOverload label count =>
    "no overload of '" ++ label ++ "' takes " ++ toString count ++ " argument(s)"
  | .unresolvedType fullName => "'" ++ fullName ++ "' is not a resolvable host type"
  | .tableExpected function given =>
    "bad argument #1 to '" ++ function ++ "' (table expected, got " ++ givenName given ++ ")"
  | .reported text => text

/-- What is wrong with one argument of a built-in function. -/
inductive ArgumentProblem where
  /-- Another type was given, or nothing. -/
  | expected (wanted : String) (given : Given)
  | number
  | baseRange (base : Int64)
  | fraction
  | nilIndex
  | tooLarge
deriving DecidableEq, Repr

/-- The wording of an argument problem. -/
def ArgumentProblem.message : ArgumentProblem → String
  | .expected wanted given => wanted ++ " expected, got " ++ givenName given
  | .number => "number expected"
  | .baseRange base => "base " ++ toString base.toInt ++ " out of range"
  | .fraction => "number has no integer representation"
  | .nilIndex => "index is nil"
  | .tooLarge => "resulting string too large"

/-- Causes that lie in an argument. -/
inductive BadArgument where
  /-- An argument of a built-in function, by its position from one. -/
  | position (place : Nat) (function : String) (problem : ArgumentProblem)
  | base (given : Nat)
  | chunkName
  | packageName
  | packageType (package : String)
  | unknownPackageType (package typeName : String)
deriving DecidableEq, Repr

/-- The argument that a fault names. -/
def BadArgument.argument : BadArgument → String
  | .position place _ _ => "#" ++ toString place
  | .base _ => "base"
  | .chunkName => "chunk_name"
  | .packageName => "name"
  | .packageType _ => "type"
  | .unknownPackageType package _ => package

/-- The wording of an argument fault. -/
def BadArgument.message : BadArgument → String
  | .position place function problem =>
    "bad argument #" ++ toString place ++ " to '" ++ function ++ "' (" ++ problem.message ++ ")"
  | .base given => "base " ++ toString given ++ " is out of range (2..36)"
  | .chunkName => "chunk name must not be empty"
  | .packageName => "package name must not be empty"
  | .packageType package => "no host type given for package '" ++ package ++ "'"
  | .unknownPackageType package typeName =>
    "package '" ++ package ++ "' names unknown host type '" ++ typeName ++ "'"

/-- Why a chunk cannot be run. -/
inductive CompileCause where
  | unreadable (error : Script.ReadError)
  | notCompiled
  /-- Told by a compiler of the host. -/
  | reported (text : String)
deriving DecidableEq, Repr

/-- The wording of a compile cause. -/
def CompileCause.message : CompileCause → String
  | .unreadable error => error.message
  | .notCompiled => "chunk is not compiled"
  | .reported text => text

/-- Why a file cannot be read. -/
inductive FileFault where
  | notFound
  | notDirectory
  | isDirectory
  | nameTooLong
  | nulByte
  | notText
deriving DecidableEq, Repr

/-- The wording of a file fault. -/
def FileFault.message : FileFault → String
  | .notFound => "No such file or directory (os error 2)"
  | .notDirectory => "Not a directory (os error 20)"
  | .isDirectory => "Is a directory (os error 21)"
  | .nameTooLong => "File name too long (os error 36)"
  | .nulByte => "file name contained an unexpected NUL byte"
  | .notText => "stream did not contain valid UTF-8"

/-- Causes that lie in input and output. -/
inductive IoFault where
  | cannotOpen (path : String) (fault : FileFault)
  | unreadable (fault : FileFault)
deriving DecidableEq, Repr

/-- The wording of an input fault. -/
def IoFault.message : IoFault → String
  | .cannotOpen path fault => "cannot open " ++ path ++ ": " ++ fault.message
  | .unreadable fault => fault.message

/-- Why an operation gave no result. -/
inductive Failure where
  | compile (chunk : String) (cause : CompileCause)
  /-- Raised by a script or a host routine. -/
  | raised (message : String) (level : Int64)
  | outOfMemory
  | argument (fault : BadArgument)
  | type (fault : TypeFault)
  | io (fault : IoFault)
deriving DecidableEq

namespace Failure

/-- The message of a failed charge. -/
def outOfMemoryMessage : String := "not enough memory"

/-- The full text of a failure. -/
def text : Failure → String
  | compile chunk cause => "compile error in chunk '" ++ chunk ++ "': " ++ cause.message
  | raised message _ => message
  | outOfMemory => outOfMemoryMessage
  | argument fault => "invalid argument '" ++ fault.argument ++ "': " ++ fault.message
  | type fault => "type error: " ++ fault.message
  | io fault => "i/o error: " ++ fault.message

end Failure

end ScriptHost
