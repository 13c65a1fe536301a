import ScriptHost.Failure

/-!
# Files

The files that scripts can load: contents under relative paths. A path is walked
part by part through directories; empty parts and single dots stay where they are
and double dots go back, from the outermost directory of the files to others that
hold nothing else. Content is read as UTF-8 text.
-/

namespace ScriptHost

/-- Contents under paths. -/
abbrev Files : Type := List (String × ByteArray)

namespace Files

/-- The most bytes a part of a path can have. -/
def longestPart : Nat := 255

/-- The most bytes a path can have. -/
def longestPath : Nat := 4095

/-- The parts of a path, empty ones included. -/
def parts (path : String) : List String := path.splitOn "/"

/-- The parts of a path that lead somewhere. -/
def steps (path : String) : List String := (parts path).filter fun part => part != "" && part != "."

/-- The content under a path of parts. -/
def content? (files : Files) (steps : List String) : Option ByteArray :=
  (files.find? fun file => Files.steps file.1 == steps).map (·.2)

/-- Whether some content lies below a path of parts. -/
def isDirectory (files : Files) (steps : List String) : Bool :=
  steps.isEmpty || files.any fun file =>
    let other := Files.steps file.1
    steps.isPrefixOf other && steps != other

/-- Why a path that has left the files gives no content: a step back leads to a directory, and no
other step leads anywhere. -/
def outside : List String → FileFault
  | [] => .isDirectory
  | step :: rest =>
    if step == ".." then outside rest
    else if longestPart < step.utf8ByteSize then .nameTooLong
    else .notFound

/-- Follow parts of a path from a directory to a file or directory. -/
def follow (files : Files) (here : List String) : List String → Except FileFault (List String)
  | [] => .ok here
  | ".." :: rest =>
    if here.isEmpty then .error (outside rest) else follow files here.dropLast rest
  | step :: rest =>
    let there := here ++ [step]
    if longestPart < step.utf8ByteSize then .error .nameTooLong
    else if (files.content? there).isSome then
      if rest.isEmpty then .ok there else .error .notDirectory
    else if files.isDirectory there then follow files there rest
    else .error .notFound

/-- Whether a path insists on a directory at its end. -/
def endsInDirectory (path : String) : Bool :=
  match (parts path).getLast? with
  | some last => last == "" || last == "."
  | none => false

/-- The bytes under a path. -/
def bytes (files : Files) (path : String) : Except FileFault ByteArray := do
  if path.isEmpty then throw .notFound
  if path.contains '\x00' then throw .nulByte
  if longestPath < path.utf8ByteSize then throw .nameTooLong
  if path.startsWith "/" then throw (outside (steps path))
  match files.content? (← follow files [] (steps path)) with
  | none => throw .isDirectory
  | some content => if endsInDirectory path then throw .notDirectory else return content

/-- Bytes as text. -/
def decode (content : ByteArray) : Except FileFault String :=
  match String.fromUTF8? content with
  | some text => .ok text
  | none => .error .notText

/-- The text under a path. -/
def text (files : Files) (path : String) : Except FileFault String := do
  decode (← files.bytes path)

/-- The last part of a path. -/
def baseName (path : String) : String := ((steps path).getLast?).getD path

end Files

end ScriptHost
