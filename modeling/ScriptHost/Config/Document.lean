import ScriptHost.Config.Moment

/-!
# Configuration documents

A document is a list of lines: comments, headers of tables and of arrays of tables,
and settings under dotted names. It becomes one table. A table is defined once: by
one header, by dotted names of one table, or in braces, and names in it differ.
Values can be nested and names can be dotted up to a limit.
-/

namespace ScriptHost.Config

/-- How a table came about. -/
structure Form where
  /-- In braces. -/
  inBraces : Bool := false
  /-- Only by being part of a longer name. -/
  implicit : Bool := false
  /-- By a dotted name of a setting. -/
  dotted : Bool := false
deriving DecidableEq, Repr

/-- What a setting can hold. -/
inductive Item where
  | text (content : String)
  | integer (value : Int)
  | moment (moment : Moment)
  /-- A truth value or a float: no setting takes one. -/
  | scalar
  | array (items : List Item)
  | table (form : Form) (entries : List (String × Item))
  /-- Tables under a repeated header. -/
  | tables (items : List Item)

/-- A table under construction. -/
structure Section where
  form : Form
  entries : List (String × Item)

namespace Section

/-- The item of a name. -/
def find? (part : Section) (name : String) : Option Item := part.entries.lookup name

/-- The entries with an item under a name, in the old place if the name has one. -/
def putIn (name : String) (item : Item) : List (String × Item) → List (String × Item)
  | [] => [(name, item)]
  | (other, old) :: rest =>
    if other = name then (name, item) :: rest else (other, old) :: putIn name item rest

/-- The section with an item under a name. -/
def put (part : Section) (name : String) (item : Item) : Section :=
  { part with entries := putIn name item part.entries }

/-- The section as an item. -/
def toItem (part : Section) : Item := .table part.form part.entries

end Section

/-- Change the last table of several. -/
def changeLast (change : Section → Option Section) : List Item → Option (List Item)
  | [] => none
  | [.table form entries] => do return [(← change ⟨form, entries⟩).toItem]
  | [_] => none
  | item :: rest => do return item :: (← changeLast change rest)

/-- Change the section that a path leads to. Sections on the way are made as `made` says, and
those there already must be open to it. -/
def changeAt (made : Form) (isOpen : Form → Bool) (change : Section → Option Section) :
    List String → Section → Option Section
  | [], part => change part
  | name :: path, part =>
    match part.find? name with
    | none => do return part.put name (← changeAt made isOpen change path ⟨made, []⟩).toItem
    | some (.table form entries) =>
      if isOpen form then do
        return part.put name (← changeAt made isOpen change path ⟨form, entries⟩).toItem
      else none
    | some (.tables items) =>
      if made.inBraces then none
      else do return part.put name (.tables (← changeLast (changeAt made isOpen change path) items))
    | some _ => none

/-- Put a setting with a dotted name into a section. The sections on the way belong to dotted
names only. -/
def addSetting (inBraces : Bool) (path : List String) (name : String) (item : Item)
    (part : Section) : Option Section :=
  let isOpen (form : Form) : Bool := form.inBraces == inBraces && form.implicit
  changeAt ⟨inBraces, true, true⟩ isOpen
    (fun target =>
      if target.form.dotted == path.isEmpty || (target.find? name).isSome then none
      else some (target.put name item))
    path part

/-- Whether a header can lead through a table. -/
def isOpenToHeader (form : Form) : Bool := !form.inBraces

/-- Define the table of a header. One that is there already must be implicit. -/
def addHeader (path : List String) (name : String) (root : Section) : Option Section :=
  changeAt ⟨false, true, false⟩ isOpenToHeader
    (fun parent =>
      match parent.find? name with
      | none => some (parent.put name (.table {} []))
      | some (.table form entries) =>
        if form.implicit && !form.dotted && !form.inBraces then
          some (parent.put name (.table {} entries))
        else none
      | some _ => none)
    path root

/-- Add a table under a repeated header. -/
def addElement (path : List String) (name : String) (root : Section) : Option Section :=
  changeAt ⟨false, true, false⟩ isOpenToHeader
    (fun parent =>
      match parent.find? name with
      | none => some (parent.put name (.tables [.table {} []]))
      | some (.tables items) => some (parent.put name (.tables (items ++ [.table {} []])))
      | some _ => none)
    path root

/-- One part of a dotted name. -/
def nameSegment? (text : List Char) : Option (String × List Char) :=
  match text with
  | '\x22' :: rest => basicString? text.length [] rest
  | '\x27' :: rest => literalString? [] rest
  | _ =>
    let bare := text.takeWhile isBareKey
    if bare.isEmpty then none else some (String.ofList bare, text.dropWhile isBareKey)

/-- A dotted name: the last part and those before it. -/
structure DottedName where
  path : List String
  name : String
deriving DecidableEq, Repr

/-- How many parts a dotted name has at most, and how many arrays and tables in braces lie inside
one another. -/
def deepest : Nat := 79

/-- A dotted name after parts that are known. -/
def dottedName? : Nat → List String → List Char → Option (DottedName × List Char)
  | 0, _, _ => none
  | steps + 1, known, text => do
    let (segment, rest) ← nameSegment? (skipLineBlanks text)
    match skipLineBlanks rest with
    | '.' :: rest => dottedName? steps (known ++ [segment]) rest
    | rest => if known.length < deepest then some (⟨known, segment⟩, rest) else none

/-- The text after a comment, up to the end of its line. -/
def skipComment? (text : List Char) : Option (List Char) :=
  match text with
  | '#' :: rest =>
    let after := rest.dropWhile isPlain
    if after.isEmpty || (lineBreak? after).isSome then some after else none
  | _ => some text

/-- The text after blanks, comments and line breaks between the items of an array. -/
def skipBetween? : Nat → List Char → Option (List Char)
  | 0, _ => none
  | steps + 1, text => do
    let rest ← skipComment? (skipLineBlanks text)
    match lineBreak? rest with
    | some rest => skipBetween? steps rest
    | none => some rest

mutual

/-- A value inside as many arrays and tables in braces as `level` says. `steps` bounds how many
values follow one another or lie inside one another. -/
def item? (level : Nat) : Nat → List Char → Option (Item × List Char)
  | 0, _ => none
  | steps + 1, text =>
    match text with
    | '\x22' :: _ | '\x27' :: _ => do
      let (content, rest) ← string? text
      return (.text content, rest)
    | '[' :: rest => do
      guard (level < deepest)
      let (items, rest) ← arrayItems? (level + 1) steps rest
      return (.array items, rest)
    | '\x7b' :: rest => do
      guard (level < deepest)
      match skipLineBlanks rest with
      | '\x7d' :: rest => return (.table { inBraces := true } [], rest)
      | rest =>
        let (part, rest) ← braceItems? (level + 1) steps ⟨{ inBraces := true }, []⟩ rest
        return (part.toItem, rest)
    | 't' :: 'r' :: 'u' :: 'e' :: rest => some (.scalar, rest)
    | 'f' :: 'a' :: 'l' :: 's' :: 'e' :: rest => some (.scalar, rest)
    | _ =>
      match Moment.read? text with
      | some (moment, rest) => some (.moment moment, rest)
      | none => do
        let (numeral, rest) ← numeral? text
        match numeral with
        | .integer value => return (.integer value, rest)
        | .float => return (.scalar, rest)

/-- The items of an array, after its opening bracket or a comma. -/
def arrayItems? (level : Nat) : Nat → List Char → Option (List Item × List Char)
  | 0, _ => none
  | steps + 1, text => do
    let text ← skipBetween? (text.length + 1) text
    match text with
    | ']' :: rest => return ([], rest)
    | _ =>
      let (item, rest) ← item? level steps text
      let rest ← skipBetween? (rest.length + 1) rest
      match rest with
      | ',' :: rest => do
        let (items, rest) ← arrayItems? level steps rest
        return (item :: items, rest)
      | ']' :: rest => return ([item], rest)
      | _ => none

/-- The settings of a table in braces, from the first or from one after a comma. -/
def braceItems? (level : Nat) : Nat → Section → List Char → Option (Section × List Char)
  | 0, _, _ => none
  | steps + 1, part, text => do
    let (⟨path, name⟩, rest) ← dottedName? (text.length + 1) [] text
    let rest ← after? '=' rest
    let (item, rest) ← item? level steps (skipLineBlanks rest)
    let part ← addSetting true path name item part
    match skipLineBlanks rest with
    | ',' :: rest => braceItems? level steps part rest
    | '\x7d' :: rest => return (part, rest)
    | _ => none

end

/-- The text after the end of a line that held something. -/
def lineEnd? (text : List Char) : Option (List Char) := do
  let rest ← skipComment? (skipLineBlanks text)
  if rest.isEmpty then some [] else lineBreak? rest

/-- The table of a document, from what its lines so far define and the path of the header that
the next settings belong to. -/
def lines? : Nat → Section → List String → List Char → Option Section
  | 0, _, _, _ => none
  | steps + 1, root, current, text =>
    match skipLineBlanks text with
    | [] => some root
    | '#' :: rest => do lines? steps root current (← lineEnd? ('#' :: rest))
    | '\n' :: rest => lines? steps root current rest
    | '\r' :: rest => do lines? steps root current (← lineBreak? ('\r' :: rest))
    | '[' :: '[' :: rest => do
      let (⟨path, name⟩, rest) ← dottedName? (rest.length + 1) [] rest
      let rest ← after? ']' (← after? ']' rest)
      lines? steps (← addElement path name root) (path ++ [name]) (← lineEnd? rest)
    | '[' :: rest => do
      let (⟨path, name⟩, rest) ← dottedName? (rest.length + 1) [] rest
      lines? steps (← addHeader path name root) (path ++ [name]) (← lineEnd? (← after? ']' rest))
    | line => do
      let (⟨path, name⟩, rest) ← dottedName? (line.length + 1) [] line
      let rest ← after? '=' rest
      let (item, rest) ← item? 0 (2 * rest.length + 2) (skipLineBlanks rest)
      let root ← changeAt {} isOpenToHeader (addSetting false path name item) current root
      lines? steps root current (← lineEnd? rest)

/-- A text without the mark of its byte order. -/
def withoutMark : List Char → List Char
  | '\uFEFF' :: rest => rest
  | text => text

/-- The table of a document, absent where the text is not well formed. -/
def document? (text : List Char) : Option Section :=
  lines? (text.length + 1) ⟨{}, []⟩ [] (withoutMark text)

end ScriptHost.Config
