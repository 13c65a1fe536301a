import ScriptHost.Grammar.Chunk
import ScriptHost.Text.Quoted

/-!
# Tree listings

A listing shows a parse tree one rule a line, two blanks further in for each level,
with the byte offsets and the quoted text that the rule covers.
-/

namespace ScriptHost.Grammar

/-- The bytes a text takes in UTF-8. -/
def byteCount (text : List Char) : Nat := (text.map (·.utf8Size)).foldr (· + ·) 0

/-- One line of a listing. -/
def listingLine (source : List Char) (level : Nat) (rule : Rule) (start : Nat)
    (text : List Char) : String :=
  let first := byteCount (source.take start)
  String.ofList (List.replicate (2 * level) ' ') ++ rule.label ++ " => (" ++ toString first ++ ","
    ++ toString (first + byteCount text) ++ ") #" ++ String.ofList (Text.quoted text)

mutual

/-- The lines of a tree at a level. -/
def treeLines (source : List Char) (level : Nat) : ParseTree Rule → List String
  | .node rule start size children =>
    listingLine source level rule start.offset (start.take size) ::
      forestLines source (level + 1) children

/-- The lines of trees at a level. -/
def forestLines (source : List Char) (level : Nat) : List (ParseTree Rule) → List String
  | [] => []
  | tree :: rest => treeLines source level tree ++ forestLines source level rest

end

/-- The listing of a source, absent when the source is no chunk. -/
def listing? (source : List Char) : Option String :=
  match matchChunk source with
  | .matched (trees, _) => some ("\n".intercalate (forestLines source 0 trees))
  | _ => none

end ScriptHost.Grammar
