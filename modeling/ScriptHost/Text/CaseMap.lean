import ScriptHost.Text.CaseTable

/-!
# Upper and lower case of texts

Each character is replaced by its case mapping, which can be several characters. In
lower case a sigma that ends a word has its own form: one with a cased character
before it and none after it, where ignorable characters do not count.
-/

namespace ScriptHost.Text

/-- Whether a run covers a code point. -/
def CaseRun.covers (run : CaseRun) (code : Nat) : Bool :=
  run.first ≤ code && code ≤ run.last && (code - run.first) % run.step == 0

/-- The mapping of one character by runs and sequences. A character in neither stays as it is. -/
def mapCase (runs : Array CaseRun) (sequences : Array (Nat × List Nat)) (character : Char) :
    List Char :=
  match runs.find? (·.covers character.toNat) with
  | some run => [Char.ofNat (character.toNat + run.difference).toNat]
  | none =>
    match sequences.find? (·.1 == character.toNat) with
    | some (_, codes) => codes.map Char.ofNat
    | none => [character]

/-- The upper case of a text. -/
def upperCase (text : List Char) : List Char := text.flatMap (mapCase upperRuns upperSequences)

/-- Whether the first character that is not ignorable has a case. -/
def startsCased (text : List Char) : Bool :=
  match text.find? (!inRanges ignorableRanges ·) with
  | some character => inRanges casedRanges character
  | none => false

/-- The lower case of a text that follows the reversed text `before`. -/
def lowerCaseAfter (before : List Char) : List Char → List Char
  | [] => []
  | character :: rest =>
    let mapped :=
      if character == 'Σ' then
        if startsCased before && !startsCased rest then ['ς'] else ['σ']
      else mapCase lowerRuns lowerSequences character
    mapped ++ lowerCaseAfter (character :: before) rest

/-- The lower case of a text. -/
def lowerCase (text : List Char) : List Char := lowerCaseAfter [] text

end ScriptHost.Text
