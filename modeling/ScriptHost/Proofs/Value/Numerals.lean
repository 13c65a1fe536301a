import Mathlib.Data.List.Forall2
import Mathlib.Data.List.TakeWhile
import Mathlib.Data.Nat.Digits.Lemmas
import ScriptHost.Library.Core
import ScriptHost.Proofs.Binary.Integral
import ScriptHost.Proofs.World.Outcome

/-!
# Numerals

A numeral is an optional sign, in base sixteen an optional mark, and one or more digits, with
blanks around them. Texts are converted to numbers exactly if they are numerals of 32-bit integers,
however many digits they have. On the way a word is read that the digits may not fit, and it is
read by a function that would take another sign.
-/

namespace ScriptHost

open ScriptHost.Binary

/-! ## Texts of integers -/

/-- The digit of a value below thirty-six. -/
def digitCharacter (upper : Bool) (value : Nat) : Char :=
  if value < 10 then Char.ofNat ('0'.toNat + value)
  else Char.ofNat ((if upper then 'A' else 'a').toNat + (value - 10))

/-- A character is the digit of a value, a letter in either case. -/
def IsDigit (base : Nat) (character : Char) (value : Nat) : Prop :=
  value < base ∧ ∃ upper, character = digitCharacter upper value

/-- The signs of numerals. -/
inductive Sign where
  | none | plus | minus
deriving DecidableEq

/-- The characters of a sign. -/
def Sign.characters : Sign → List Char
  | none => []
  | plus => ['+']
  | minus => ['-']

/-- The integer of a magnitude with a sign. -/
def Sign.apply : Sign → Nat → Int
  | minus, magnitude => -(magnitude : Int)
  | _, magnitude => magnitude

/-- The marks that can stand in front of the digits of a base. -/
def IsMark (base : Nat) (mark : List Char) : Prop :=
  mark = [] ∨ base = 16 ∧ (mark = ['0', 'x'] ∨ mark = ['0', 'X'])

/-- A text that is a numeral of an integer in a base: a sign, a mark and digits, the highest first,
with blanks around them. -/
inductive Numeral (base : Nat) : List Char → Int → Prop
  | mk {before after mark digits : List Char} {values : List Nat} (sign : Sign)
    (blankBefore : ∀ character ∈ before, Text.isBlank character = true)
    (blankAfter : ∀ character ∈ after, Text.isBlank character = true)
    (marked : IsMark base mark) (filled : digits ≠ [])
    (spelled : List.Forall₂ (IsDigit base) digits values) :
    Numeral base (before ++ (sign.characters ++ (mark ++ digits)) ++ after)
      (sign.apply (Nat.ofDigits base values.reverse))

variable {base : Nat} {character : Char} {digits : List Char} {values : List Nat}

/-! ## The values of digits -/

/-- A digit of a base is the digit of base thirty-six with the same value. -/
theorem digitValue?_eq_some_iff_lt {value : Nat} (most : base ≤ 36) :
    digitValue? base character = some value ↔
      digitValue? 36 character = some value ∧ value < base := by
  unfold digitValue?
  simp only [Option.filter_eq_some_iff, decide_eq_true_eq]
  constructor
  · rintro ⟨known, below⟩
    exact ⟨⟨known, by omega⟩, below⟩
  · rintro ⟨⟨known, -⟩, below⟩
    exact ⟨known, below⟩

/-- The digits of base thirty-six have their values. -/
theorem digitValue?_digitCharacter :
    ∀ upper, ∀ value < 36, digitValue? 36 (digitCharacter upper value) = some value := by
  decide

/-- A character is found by its distance from another one. -/
theorem ofNat_add_sub {start : Nat} (least : start ≤ character.toNat) :
    Char.ofNat (start + (character.toNat - start)) = character := by
  rw [Nat.add_sub_cancel' least, Char.ofNat_toNat]

/-- What has a value in base thirty-six is its digit. -/
theorem exists_digitCharacter {value : Nat} (known : digitValue? 36 character = some value) :
    ∃ upper, character = digitCharacter upper value := by
  unfold digitValue? at known
  obtain ⟨known, -⟩ := Option.filter_eq_some_iff.mp known
  split at known
  case isTrue digit =>
    have bounds := (Bool.and_eq_true _ _).mp digit
    have most : character.toNat ≤ 57 := of_decide_eq_true bounds.2
    obtain rfl : character.toNat - 48 = value := Option.some.inj known
    refine ⟨false, ?_⟩
    rw [digitCharacter, if_pos (by omega)]
    exact (ofNat_add_sub (of_decide_eq_true bounds.1)).symm
  case isFalse =>
    split at known
    case isTrue lower =>
      have bounds := (Bool.and_eq_true _ _).mp lower
      obtain rfl : character.toNat - 97 + 10 = value := Option.some.inj known
      refine ⟨false, ?_⟩
      rw [digitCharacter, if_neg (by omega), Nat.add_sub_cancel]
      exact (ofNat_add_sub (of_decide_eq_true bounds.1)).symm
    case isFalse =>
      split at known
      case isTrue capital =>
        have bounds := (Bool.and_eq_true _ _).mp capital
        obtain rfl : character.toNat - 65 + 10 = value := Option.some.inj known
        refine ⟨true, ?_⟩
        rw [digitCharacter, if_neg (by omega), Nat.add_sub_cancel]
        exact (ofNat_add_sub (of_decide_eq_true bounds.1)).symm
      case isFalse => contradiction

/-- The value of a character is that of the digit it is. -/
theorem digitValue?_eq_some_iff {value : Nat} (most : base ≤ 36) :
    digitValue? base character = some value ↔ IsDigit base character value := by
  rw [digitValue?_eq_some_iff_lt most]
  constructor
  · rintro ⟨known, below⟩
    exact ⟨below, exists_digitCharacter known⟩
  · rintro ⟨below, upper, rfl⟩
    exact ⟨digitValue?_digitCharacter upper value (by omega), below⟩

/-- Digits are neither blanks nor signs. -/
theorem digitCharacter_plain : ∀ upper, ∀ value < 36,
    Text.isBlank (digitCharacter upper value) = false ∧
      digitCharacter upper value ≠ '+' ∧ digitCharacter upper value ≠ '-' := by
  decide +kernel

/-- Digits are neither blanks nor signs. -/
theorem IsDigit.plain {value : Nat} (digit : IsDigit base character value) (most : base ≤ 36) :
    Text.isBlank character = false ∧ character ≠ '+' ∧ character ≠ '-' := by
  obtain ⟨below, upper, rfl⟩ := digit
  exact digitCharacter_plain upper value (by omega)

/-- Digits are neither blanks nor signs. -/
theorem plain_of_mem (most : base ≤ 36) (spelled : List.Forall₂ (IsDigit base) digits values) :
    ∀ digit ∈ digits, Text.isBlank digit = false ∧ digit ≠ '+' ∧ digit ≠ '-' :=
  ((List.forall₂_and_left digits values).mp (spelled.imp fun _ _ digit => ⟨digit.plain most, digit⟩)).1

/-! ## Words -/

/-- Digits with a known part before them make a word exactly if the number they make fits. -/
theorem wordFrom?_eq_some_iff (least : 2 ≤ base) (most : base ≤ 36) {known word : UInt64} :
    wordFrom? base known digits = some word ↔
      ∃ values, List.Forall₂ (IsDigit base) digits values ∧
        word.toNat = known.toNat * base ^ digits.length + Nat.ofDigits base values.reverse := by
  induction digits generalizing known with
  | nil => simp [wordFrom?, ← UInt64.toNat_inj, eq_comm]
  | cons first rest ih =>
    -- the number that is known behind the first digit is at most the whole one
    have front (value : Nat) (values : List Nat) (length : rest.length = values.length) :
        known.toNat * base ^ (first :: rest).length + Nat.ofDigits base (value :: values).reverse =
          (known.toNat * base + value) * base ^ rest.length + Nat.ofDigits base values.reverse := by
      rw [List.reverse_cons, Nat.ofDigits_append, Nat.ofDigits_singleton, List.length_reverse,
        ← length, List.length_cons, Nat.pow_succ]
      ring
    rw [wordFrom?]
    constructor
    · intro read
      cases digit : digitValue? base first with
      | none => simp [digit] at read
      | some value =>
        simp only [digit] at read
        split at read
        case isFalse => contradiction
        case isTrue fits =>
          obtain ⟨values, spelled, same⟩ := ih.mp read
          refine ⟨value :: values, .cons ((digitValue?_eq_some_iff most).mp digit) spelled, ?_⟩
          rw [front value values spelled.length_eq, same, UInt64.toNat_ofNat_of_lt' fits]
    · rintro ⟨all, spelledAll, same⟩
      obtain ⟨value, values, digit, spelled, rfl⟩ := List.forall₂_cons_left_iff.mp spelledAll
      rw [front value values spelled.length_eq] at same
      have fits : known.toNat * base + value < UInt64.size := by
        have small := word.toNat_lt
        have scale : 1 ≤ base ^ rest.length := Nat.one_le_pow _ _ (by omega)
        have part := Nat.le_mul_of_pos_right (known.toNat * base + value) scale
        show _ < 2 ^ 64
        omega
      rw [(digitValue?_eq_some_iff most).mpr digit]
      dsimp only
      rw [if_pos fits, ih]
      exact ⟨values, spelled, by rw [same, UInt64.toNat_ofNat_of_lt' fits]⟩

/-- What starts with a digit is read as a word exactly if it is digits of a number that fits. -/
theorem readWord?_eq_some_iff (least : 2 ≤ base) (most : base ≤ 36) {word : UInt64}
    (starts : startsWithDigit base digits = true) :
    readWord? base digits = some word ↔
      ∃ values, List.Forall₂ (IsDigit base) digits values ∧
        word.toNat = Nat.ofDigits base values.reverse := by
  cases digits with
  | nil => contradiction
  | cons first rest =>
    obtain ⟨value, known⟩ := Option.isSome_iff_exists.mp starts
    have signless : first ≠ '+' := (((digitValue?_eq_some_iff most).mp known).plain most).2.1
    have whole : readWord? base (first :: rest) = wordFrom? base 0 (first :: rest) := by
      simp [readWord?, signless]
    rw [whole, wordFrom?_eq_some_iff least most]
    simp

/-- The integer of a magnitude and a minus sign or none. -/
def signedValue (negative : Bool) (magnitude : Nat) : Int :=
  if negative then -(magnitude : Int) else magnitude

/-- A word that has a signed one has its negative too. -/
theorem toInt_signedWord? {word : UInt64} {magnitude : Int64}
    (known : signedWord? word = some magnitude) (negative : Bool) :
    (if negative then -magnitude else magnitude).toInt = signedValue negative word.toNat := by
  unfold signedWord? at known
  split at known
  case isFalse => contradiction
  case isTrue fits =>
    obtain rfl := Option.some.inj known
    unfold largestInt64 at fits
    have positive : (Int64.ofNat word.toNat).toInt = word.toNat :=
      Int64.toInt_ofNat_of_lt (by omega)
    cases negative with
    | false => exact positive
    | true =>
      show (-Int64.ofNat word.toNat).toInt = -(word.toNat : Int)
      rw [Int64.toInt_neg, positive]
      apply Int.bmod_eq_of_le <;> omega

/-- The magnitude of a 32-bit integer has a word and a signed word. -/
theorem exists_signedWord? {number : Nat} (small : number ≤ 0x80000000) :
    ∃ (word : UInt64) (magnitude : Int64), word.toNat = number ∧
      signedWord? word = some magnitude := by
  have fits : number < UInt64.size := by
    show number < 0x10000000000000000
    omega
  have word : (UInt64.ofNat number).toNat = number := UInt64.toNat_ofNat_of_lt' fits
  refine ⟨UInt64.ofNat number, _, word, if_pos ?_⟩
  rw [word]
  unfold largestInt64
  omega

/-- A 32-bit integer is given exactly for itself. -/
theorem Ranged.ofInt?_eq_some_iff {kind : IntKind} {value : Int} {content : Ranged kind} :
    Ranged.ofInt? kind value = some content ↔ content.value = value := by
  unfold Ranged.ofInt?
  split
  case isTrue inside =>
    rw [Option.some.injEq]
    constructor
    · rintro rfl
      rfl
    · rintro rfl
      rfl
  case isFalse outside =>
    refine iff_of_false nofun ?_
    rintro rfl
    exact outside ⟨content.low_le, content.le_high⟩

/-- The magnitude of a 32-bit integer is at most that of the smallest one. -/
theorem magnitude_le {content : Ranged .integer} {negative : Bool} {number : Nat}
    (same : content.value = signedValue negative number) : number ≤ 0x80000000 := by
  have low := content.low_le
  have high := content.le_high
  simp only [IntKind.low, IntKind.high] at low high
  unfold signedValue at same
  split at same <;> omega

/-- Digits start with a digit. -/
theorem startsWithDigit_of_spelled (most : base ≤ 36) (filled : digits ≠ [])
    (spelled : List.Forall₂ (IsDigit base) digits values) : startsWithDigit base digits = true := by
  cases spelled with
  | nil => contradiction
  | cons digit _ =>
    show (digitValue? base _).isSome = true
    rw [(digitValue?_eq_some_iff most).mpr digit]
    rfl

/-- Digits are read behind a sign exactly if there is one at least, nothing else stands among them
and their number is a 32-bit integer. -/
theorem readDigits?_eq_some_iff (least : 2 ≤ base) (most : base ≤ 36) {negative : Bool}
    {content : Ranged .integer} :
    readDigits? base negative digits = some content ↔
      digits ≠ [] ∧ ∃ values, List.Forall₂ (IsDigit base) digits values ∧
        content.value = signedValue negative (Nat.ofDigits base values.reverse) := by
  unfold readDigits?
  constructor
  · intro read
    split at read
    case isFalse => contradiction
    case isTrue starts =>
      obtain ⟨word, known, further⟩ := Option.bind_eq_some_iff.mp read
      obtain ⟨magnitude, halved, ranged⟩ := Option.bind_eq_some_iff.mp further
      obtain ⟨values, spelled, same⟩ := (readWord?_eq_some_iff least most starts).mp known
      have filled : digits ≠ [] := by
        rintro rfl
        contradiction
      have value := Ranged.ofInt?_eq_some_iff.mp ranged
      rw [toInt_signedWord? halved, same] at value
      exact ⟨filled, values, spelled, value⟩
  · rintro ⟨filled, values, spelled, same⟩
    have starts := startsWithDigit_of_spelled most filled spelled
    -- a number beyond the words would be beyond the 32-bit integers as well
    obtain ⟨word, magnitude, number, halved⟩ := exists_signedWord? (magnitude_le same)
    have known := (readWord?_eq_some_iff least most starts).mpr ⟨values, spelled, number⟩
    have ranged := Ranged.ofInt?_eq_some_iff.mpr same
    rw [← number, ← toInt_signedWord? halved] at ranged
    rw [if_pos starts, known]
    show (signedWord? word).bind _ = _
    rw [halved]
    exact ranged

/-! ## Signs and marks -/

/-- A text is its sign and the rest. -/
theorem splitSign_spec (text : List Char) :
    ∃ sign : Sign, text = sign.characters ++ (splitSign text).2 ∧
      ∀ magnitude, signedValue (splitSign text).1 magnitude = sign.apply magnitude := by
  unfold splitSign
  split
  · exact ⟨.minus, rfl, fun _ => rfl⟩
  · exact ⟨.plus, rfl, fun _ => rfl⟩
  · exact ⟨.none, rfl, fun _ => rfl⟩

/-- A sign is split off where no other one follows. -/
theorem splitSign_characters (sign : Sign) (rest : List Char) (plus : rest.head? ≠ some '+')
    (minus : rest.head? ≠ some '-') :
    (splitSign (sign.characters ++ rest)).2 = rest ∧
      ∀ magnitude, signedValue (splitSign (sign.characters ++ rest)).1 magnitude =
        sign.apply magnitude := by
  cases sign with
  | plus | minus => exact ⟨rfl, fun _ => rfl⟩
  | none =>
    have unsigned : splitSign rest = (false, rest) := by
      unfold splitSign
      split
      · exact absurd rfl minus
      · exact absurd rfl plus
      · rfl
    rw [Sign.characters, List.nil_append, unsigned]
    exact ⟨rfl, fun _ => rfl⟩

/-- Signs are not blanks. -/
theorem Sign.isBlank_eq_false :
    ∀ sign : Sign, ∀ letter ∈ sign.characters, Text.isBlank letter = false := by
  rintro ⟨⟩ <;> decide +kernel

/-- Marks hold neither blanks nor signs. -/
theorem IsMark.plain {mark : List Char} (marked : IsMark base mark) :
    ∀ letter ∈ mark, Text.isBlank letter = false ∧ letter ≠ '+' ∧ letter ≠ '-' := by
  obtain rfl | ⟨-, rfl | rfl⟩ := marked <;> decide +kernel

/-- A text is its mark and the rest. -/
theorem withoutBaseMark_spec (base : Nat) (text : List Char) :
    ∃ mark, IsMark base mark ∧ text = mark ++ withoutBaseMark base text := by
  unfold withoutBaseMark
  split
  · split
    · exact ⟨['0', 'x'], .inr ⟨‹_›, .inl rfl⟩, rfl⟩
    · exact ⟨[], .inl rfl, rfl⟩
  · split
    · exact ⟨['0', 'X'], .inr ⟨‹_›, .inr rfl⟩, rfl⟩
    · exact ⟨[], .inl rfl, rfl⟩
  · exact ⟨[], .inl rfl, rfl⟩

/-- The letters of marks are no digits in base sixteen. -/
theorem not_isDigit_of_mark : ∀ letter ∈ ['x', 'X'], ∀ value, ¬IsDigit 16 letter value := by
  rintro letter member value digit
  have known := (digitValue?_eq_some_iff (by decide)).mpr digit
  have unknown : ∀ letter ∈ ['x', 'X'], digitValue? 16 letter = none := by decide
  rw [unknown letter member] at known
  contradiction

/-- A mark is taken off where digits follow. -/
theorem withoutBaseMark_append {mark : List Char} (marked : IsMark base mark)
    (spelled : List.Forall₂ (IsDigit base) digits values) :
    withoutBaseMark base (mark ++ digits) = digits := by
  obtain rfl | ⟨rfl, rfl | rfl⟩ := marked
  · rw [List.nil_append]
    -- what looks like a mark would have a letter among the digits
    have markless (letter : Char) (rest : List Char) (member : letter ∈ ['x', 'X'])
        (same : digits = '0' :: letter :: rest) : base ≠ 16 := by
      rintro rfl
      subst same
      obtain ⟨_, _, -, spelled, -⟩ := List.forall₂_cons_left_iff.mp spelled
      obtain ⟨value, _, digit, -⟩ := List.forall₂_cons_left_iff.mp spelled
      exact not_isDigit_of_mark letter member value digit
    unfold withoutBaseMark
    split
    · exact if_neg (markless 'x' _ (by decide) rfl)
    · exact if_neg (markless 'X' _ (by decide) rfl)
    · rfl
  · rfl
  · rfl

/-! ## Blanks -/

/-- A text is what trimming leaves of it with blanks around that. -/
theorem exists_trim (text : List Char) :
    ∃ before after, text = before ++ Text.trim text ++ after ∧
      (∀ character ∈ before, Text.isBlank character = true) ∧
      ∀ character ∈ after, Text.isBlank character = true := by
  have front : text = text.takeWhile Text.isBlank ++ Text.trimStart text :=
    List.takeWhile_append_dropWhile.symm
  have back (core : List Char) :
      core = (Text.trimStart core.reverse).reverse ++ (core.reverse.takeWhile Text.isBlank).reverse := by
    rw [← List.reverse_append, Text.trimStart, List.takeWhile_append_dropWhile, List.reverse_reverse]
  refine ⟨text.takeWhile Text.isBlank, ((Text.trimStart text).reverse.takeWhile Text.isBlank).reverse,
    ?_, fun _ member => List.mem_takeWhile_imp member,
    fun _ member => List.mem_takeWhile_imp (List.mem_reverse.mp member)⟩
  rw [List.append_assoc, Text.trim, ← back]
  exact front

/-- What starts with another character has no blanks at its start. -/
theorem trimStart_of_solid {core rest : List Char} (filled : core ≠ [])
    (solid : ∀ character ∈ core, Text.isBlank character = false) :
    Text.trimStart (core ++ rest) = core ++ rest := by
  obtain ⟨first, others, rfl⟩ := List.exists_cons_of_ne_nil filled
  rw [Text.trimStart, List.cons_append, List.dropWhile_cons_of_neg]
  simp [solid first List.mem_cons_self]

/-- Trimming takes the blanks around a text without any. -/
theorem trim_append {before core after : List Char} (filled : core ≠ [])
    (blankBefore : ∀ character ∈ before, Text.isBlank character = true)
    (blankAfter : ∀ character ∈ after, Text.isBlank character = true)
    (solid : ∀ character ∈ core, Text.isBlank character = false) :
    Text.trim (before ++ core ++ after) = core := by
  have front : Text.trimStart (before ++ core ++ after) = core ++ after := by
    rw [Text.trimStart, List.append_assoc, List.dropWhile_append_of_pos blankBefore]
    exact trimStart_of_solid filled solid
  have back : Text.trimStart core.reverse = core.reverse := by
    have whole : Text.trimStart (core.reverse ++ []) = core.reverse ++ [] :=
      trimStart_of_solid (List.reverse_ne_nil_iff.mpr filled)
        fun character member => solid character (List.mem_reverse.mp member)
    rwa [List.append_nil] at whole
  rw [Text.trim, front, List.reverse_append, Text.trimStart,
    List.dropWhile_append_of_pos fun _ member => blankAfter _ (List.mem_reverse.mp member)]
  rw [Text.trimStart] at back
  rw [back, List.reverse_reverse]

/-! ## Numerals -/

/-- A mark and digits hold neither blanks nor signs. -/
theorem plain_of_mem_append (most : base ≤ 36) {mark : List Char} (marked : IsMark base mark)
    (spelled : List.Forall₂ (IsDigit base) digits values) :
    ∀ letter ∈ mark ++ digits, Text.isBlank letter = false ∧ letter ≠ '+' ∧ letter ≠ '-' := by
  intro letter member
  obtain member | member := List.mem_append.mp member
  · exact marked.plain letter member
  · exact plain_of_mem most spelled letter member

/-- A sign, a mark and digits are what trimming leaves of a numeral. -/
theorem trim_numeral (most : base ≤ 36) (sign : Sign) {before after mark : List Char}
    (blankBefore : ∀ character ∈ before, Text.isBlank character = true)
    (blankAfter : ∀ character ∈ after, Text.isBlank character = true)
    (marked : IsMark base mark) (filled : digits ≠ [])
    (spelled : List.Forall₂ (IsDigit base) digits values) :
    Text.trim (before ++ (sign.characters ++ (mark ++ digits)) ++ after) =
      sign.characters ++ (mark ++ digits) := by
  apply trim_append (by simp [filled]) blankBefore blankAfter
  intro letter member
  obtain member | member := List.mem_append.mp member
  · exact sign.isBlank_eq_false letter member
  · exact (plain_of_mem_append most marked spelled letter member).1

/-- A text is read as an integer exactly if it is a numeral of it. -/
theorem readInteger?_eq_some_iff (least : 2 ≤ base) (most : base ≤ 36) {text : List Char}
    {content : Ranged .integer} :
    readInteger? base text = some content ↔ Numeral base text content.value := by
  unfold readInteger?
  dsimp only
  rw [readDigits?_eq_some_iff least most]
  constructor
  · rintro ⟨filled, values, spelled, same⟩
    obtain ⟨before, after, around, blankBefore, blankAfter⟩ := exists_trim text
    obtain ⟨sign, signed, value⟩ := splitSign_spec (Text.trim text)
    obtain ⟨mark, marked, unmarked⟩ := withoutBaseMark_spec base (splitSign (Text.trim text)).2
    rw [value] at same
    rw [same, around, signed, unmarked]
    exact .mk sign blankBefore blankAfter marked filled spelled
  · intro numeral
    generalize content.value = number at numeral
    obtain @⟨_, _, mark, digits, values, sign, blankBefore, blankAfter, marked, filled, spelled⟩ :=
      numeral
    have plain := plain_of_mem_append most marked spelled
    obtain ⟨unsigned, value⟩ := splitSign_characters sign (mark ++ digits)
      (fun starts => (plain '+' (List.mem_of_head? starts)).2.1 rfl)
      (fun starts => (plain '-' (List.mem_of_head? starts)).2.2 rfl)
    rw [trim_numeral most sign blankBefore blankAfter marked filled spelled, unsigned,
      withoutBaseMark_append marked spelled]
    exact ⟨filled, values, spelled, by rw [value]⟩

/-! ## Writing integers -/

/-- The values of the digits of a number, the highest first and at least one. -/
def digitValues (base number : Nat) : List Nat :=
  if number = 0 then [0] else (Nat.digits base number).reverse

/-- The numeral of an integer without a plus sign, a mark or leading zeros, with capital or small
letters. -/
def writeInteger (upper : Bool) (base : Nat) (number : Int) : List Char :=
  (if number < 0 then Sign.minus else Sign.none).characters ++
    (digitValues base number.natAbs).map (digitCharacter upper)

/-- The digits of a number make it up. -/
theorem ofDigits_digitValues (base number : Nat) :
    Nat.ofDigits base (digitValues base number).reverse = number := by
  unfold digitValues
  split
  case isTrue zero => simp [zero]
  case isFalse => rw [List.reverse_reverse, Nat.ofDigits_digits]

/-- There is at least one digit. -/
theorem digitValues_ne_nil (base number : Nat) : digitValues base number ≠ [] := by
  unfold digitValues
  split
  case isTrue => exact List.cons_ne_nil _ _
  case isFalse positive =>
    exact List.reverse_ne_nil_iff.mpr (Nat.digits_ne_nil_iff_ne_zero.mpr positive)

/-- The digits of a number are digits of its base. -/
theorem digitValues_lt (least : 2 ≤ base) (number : Nat) :
    ∀ value ∈ digitValues base number, value < base := by
  unfold digitValues
  intro value member
  split at member
  case isTrue =>
    have zero : value = 0 := List.mem_singleton.mp member
    omega
  case isFalse => exact Nat.digits_lt_base (by omega) (List.mem_reverse.mp member)

/-- The last digit of a number stands behind those of the rest. -/
theorem digitValues_eq_append (least : 2 ≤ base) {number : Nat} (large : base ≤ number) :
    digitValues base number = digitValues base (number / base) ++ [number % base] := by
  have rest : number / base ≠ 0 := (Nat.div_pos large (by omega)).ne'
  unfold digitValues
  rw [if_neg (by omega), if_neg rest, Nat.digits_def' (by omega) (by omega), List.reverse_cons]

/-- A number below its base is a digit. -/
theorem digitValues_eq_singleton {number : Nat} (small : number < base) :
    digitValues base number = [number] := by
  unfold digitValues
  split
  case isTrue zero => rw [zero]
  case isFalse positive => rw [Nat.digits_of_lt base number positive small, List.reverse_singleton]

/-- The decimal digits of a number are those that numbers are shown with. -/
theorem toDigits_ten_eq (upper : Bool) (number : Nat) :
    Nat.toDigits 10 number = (digitValues 10 number).map (digitCharacter upper) := by
  have digit : ∀ upper, ∀ value < 10, Nat.digitChar value = digitCharacter upper value := by decide
  induction number using Nat.strongRecOn with
  | ind number ih =>
    by_cases small : number < 10
    · rw [Nat.toDigits_of_lt_base small, digitValues_eq_singleton small, digit upper number small]
      rfl
    · have last : number % 10 < 10 := Nat.mod_lt _ (by decide)
      rw [Nat.toDigits_of_base_le (by decide) (by omega), ih (number / 10) (by omega),
        digitValues_eq_append (by decide) (Nat.le_of_not_lt small), List.map_append,
        digit upper _ last]
      rfl

/-- Integers are shown as their decimal numerals. -/
theorem toList_toString_eq (upper : Bool) (number : Int) :
    (toString number).toList = writeInteger upper 10 number := by
  show (Int.repr number).toList = _
  rw [Int.repr_eq_if, writeInteger, ← toDigits_ten_eq]
  by_cases negative : number < 0
  · rw [if_neg (by omega), if_pos negative, String.toList_append, Nat.toList_repr,
      show (-number).toNat = number.natAbs by omega]
    rfl
  · rw [if_pos (by omega), if_neg negative, Nat.toList_repr,
      show number.toNat = number.natAbs by omega]
    rfl

/-- A sign and digits are a numeral without blanks and a mark. -/
theorem Numeral.plain (sign : Sign) (filled : digits ≠ [])
    (spelled : List.Forall₂ (IsDigit base) digits values) :
    Numeral base (sign.characters ++ digits) (sign.apply (Nat.ofDigits base values.reverse)) := by
  have numeral : Numeral base ([] ++ (sign.characters ++ ([] ++ digits)) ++ []) _ :=
    .mk sign nofun nofun (.inl rfl) filled spelled
  rwa [List.nil_append, List.append_nil, List.nil_append] at numeral

/-- What is written of an integer is a numeral of it. -/
theorem numeral_writeInteger (least : 2 ≤ base) (upper : Bool) (number : Int) :
    Numeral base (writeInteger upper base number) number := by
  have spelled : List.Forall₂ (IsDigit base)
      ((digitValues base number.natAbs).map (digitCharacter upper))
      (digitValues base number.natAbs) := by
    rw [List.forall₂_map_left_iff, List.forall₂_same]
    exact fun value member => ⟨digitValues_lt least _ value member, upper, rfl⟩
  have filled : (digitValues base number.natAbs).map (digitCharacter upper) ≠ [] := by
    simpa using digitValues_ne_nil base number.natAbs
  have value : (if number < 0 then Sign.minus else Sign.none).apply number.natAbs = number := by
    split <;> simp only [Sign.apply] <;> omega
  have numeral := Numeral.plain (if number < 0 then Sign.minus else Sign.none) filled spelled
  rwa [ofDigits_digitValues, value] at numeral

/-! ## Conversion -/

/-- A text becomes the integer that it is read as, or `nil`. -/
theorem toNumber_text (least : 2 ≤ base) (most : base ≤ 36) (text : String) :
    (Value.text text).toNumber base =
      .ok (((readInteger? base text.toList).map (Value.int .integer)).getD .nil) := by
  have known : base ≠ 0 := by omega
  have inside : ¬(decide (base < 2) || decide (36 < base)) = true := by
    rw [Bool.or_eq_true, decide_eq_true_eq, decide_eq_true_eq]
    omega
  unfold Value.toNumber
  simp only [if_neg known, if_neg inside]
  cases readInteger? base text.toList <;> rfl

/-- A value that converts in base ten is converted by the function for scripts. -/
theorem Core.toNumber_of_ok {value result : Value} (world : World)
    (converted : value.toNumber 10 = .ok result) : toNumber [value] world = .ok [result] world := by
  have base : numberBase [value] world = .ok 10 world := rfl
  have argument : Arguments.value [value] 0 = value := rfl
  rw [toNumber, Action.bind_of_run_ok base, argument, converted]
  rfl

/-- In bases from two to thirty-six a text becomes an integer exactly if it is a numeral of it, and
`nil` if it is one of no 32-bit integer. So integers that were written come back, in every base and
with letters of either case, and those that scripts show. -/
theorem toNumber_text_iff_numeral (least : 2 ≤ base) (most : base ≤ 36) :
    (∀ (text : String) (content : Ranged .integer),
      (Value.text text).toNumber base = .ok (.int .integer content) ↔
        Numeral base text.toList content.value) ∧
    (∀ text : String, (¬∃ content : Ranged .integer, Numeral base text.toList content.value) →
      (Value.text text).toNumber base = .ok .nil) ∧
    (∀ (upper : Bool) (content : Ranged .integer),
      (Value.text (String.ofList (writeInteger upper base content.value))).toNumber base =
        .ok (.int .integer content)) ∧
    ∀ (content : Ranged .integer) (world : World),
      (Core.toString [.int .integer content] >>= Core.toNumber) world =
        .ok [.int .integer content] world := by
  have accepts {base : Nat} (least : 2 ≤ base) (most : base ≤ 36) (text : String)
      (content : Ranged .integer) :
      (Value.text text).toNumber base = .ok (.int .integer content) ↔
        Numeral base text.toList content.value := by
    rw [toNumber_text least most, ← readInteger?_eq_some_iff least most]
    cases readInteger? base text.toList <;> simp
  refine ⟨accepts least most, fun text none => ?_, fun upper content => ?_,
    fun content world => ?_⟩
  · rw [toNumber_text least most, Option.eq_none_iff_forall_ne_some.mpr fun content read =>
      none ⟨content, (readInteger?_eq_some_iff least most).mp read⟩]
    rfl
  · rw [accepts least most, String.toList_ofList]
    exact numeral_writeInteger least upper content.value
  · have back : (Value.text (toString content.value)).toNumber 10 = .ok (.int .integer content) := by
      rw [accepts (by decide) (by decide), toList_toString_eq false]
      exact numeral_writeInteger (by decide) false content.value
    show Core.toNumber [.text (toString content.value)] world = _
    exact Core.toNumber_of_ok world back

/-- In base sixteen a minus sign, a mark and a leading zero may stand between blanks. -/
theorem toNumber_text_hexadecimal :
    (2 ≤ 16 ∧ 16 ≤ 36) ∧
      (Value.text " -0X0fF\t").toNumber 16 = .ok (.int .integer ⟨-255, by decide, by decide⟩) := by
  have spelled : List.Forall₂ (IsDigit 16) ['0', 'f', 'F'] [0, 15, 15] :=
    .cons ⟨by decide, false, rfl⟩ (.cons ⟨by decide, false, rfl⟩ (.cons ⟨by decide, true, rfl⟩ .nil))
  have numeral : Numeral 16 ([' '] ++ (['-'] ++ (['0', 'X'] ++ ['0', 'f', 'F'])) ++ ['\t']) (-255) :=
    .mk .minus (by decide +kernel) (by decide +kernel) (.inr ⟨rfl, .inr rfl⟩) (by decide) spelled
  refine ⟨by decide, ((toNumber_text_iff_numeral (by decide) (by decide)).1 _ _).mpr ?_⟩
  exact numeral

end ScriptHost
