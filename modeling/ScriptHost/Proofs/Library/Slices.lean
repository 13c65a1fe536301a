import ScriptHost.Host.Members
import ScriptHost.Proofs.Value.Comparison
import ScriptHost.Proofs.World.Outcome

/-!
# Slices of texts

A negative position counts from the end, the last character being at minus one. The part
of a text between two positions holds the characters at the positions from the first to
the last, wherever those two lie. The bounds are worked out in words, and no text has as
many characters as there are words from zero up, so nothing wraps and the range that is
taken lies in the text.
-/

namespace ScriptHost

open ScriptHost.Action

/-! ## Words -/

section Words

variable {a b : Int64} {n : Int}

/-- A sum that fits is the sum of the integers. -/
theorem toInt_add_of_fits (sum : a.toInt + b.toInt = n) (low : -2 ^ 63 ≤ n) (high : n < 2 ^ 63) :
    (a + b).toInt = n := by
  rw [Int64.toInt_add, sum]
  apply Int.bmod_eq_of_le <;> omega

/-- A difference that fits is the difference of the integers. -/
theorem toInt_sub_of_fits (difference : a.toInt - b.toInt = n) (low : -2 ^ 63 ≤ n)
    (high : n < 2 ^ 63) : (a - b).toInt = n := by
  rw [Int64.toInt_sub, difference]
  apply Int.bmod_eq_of_le <;> omega

/-- The larger of two words is the larger of the integers. -/
theorem toInt_max (a b : Int64) : (max a b).toInt = max a.toInt b.toInt := by
  show (if a ≤ b then b else a).toInt = _
  split
  case isTrue inOrder =>
    exact (max_eq_right (Int64.le_iff_toInt_le.mp inOrder)).symm
  case isFalse outOfOrder =>
    rw [Int64.le_iff_toInt_le, not_le] at outOfOrder
    exact (max_eq_left outOfOrder.le).symm

/-- The smaller of two words is the smaller of the integers. -/
theorem toInt_min (a b : Int64) : (min a b).toInt = min a.toInt b.toInt := by
  show (if a ≤ b then a else b).toInt = _
  split
  case isTrue inOrder =>
    exact (min_eq_left (Int64.le_iff_toInt_le.mp inOrder)).symm
  case isFalse outOfOrder =>
    rw [Int64.le_iff_toInt_le, not_le] at outOfOrder
    exact (min_eq_right outOfOrder.le).symm

/-- A word that is not negative is the same index. -/
theorem toNat_toUInt64_of_toInt {count : Nat} (same : a.toInt = count) :
    a.toUInt64.toNat = count := by
  have natural : 0 ≤ a := by
    rw [Int64.le_iff_toInt_le, same]
    exact Int.natCast_nonneg count
  rw [Int64.toNat_toUInt64_of_le natural]
  show a.toInt.toNat = count
  rw [same, Int.toNat_natCast]

end Words

namespace TextLibrary

/-! ## Positions -/

/-- A position counted from the front, in a text of some length. -/
def counted (length : Nat) (position : Int) : Int :=
  if position < 0 then length + position + 1 else position

/-- The characters whose positions, the first being at one, lie between two positions. -/
def between (characters : List Char) (first last : Int) : List Char :=
  let inside (place : Nat) : Bool :=
    counted characters.length first ≤ place ∧ place ≤ counted characters.length last
  ((characters.zipIdx 1).filter fun entry => inside entry.2).map (·.1)

/-- No step towards a slice wraps, and the range that is taken lies in the text. -/
structure StepsExact (length : Nat) (first last : Int64) : Prop where
  size : (Int64.ofNat length).toInt = length
  sum : ∀ position ∈ [first, last], position < 0 →
    (Int64.ofNat length + position).toInt = length + position.toInt
  successor : ∀ position ∈ [first, last], position < 0 →
    (Int64.ofNat length + position + 1).toInt = length + position.toInt + 1
  predecessor :
    (firstPlace (Int64.ofNat length) first - 1).toInt =
      (firstPlace (Int64.ofNat length) first).toInt - 1
  range : ¬lastPlace (Int64.ofNat length) last < firstPlace (Int64.ofNat length) first →
    (firstPlace (Int64.ofNat length) first - 1).toUInt64 ≤
        (lastPlace (Int64.ofNat length) last).toUInt64 ∧
      (lastPlace (Int64.ofNat length) last).toUInt64.toNat ≤ length

section Positions

variable {length : Nat} (room : length < 2 ^ 63) (position first last : Int64)

include room

/-- The word of a length is the length. -/
theorem toInt_length : (Int64.ofNat length).toInt = length := Int64.toInt_ofNat_of_lt room

/-- A length together with a negative position fits. -/
theorem toInt_length_add (negative : position < 0) :
    (Int64.ofNat length + position).toInt = length + position.toInt := by
  have same := toInt_length room
  have low := position.le_toInt
  rw [Int64.lt_iff_toInt_lt, Int64.toInt_zero] at negative
  apply toInt_add_of_fits (by rw [same]) <;> omega

/-- A length together with a negative position and one more fits. -/
theorem toInt_length_add_one (negative : position < 0) :
    (Int64.ofNat length + position + 1).toInt = length + position.toInt + 1 := by
  have same := toInt_length_add room position negative
  have low := position.le_toInt
  rw [Int64.lt_iff_toInt_lt, Int64.toInt_zero] at negative
  apply toInt_add_of_fits (by rw [same, Int64.toInt_one]) <;> omega

/-- A position from the start is the one that is counted, none being before the start. -/
theorem toInt_fromStart :
    (fromStart (Int64.ofNat length) position).toInt = max (counted length position.toInt) 0 := by
  have sign : position < 0 ↔ position.toInt < 0 := Int64.lt_iff_toInt_lt
  unfold fromStart counted
  by_cases negative : position < 0
  · rw [if_pos negative, if_pos (sign.mp negative), toInt_max,
      toInt_length_add_one room position negative, Int64.toInt_zero]
  · have natural := mt sign.mpr negative
    rw [if_neg negative, if_neg natural, max_eq_left (not_lt.mp natural)]

/-- The first place is the one that is counted, or that of the first character. -/
theorem toInt_firstPlace :
    (firstPlace (Int64.ofNat length) position).toInt = max (counted length position.toInt) 1 := by
  rw [firstPlace, toInt_max, toInt_fromStart room, Int64.toInt_one]
  omega

/-- The last place is the one that is counted, or that of the last character. -/
theorem toInt_lastPlace :
    (lastPlace (Int64.ofNat length) position).toInt =
      min (max (counted length position.toInt) 0) length := by
  rw [lastPlace, toInt_min, toInt_fromStart room, toInt_length room]

/-- The index of the first character fits. -/
theorem toInt_firstPlace_sub_one :
    (firstPlace (Int64.ofNat length) position - 1).toInt =
      (firstPlace (Int64.ofNat length) position).toInt - 1 := by
  have low := toInt_firstPlace room position
  have high := (firstPlace (Int64.ofNat length) position).toInt_lt
  apply toInt_sub_of_fits (by rw [Int64.toInt_one]) <;> omega

/-- The index at which a slice starts. -/
theorem toNat_start :
    (firstPlace (Int64.ofNat length) position - 1).toUInt64.toNat =
      (counted length position.toInt).toNat - 1 := by
  have place := toInt_firstPlace room position
  have index := toInt_firstPlace_sub_one room position
  exact toNat_toUInt64_of_toInt (by omega)

/-- The index at which a slice stops. -/
theorem toNat_stop :
    (lastPlace (Int64.ofNat length) position).toUInt64.toNat =
      min (counted length position.toInt).toNat length := by
  have place := toInt_lastPlace room position
  exact toNat_toUInt64_of_toInt (by omega)

/-- The places of a slice are out of order if it has no character. -/
theorem lastPlace_lt_firstPlace_iff :
    lastPlace (Int64.ofNat length) last < firstPlace (Int64.ofNat length) first ↔
      min (counted length last.toInt).toNat length ≤ (counted length first.toInt).toNat - 1 := by
  rw [Int64.lt_iff_toInt_lt, toInt_firstPlace room, toInt_lastPlace room]
  omega

/-- Nothing wraps on the way to a slice, whatever its positions are. -/
theorem stepsExact : StepsExact length first last where
  size := toInt_length room
  sum := fun position _ => toInt_length_add room position
  successor := fun position _ => toInt_length_add_one room position
  predecessor := toInt_firstPlace_sub_one room first
  range := by
    intro inOrder
    rw [lastPlace_lt_firstPlace_iff room] at inOrder
    rw [UInt64.le_iff_toNat_le, toNat_start room, toNat_stop room]
    omega

end Positions

/-! ## The characters of a slice -/

/-- The entries of a numbered list with numbers in a range are those of a part of it. -/
theorem filter_zipIdx (characters : List Char) (start low high : Nat) :
    (((characters.zipIdx start).filter fun entry => low ≤ entry.2 ∧ entry.2 ≤ high).map (·.1)) =
      (characters.take (high + 1 - start)).drop (low - start) := by
  induction characters generalizing start with
  | nil => simp
  | cons character rest ih =>
    rw [List.zipIdx_cons, List.filter_cons]
    by_cases above : high < start
    · -- nothing from here on has a number in the range
      have empty : high + 1 - start = 0 := by omega
      have next : high + 1 - (start + 1) = 0 := by omega
      have outside : ¬(low ≤ start ∧ start ≤ high) := by omega
      simp only [outside, decide_false, Bool.false_eq_true, if_false, ih, empty, next,
        List.take_zero, List.drop_nil]
    · have taken : high + 1 - start = high + 1 - (start + 1) + 1 := by omega
      rw [taken, List.take_succ_cons]
      by_cases below : start < low
      · have outside : ¬(low ≤ start ∧ start ≤ high) := by omega
        have dropped : low - start = low - (start + 1) + 1 := by omega
        simp only [outside, decide_false, Bool.false_eq_true, if_false, ih]
        rw [dropped, List.drop_succ_cons]
      · have inside : low ≤ start ∧ start ≤ high := by omega
        have first : low - start = 0 := by omega
        have next : low - (start + 1) = 0 := by omega
        simp only [inside, and_self, decide_true, if_true, List.map_cons, ih, first, next,
          List.drop_zero]

/-- The characters between two positions are a part of the text. -/
theorem between_eq_drop_take (characters : List Char) (first last : Int) :
    between characters first last =
      (characters.take (min (counted characters.length last).toNat characters.length)).drop
        ((counted characters.length first).toNat - 1) := by
  have numbered := filter_zipIdx characters 1 (counted characters.length first).toNat
    (counted characters.length last).toNat
  rw [Nat.add_sub_cancel] at numbered
  rw [← List.take_eq_take_min, ← numbered, between]
  congr 1
  refine List.filter_congr fun entry held => ?_
  have place := (List.mem_zipIdx held).1
  simp only [decide_eq_decide]
  omega

/-- A slice holds the characters between its positions. -/
theorem slice?_eq_between {characters : List Char} (room : characters.length < 2 ^ 63)
    (first last : Int64) :
    slice? characters first last = some (between characters first.toInt last.toInt) := by
  unfold slice? range?
  simp only [UInt64.le_iff_toNat_le, lastPlace_lt_firstPlace_iff room, toNat_start room,
    toNat_stop room, between_eq_drop_take]
  split
  case isTrue outOfOrder =>
    rw [List.drop_eq_nil_of_le]
    rw [List.length_take]
    omega
  case isFalse inOrder =>
    rw [if_pos (by omega)]

/-- What a text has up to a position and what it has from the next one on make up the text. -/
theorem between_append (characters : List Char) {count : Nat} (within : count ≤ characters.length) :
    between characters 1 count ++ between characters (count + 1) (-1) = characters := by
  have front : between characters 1 count = characters.take count := by
    rw [between_eq_drop_take]
    simp [counted, within, not_lt.mpr (Int.natCast_nonneg count)]
  have back : between characters (count + 1) (-1) = characters.drop count := by
    rw [between_eq_drop_take]
    have natural : ¬(count : Int) + 1 < 0 := by omega
    simp [counted, natural]
  rw [front, back, List.take_append_drop]

/-! ## Runs -/

/-- A value that stands for a position. -/
def StandsFor (value : Value) (position : Int) : Prop :=
  ∃ word, value.toInt64? = some word ∧ word.toInt = position

/-- Every word is a position that some value stands for. -/
theorem standsFor_ofInt64 (word : Int64) : StandsFor (.ofInt64 word) word.toInt :=
  ⟨word, Value.toInt64?_ofInt64 word, rfl⟩

/-- A number of characters stands for itself. -/
theorem standsFor_ofNat {count : Nat} (room : count < 2 ^ 63) : StandsFor (.ofNat count) count :=
  Int64.toInt_ofNat_of_lt room ▸ standsFor_ofInt64 (Int64.ofNat count)

/-- A number without a fraction is read as the word that it stands for. -/
theorem integer_of_toInt64? {arguments : List Value} {index : Nat} {value : Value} {word : Int64}
    (given : arguments[index]? = some value) (stands : value.toInt64? = some word)
    (function : String) (missing : Int64) :
    Arguments.integer arguments index function missing = pure word := by
  have argument : Arguments.value arguments index = value := by
    rw [Arguments.value, given, Option.getD_some]
  rw [Arguments.integer, argument]
  cases value with
  | nil => contradiction
  | boolean | text | int | single | number | reference => simp only [stands]

/-- The part of a text between two words, both of them given or left out. -/
theorem sub_of_words {text : String} (room : text.length < 2 ^ 63) {arguments : List Value}
    {first last : Int64} (world : World) (subject : arguments[0]? = some (.text text))
    (start : Arguments.integer arguments 1 "sub" 1 = pure first)
    (stop : Arguments.integer arguments 2 "sub" (-1) = pure last) :
    sub arguments world =
      .ok [.text (String.ofList (between text.toList first.toInt last.toInt))] world := by
  have content : Arguments.text arguments 0 "sub" = pure text := by
    unfold Arguments.text
    rw [subject]
    rfl
  rw [sub, content, start, stop, pure_bind, pure_bind, pure_bind,
    slice?_eq_between (by rwa [String.length_toList])]
  rfl

/-- The number of characters of a text that is short enough stands for itself. -/
theorem exists_len (text : String) (room : text.length < 2 ^ 63) (world : World) :
    ∃ count, len [.text text] world = .ok [count] world ∧ StandsFor count text.length :=
  ⟨_, rfl, standsFor_ofNat room⟩

/-- The part of a text between two positions is the sequence of the characters there, for all
positions that words have. A negative one counts from the end. Nothing wraps on the way, and the
range that is taken lies in the text. So the part up to any position and the part from the next one
on make up the text, and their lengths add up to its length. No text in memory has `2 ^ 63`
characters. -/
theorem sub_is_character_slice (context : Context) (text : String) (room : text.length < 2 ^ 63)
    (world : World) :
    (∀ i j : Int64, StepsExact text.length i j) ∧
    (∀ first last i j, StandsFor first i → StandsFor last j →
      LibraryFunction.sub.run context [.text text, first, last] world =
        .ok [.text (String.ofList (between text.toList i j))] world) ∧
    (∀ k ≤ text.length, ∀ one upTo after, StandsFor one 1 → StandsFor upTo k →
      StandsFor after (k + 1) →
        ∃ front back,
          LibraryFunction.sub.run context [.text text, one, upTo] world =
            .ok [.text front] world ∧
          LibraryFunction.sub.run context [.text text, after] world = .ok [.text back] world ∧
          front ++ back = text ∧
          ∃ (a b c : Value) (m n : Nat),
            LibraryFunction.len.run context [.text front] world = .ok [a] world ∧
            LibraryFunction.len.run context [.text back] world = .ok [b] world ∧
            LibraryFunction.len.run context [.text text] world = .ok [c] world ∧
            StandsFor a m ∧ StandsFor b n ∧ StandsFor c (m + n)) := by
  refine ⟨fun i j => stepsExact room i j, ?_, ?_⟩
  · rintro first last _ _ ⟨i, start, rfl⟩ ⟨j, stop, rfl⟩
    exact sub_of_words room world rfl (integer_of_toInt64? rfl start _ _)
      (integer_of_toInt64? rfl stop _ _)
  · rintro k within one upTo after ⟨i, first, isOne⟩ ⟨j, last, isCount⟩ ⟨next, behind, isNext⟩
    have front : sub [.text text, one, upTo] world = _ := sub_of_words room world rfl
      (integer_of_toInt64? rfl first _ _) (integer_of_toInt64? rfl last _ _)
    have back : sub [.text text, after] world = _ := sub_of_words room world rfl
      (integer_of_toInt64? rfl behind _ _) rfl
    rw [isOne, isCount] at front
    rw [isNext] at back
    have whole : String.ofList (between text.toList 1 k) ++
        String.ofList (between text.toList (k + 1) (-1)) = text := by
      rw [← String.ofList_append, between_append _ (String.length_toList ▸ within),
        String.ofList_toList]
    have lengths := congrArg String.length whole
    rw [String.length_append] at lengths
    obtain ⟨a, frontLength, isFront⟩ :=
      exists_len (String.ofList (between text.toList 1 k)) (by omega) world
    obtain ⟨b, backLength, isBack⟩ :=
      exists_len (String.ofList (between text.toList (k + 1) (-1))) (by omega) world
    obtain ⟨c, wholeLength, isWhole⟩ := exists_len text room world
    refine ⟨_, _, front, back, whole, a, b, c, _, _, frontLength, backLength, wholeLength, isFront,
      isBack, ?_⟩
    rwa [← Nat.cast_add, lengths]

/-- The least position and the greatest one enclose a text, and positions from both ends meet. -/
theorem sub_is_character_slice_extremes :
    LibraryFunction.sub.run {} [.text "héllo", .ofInt64 Int64.minValue, .ofInt64 Int64.maxValue]
        {} = .ok [.text "héllo"] {} ∧
      LibraryFunction.sub.run {} [.text "héllo", .ofInt64 (-4), .ofInt64 3] {} =
        .ok [.text "él"] {} := by
  obtain ⟨-, slice, -⟩ := sub_is_character_slice {} "héllo" (by decide) {}
  have all : between "héllo".toList Int64.minValue.toInt Int64.maxValue.toInt =
      ['h', 'é', 'l', 'l', 'o'] := by decide
  have inner : between "héllo".toList (-4 : Int64).toInt (3 : Int64).toInt = ['é', 'l'] := by decide
  have whole := slice _ _ _ _ (standsFor_ofInt64 Int64.minValue) (standsFor_ofInt64 Int64.maxValue)
  have part := slice _ _ _ _ (standsFor_ofInt64 (-4)) (standsFor_ofInt64 3)
  rw [all] at whole
  rw [inner] at part
  exact ⟨whole, part⟩

end TextLibrary

end ScriptHost
