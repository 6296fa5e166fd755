import ScentedGrid.Proofs.Source.Offences
import Mathlib.Data.Nat.Digits.Defs

/-! Numerals of any length. A numeral that is too long for a word of 64 bits is read as the largest
word, and no digit that follows brings it back. The rules on values ask whether a number is zero and
whether it is at most 255; on both, what was read agrees with what the numeral stands for. -/

namespace ScentedGrid.Source

open Grammar

/-! ## Words -/

/-- The word that a sum or a product of words wrapped to, or the largest word if the exact value has
no room in a word. -/
def held (exact : Nat) (wrapped : UInt64) : UInt64 :=
  if exact < UInt64.size then wrapped else UInt64.ofNat ceiling

/-- One more digit of a numeral that is read in words, held after the product and after the sum. -/
def wordDigit (word : UInt64) (c : Char) : UInt64 :=
  let product := held (word.toNat * 10) (word * 10)
  held (product.toNat + digitValue c) (product + UInt64.ofNat (digitValue c))

theorem toNat_held {exact : Nat} {wrapped : UInt64} (wraps : wrapped.toNat = exact % UInt64.size) :
    (held exact wrapped).toNat = min exact ceiling := by
  unfold held
  by_cases room : exact < UInt64.size
  · rw [if_pos room, wraps, Nat.mod_eq_of_lt room]
    exact (min_eq_left (Nat.le_pred_of_lt room)).symm
  · rw [if_neg room]
    exact (min_eq_right (Nat.le_trans (Nat.sub_le _ 1) (Nat.le_of_not_lt room))).symm

theorem digitValue_lt {c : Char} (digit : '0' ≤ c ∧ c ≤ '9') : digitValue c < 10 := by
  have last : c.toNat ≤ '9'.toNat := UInt32.le_iff_toNat_le.1 (Char.le_def.1 digit.2)
  have values : '0'.toNat = 48 ∧ '9'.toNat = 57 := ⟨rfl, rfl⟩
  unfold digitValue
  omega

theorem digits_of_all {digits : List Char} (all : digits.all Char.isDigit = true) :
    ∀ c ∈ digits, '0' ≤ c ∧ c ≤ '9' :=
  fun c member => (isDigit_iff c).1 (List.all_eq_true.1 all c member)

theorem toNat_wordDigit {c : Char} (digit : '0' ≤ c ∧ c ≤ '9') (word : UInt64) :
    (wordDigit word c).toNat = saturatingDigit word.toNat c := by
  have small := digitValue_lt digit
  have value : (UInt64.ofNat (digitValue c)).toNat = digitValue c := by
    rw [UInt64.toNat_ofNat', Nat.mod_eq_of_lt (by omega)]
  have product : (held (word.toNat * 10) (word * 10)).toNat = min (word.toNat * 10) ceiling :=
    toNat_held (UInt64.toNat_mul word 10)
  have sum (word : UInt64) : (held (word.toNat + digitValue c)
      (word + UInt64.ofNat (digitValue c))).toNat = min (word.toNat + digitValue c) ceiling :=
    toNat_held (by rw [UInt64.toNat_add, value])
  rw [wordDigit, sum, product]
  rfl

/-- Reading in words agrees with reading in numbers held at the ceiling, after every digit. -/
theorem toNat_foldl_wordDigit {digits : List Char} (all : ∀ c ∈ digits, '0' ≤ c ∧ c ≤ '9')
    (word : UInt64) :
    (digits.foldl wordDigit word).toNat = digits.foldl saturatingDigit word.toNat := by
  induction digits generalizing word with
  | nil => rfl
  | cons c rest ih =>
    have others := ih (fun d member => all d (List.mem_cons_of_mem c member)) (wordDigit word c)
    rw [List.foldl_cons, List.foldl_cons, others, toNat_wordDigit (all c List.mem_cons_self)]

/-! ## Positions -/

/-- Each digit counts ten times as much as the one behind it. -/
theorem decimalValue_eq_ofDigits (digits : List Char) :
    decimalValue digits = Nat.ofDigits 10 (digits.map digitValue).reverse := by
  rw [Nat.ofDigits_eq_foldr, List.foldr_reverse, List.foldl_map]
  unfold decimalValue digitValue
  congr 1
  funext value c
  exact Nat.add_comm _ _

theorem decimalValue_zeros (zeros : Nat) (digits : List Char) :
    decimalValue (List.replicate zeros '0' ++ digits) = decimalValue digits := by
  have zero : digitValue '0' = 0 := rfl
  rw [decimalValue_eq_ofDigits, List.map_append, List.map_replicate, zero, List.reverse_append,
    List.reverse_replicate, Nat.ofDigits_append_replicate_zero, ← decimalValue_eq_ofDigits]

theorem numeral_zeros {digits : List Char} {value : Nat} (numeral : Numeral digits value)
    (zeros : Nat) : Numeral (List.replicate zeros '0' ++ digits) value where
  filled := List.append_ne_nil_of_right_ne_nil _ numeral.filled
  digits := by
    intro c member
    rcases List.mem_append.1 member with zero | digit
    · rw [List.eq_of_mem_replicate zero]
      decide
    · exact numeral.digits c digit
  exact := (decimalValue_zeros zeros digits).trans numeral.exact

/-! ## Judging -/

/-- A row of digits is read as the number that it stands for by the positions of its digits, held at
the largest word of 64 bits; holding every product and every sum on the way gives the same, and
zeros in front change nothing. The sides of a square and the numbers of a landing are judged as the
exact numbers would be. -/
theorem numerals_judged :
    (∀ digits, digits ≠ [] → (∀ c ∈ digits, '0' ≤ c ∧ c ≤ '9') →
      ∃ value, value = Nat.ofDigits 10 (digits.map digitValue).reverse ∧ Numeral digits value ∧
        (digits.foldl wordDigit 0).toNat = min value (2 ^ 64 - 1) ∧
        (∀ rest, Stops Char.isDigit rest →
          numeral? (digits ++ rest) = some (min value (2 ^ 64 - 1), rest)) ∧
        ∀ zeros, Numeral (List.replicate zeros '0' ++ digits) value) ∧
    (∀ line mark rest width height, SquareLine line width height → SentenceEnd mark rest →
      square (line ++ mark ++ rest) =
        if width = 0 ∨ height = 0 then
          .error ⟨.squareZero, line ++ mark ++ rest, following mark rest⟩
        else if width ≤ 255 ∧ height ≤ 255 then
          .ok (some (⟨UInt8.ofNat width, UInt8.ofNat height⟩, following mark rest))
        else .error ⟨.squareTooLarge, line ++ mark ++ rest, following mark rest⟩) ∧
    ∀ spaces first second x y (facing : Direction) rest,
      Spaces spaces → Numeral first x → Numeral second y →
      let text := "Move".toList ++ spaces ++ first ++ [' '] ++ second ++ [' ', facing.letter] ++ rest
      landing text =
        if x ≤ 255 ∧ y ≤ 255 then
          match sentenceEnd? rest with
          | some after => .ok (some (.landing (UInt8.ofNat x) (UInt8.ofNat y) facing, after))
          | none => .error ⟨.landingParameters, text, rest⟩
        else .error ⟨.landingTooLarge, text, rest⟩ := by
  refine ⟨fun digits filled all => ?_, fun line mark rest width height spelled ending => ?_, ?_⟩
  · have numeral : Numeral digits (decimalValue digits) := ⟨filled, all, rfl⟩
    refine ⟨decimalValue digits, decimalValue_eq_ofDigits digits, numeral, ?_,
      fun rest stops => numeral_read numeral stops, numeral_zeros numeral⟩
    calc (digits.foldl wordDigit 0).toNat
      _ = numeralValue digits := toNat_foldl_wordDigit all 0
      _ = min (decimalValue digits) (2 ^ 64 - 1) := numeralValue_eq digits
  · exact square_line spelled ending
  · intro spaces first second x y facing rest spaced numeral numeral'
    exact landing_spelled spaced numeral numeral' facing rest

/-- In words that wrap, the first number would be five and the second zero. -/
theorem numerals_judged_beyond :
    let wide := "18446744073709551621".toList
    let high := "18446744073709551616".toList
    let zeros := List.replicate 40 '0'
    wide ≠ [] ∧ (∀ c ∈ wide, '0' ≤ c ∧ c ≤ '9') ∧
      (wide.foldl wordDigit 0).toNat = 2 ^ 64 - 1 ∧
      numeral? (wide ++ [' ']) = some (2 ^ 64 - 1, [' ']) ∧
      square ("Square".toList ++ [' '] ++ wide ++ [' '] ++ high ++ ['\n'] ++ []) =
        .error ⟨.squareTooLarge,
          "Square".toList ++ [' '] ++ wide ++ [' '] ++ high ++ ['\n'] ++ [], []⟩ ∧
      square ("Square".toList ++ [' '] ++ (zeros ++ ['5']) ++ [' '] ++ (zeros ++ ['0']) ++
          ['\n'] ++ []) =
        .error ⟨.squareZero, "Square".toList ++ [' '] ++ (zeros ++ ['5']) ++ [' '] ++
          (zeros ++ ['0']) ++ ['\n'] ++ [], []⟩ ∧
      landing ("Move".toList ++ [' '] ++ (zeros ++ ['5']) ++ [' '] ++ (zeros ++ ['0']) ++
          [' ', Direction.north.letter] ++ []) =
        .ok (some (.landing 5 0 .north, [])) := by
  intro wide high zeros
  have filled : wide ≠ [] := by decide
  have all : ∀ c ∈ wide, '0' ≤ c ∧ c ≤ '9' := digits_of_all (by decide)
  have space : Grammar.Spaces [' '] := ⟨by decide, by simp⟩
  have ending : SentenceEnd ['\n'] [] := .line [] .lineFeed
  have five : Numeral ['5'] 5 := ⟨by decide, digits_of_all (by decide), rfl⟩
  have zero : Numeral ['0'] 0 := ⟨by decide, digits_of_all (by decide), rfl⟩
  have highest : Numeral high 18446744073709551616 := ⟨by decide, digits_of_all (by decide), rfl⟩
  obtain ⟨read, squares, landings⟩ := numerals_judged
  obtain ⟨value, _, numeral, word, answer, _⟩ := read wide filled all
  have exact : value = 18446744073709551621 := numeral.exact.symm.trans rfl
  rw [exact] at numeral word answer
  have padded := numeral_zeros five 40
  have padded' := numeral_zeros zero 40
  exact ⟨filled, all, word, answer [' '] (stops_cons rfl),
    squares _ _ _ _ _ (.mk space numeral space highest) ending,
    squares _ _ _ _ _ (.mk space padded space padded') ending,
    landings _ _ _ _ _ .north [] space padded padded'⟩

end ScentedGrid.Source
