import ScentedGrid.Proofs.Source.Pieces
import ScentedGrid.Source.Sentence

/-! The readers of sentences against the grammar. A shape that was read splits its text into the
parts of the shape; a text of that shape is read as such. What begins no sentence refuses nothing. -/

namespace ScentedGrid.Source

open Grammar

/-! ## What a piece cannot go on from -/

theorem numeral_stops {digits : List Char} {value : Nat} (numeral : Numeral digits value)
    (rest : List Char) : Stops (· == ' ') (digits ++ rest) := by
  apply stops_append numeral.filled
  intro c member
  apply Bool.eq_false_iff.2
  intro space
  have digit := (isDigit_iff c).2 (numeral.digits c member)
  rw [beq_iff_eq.1 space] at digit
  exact absurd digit (by decide)

theorem spaces_stops {spaces : List Char} (spaced : Spaces spaces) (rest : List Char) :
    Stops Char.isDigit (spaces ++ rest) := by
  apply stops_append spaced.1
  intro c member
  rw [spaced.2 c member]
  rfl

/-! ## Numbers of a byte -/

theorem byte_below_ceiling : 255 < ceiling := by decide

/-- A value in a byte's range is exact, since the ceiling lies above that range. -/
theorem toNat_of_min_ceiling {value exact : Nat} (read : value = min exact ceiling)
    (small : value ≤ 255) : (UInt8.ofNat value).toNat = exact := by
  have above := byte_below_ceiling
  have same : value = exact := by omega
  rw [UInt8.toNat_ofNat', Nat.mod_eq_of_lt (by omega), same]

theorem min_ceiling_byte (byte : UInt8) : min byte.toNat ceiling = byte.toNat := by
  have bound := byte.toNat_lt
  have above := byte_below_ceiling
  omega

/-! ## Shapes -/

theorem squareShape_of_read {text rest : List Char} {width height : Nat}
    (read : squareShape? text = some ((width, height), rest)) :
    ∃ spaces first between second mark exactWidth exactHeight,
      Spaces spaces ∧ Numeral first exactWidth ∧ Spaces between ∧ Numeral second exactHeight ∧
      SentenceEnd mark rest ∧ width = min exactWidth ceiling ∧ height = min exactHeight ceiling ∧
      text = "Square".toList ++ spaces ++ first ++ between ++ second ++ mark ++ rest := by
  simp only [squareShape?, bind, Option.bind_eq_some_iff, Prod.exists, pure,
    Option.some.injEq, Prod.mk.injEq] at read
  obtain ⟨_, word, _, spaces, _, _, number, _, gap, _, _, number', _, ending, ⟨rfl, rfl⟩, rfl⟩ :=
    read
  have opening := word_append word
  obtain ⟨spacing, spaced, rfl⟩ := spaces_of_read spaces
  obtain ⟨first, exactWidth, numeral, wide, rfl⟩ := numeral_of_read number
  obtain ⟨between, spaced', rfl⟩ := spaces_of_read gap
  obtain ⟨second, exactHeight, numeral', high, rfl⟩ := numeral_of_read number'
  obtain ⟨mark, sentenceEnd, rfl⟩ := sentenceEnd_of_read ending
  refine ⟨spacing, first, between, second, mark, exactWidth, exactHeight, spaced, numeral, spaced',
    numeral', sentenceEnd, wide, high, ?_⟩
  rw [← opening]
  simp only [List.append_assoc]

theorem squareShape_read {spaces first between second mark rest : List Char}
    {exactWidth exactHeight : Nat} (spaced : Spaces spaces) (wide : Numeral first exactWidth)
    (spaced' : Spaces between) (high : Numeral second exactHeight)
    (ending : SentenceEnd mark rest) :
    squareShape? ("Square".toList ++ spaces ++ first ++ between ++ second ++ mark ++ rest) =
      some ((min exactWidth ceiling, min exactHeight ceiling), following mark rest) := by
  have digits : Stops Char.isDigit (mark ++ rest) := sentenceEnd_stops ending (by decide)
  simp only [squareShape?, List.append_assoc, word_read, bind, Option.bind_some,
    spaces_read spaced (numeral_stops wide _), numeral_read wide (spaces_stops spaced' _),
    spaces_read spaced' (numeral_stops high _), numeral_read high digits,
    sentenceEnd_read ending, pure]

theorem landingShape_of_read {text rest : List Char} {x y : Nat} {facing : Direction}
    (read : landingShape? text = some ((x, y, facing), rest)) :
    ∃ spaces first second exactX exactY,
      Spaces spaces ∧ Numeral first exactX ∧ Numeral second exactY ∧
      x = min exactX ceiling ∧ y = min exactY ceiling ∧
      text = "Move".toList ++ spaces ++ first ++ [' '] ++ second ++ [' ', facing.letter] ++ rest := by
  simp only [landingShape?, bind, Option.bind_eq_some_iff, Prod.exists, pure,
    Option.some.injEq, Prod.mk.injEq] at read
  obtain ⟨_, word, _, spaces, _, _, number, _, gap, _, _, number', _, gap', _, _, letter,
    ⟨rfl, rfl, rfl⟩, rfl⟩ := read
  have opening := word_append word
  obtain ⟨spacing, spaced, rfl⟩ := spaces_of_read spaces
  obtain ⟨first, exactX, numeral, readX, rfl⟩ := numeral_of_read number
  have between := word_append gap
  obtain ⟨second, exactY, numeral', readY, rfl⟩ := numeral_of_read number'
  have between' := word_append gap'
  have last := direction_of_read letter
  refine ⟨spacing, first, second, exactX, exactY, spaced, numeral, numeral', readX, readY, ?_⟩
  rw [← opening, ← between, ← between', last]
  simp [List.append_assoc]

theorem landingShape_read {spaces first second : List Char} {exactX exactY : Nat}
    (spaced : Spaces spaces) (numeral : Numeral first exactX) (numeral' : Numeral second exactY)
    (facing : Direction) (rest : List Char) :
    landingShape?
        ("Move".toList ++ spaces ++ first ++ [' '] ++ second ++ [' ', facing.letter] ++ rest) =
      some ((min exactX ceiling, min exactY ceiling, facing), rest) := by
  have gap (rest : List Char) : Stops Char.isDigit (' ' :: rest) := stops_cons rfl
  have word (rest : List Char) : word? " ".toList (' ' :: rest) = some rest := rfl
  simp only [landingShape?, List.append_assoc, List.cons_append, List.nil_append, word_read, bind,
    Option.bind_some, spaces_read spaced (numeral_stops numeral _), numeral_read numeral (gap _),
    word, numeral_read numeral' (gap _), direction_read, pure]

theorem headingShape_of_read {text rest : List Char} {commands : List Command}
    (read : headingShape? text = some (commands, rest)) :
    ∃ spaces, Spaces spaces ∧ commands ≠ [] ∧
      text = "Rotate".toList ++ spaces ++ commands.map Command.letter ++ rest := by
  simp only [headingShape?, bind, Option.bind_eq_some_iff, pure, Option.ite_none_left_eq_some,
    Option.some.injEq, Prod.mk.injEq] at read
  obtain ⟨_, word, afterSpaces, spaces, filled, rfl, rfl⟩ := read
  have opening := word_append word
  obtain ⟨spacing, spaced, rfl⟩ := spaces_of_read spaces
  refine ⟨spacing, spaced, ?_, ?_⟩
  · intro empty
    exact filled (List.isEmpty_iff.2 empty)
  · rw [← opening, List.append_assoc _ _ (commandRun afterSpaces).2, commandRun_append,
      List.append_assoc]

theorem headingShape_read {spaces rest : List Char} {commands : List Command}
    (spaced : Spaces spaces) (filled : commands ≠ [])
    (stops : Stops (fun c => (Command.ofLetter? c).isSome) rest) :
    headingShape? ("Rotate".toList ++ spaces ++ commands.map Command.letter ++ rest) =
      some (commands, rest) := by
  have unspaced : Stops (· == ' ') (commands.map Command.letter ++ rest) := by
    apply stops_append (by simpa using filled)
    intro c member
    obtain ⟨command, _, rfl⟩ := List.mem_map.1 member
    cases command <;> rfl
  have nonempty : commands.isEmpty = false := List.isEmpty_eq_false_iff.2 filled
  simp only [headingShape?, List.append_assoc, word_read, bind, Option.bind_some,
    spaces_read spaced unspaced, commandRun_read commands stops, nonempty, pure]
  rfl

/-! ## Sentences -/

theorem square_of_read {text rest : List Char} {found : Square}
    (read : square text = .ok (some (found, rest))) :
    ∃ spaces first between second mark,
      Spaces spaces ∧ Numeral first found.width.toNat ∧ Spaces between ∧
      Numeral second found.height.toNat ∧ found.Positive ∧ SentenceEnd mark rest ∧
      text = "Square".toList ++ spaces ++ first ++ between ++ second ++ mark ++ rest := by
  unfold square at read
  split at read
  · cases read
  · next width height after shape =>
    obtain ⟨spaces, first, between, second, mark, exactWidth, exactHeight, spaced, wide, spaced',
      high, ending, readWidth, readHeight, same⟩ := squareShape_of_read shape
    split at read
    · cases read
    · next sides =>
      split at read
      · next small =>
        cases read
        have exactW := toNat_of_min_ceiling readWidth small.1
        have exactH := toNat_of_min_ceiling readHeight small.2
        have positive : (⟨UInt8.ofNat width, UInt8.ofNat height⟩ : Square).Positive := by
          have above := byte_below_ceiling
          rw [Square.Positive, exactW, exactH]
          omega
        exact ⟨spaces, first, between, second, mark, spaced, exactW ▸ wide, spaced', exactH ▸ high,
          positive, ending, same⟩
      · cases read

theorem square_read {spaces first between second mark rest : List Char} {found : Square}
    (spaced : Spaces spaces) (wide : Numeral first found.width.toNat) (spaced' : Spaces between)
    (high : Numeral second found.height.toNat) (positive : found.Positive)
    (ending : SentenceEnd mark rest) :
    square ("Square".toList ++ spaces ++ first ++ between ++ second ++ mark ++ rest) =
      .ok (some (found, following mark rest)) := by
  have sides : ¬ (found.width.toNat = 0 ∨ found.height.toNat = 0) := by
    rw [Square.Positive] at positive
    omega
  have small : found.width.toNat ≤ 255 ∧ found.height.toNat ≤ 255 :=
    ⟨Nat.le_of_lt_succ found.width.toNat_lt, Nat.le_of_lt_succ found.height.toNat_lt⟩
  rw [square, squareShape_read spaced wide spaced' high ending, min_ceiling_byte,
    min_ceiling_byte]
  simp only [if_neg sides, if_pos small, UInt8.ofNat_toNat]

theorem landing_of_read {text rest : List Char} {found : Instruction}
    (read : landing text = .ok (some (found, rest))) :
    ∃ sentence mark, Sentence sentence found ∧ SentenceEnd mark rest ∧
      text = sentence ++ mark ++ rest := by
  unfold landing at read
  split at read
  · cases read
  · next x y facing after shape =>
    obtain ⟨spaces, first, second, exactX, exactY, spaced, numeral, numeral', readX, readY, same⟩ :=
      landingShape_of_read shape
    split at read
    · next small =>
      split at read
      · next rest' ending =>
        cases read
        obtain ⟨mark, sentenceEnd, rfl⟩ := sentenceEnd_of_read ending
        have exact := toNat_of_min_ceiling readX small.1
        have exact' := toNat_of_min_ceiling readY small.2
        refine ⟨_, mark, .landing facing spaced (exact ▸ numeral) (exact' ▸ numeral'), sentenceEnd, ?_⟩
        rw [same]
        simp only [List.append_assoc]
      · cases read
    · cases read

theorem heading_of_read {text rest : List Char} {found : Instruction}
    (read : heading text = .ok (some (found, rest))) :
    ∃ sentence mark, Sentence sentence found ∧ SentenceEnd mark rest ∧
      text = sentence ++ mark ++ rest := by
  unfold heading at read
  split at read
  · cases read
  · next commands after shape =>
    obtain ⟨spaces, spaced, filled, same⟩ := headingShape_of_read shape
    split at read
    · next rest' ending =>
      cases read
      obtain ⟨mark, sentenceEnd, rfl⟩ := sentenceEnd_of_read ending
      refine ⟨_, mark, .heading spaced filled, sentenceEnd, ?_⟩
      rw [same]
      simp only [List.append_assoc]
    · cases read

theorem instruction_of_read {text rest : List Char} {found : Instruction}
    (read : instruction text = .ok (some (found, rest))) :
    ∃ blanks sentence mark, Blanks blanks ∧ Sentence sentence found ∧ SentenceEnd mark rest ∧
      text = blanks ++ sentence ++ mark ++ rest := by
  obtain ⟨blanks, blank, split⟩ := blanks_of_skipBlanks text
  have inside : ∃ sentence mark, Sentence sentence found ∧ SentenceEnd mark rest ∧
      skipBlanks text = sentence ++ mark ++ rest := by
    unfold instruction at read
    split at read
    · exact heading_of_read read
    · exact landing_of_read read
  obtain ⟨sentence, mark, sentenceText, ending, same⟩ := inside
  refine ⟨blanks, sentence, mark, blank, sentenceText, ending, ?_⟩
  rw [split, same]
  simp only [List.append_assoc]

/-- Only what follows the blanks decides which instruction stands there. -/
theorem instruction_congr {text other : List Char} (same : skipBlanks text = skipBlanks other) :
    instruction text = instruction other := by
  rw [instruction, same]
  rfl

theorem instruction_read {sentence mark rest text : List Char} {found : Instruction}
    (spelled : Sentence sentence found) (ending : SentenceEnd mark rest)
    (start : skipBlanks text = sentence ++ mark ++ rest) :
    instruction text = .ok (some (found, following mark rest)) := by
  have ended := sentenceEnd_read ending
  cases spelled with
  | landing facing spaced numeral numeral' =>
    have small (byte : UInt8) : byte.toNat ≤ 255 := Nat.le_of_lt_succ byte.toNat_lt
    have shape := landingShape_read spaced numeral numeral' facing (mark ++ rest)
    rw [instruction, start, List.append_assoc, landing, shape]
    simp only [min_ceiling_byte, small, and_self, if_true, ended, UInt8.ofNat_toNat]
  | heading spaced filled =>
    have stops : Stops (fun c => (Command.ofLetter? c).isSome) (mark ++ rest) :=
      sentenceEnd_stops ending (by decide)
    have shape := headingShape_read spaced filled stops
    have other (rest : List Char) : landing ("Rotate".toList ++ rest) = .ok none := rfl
    rw [instruction, start]
    simp only [List.append_assoc] at shape ⊢
    rw [other]
    simp only [heading, shape, ended]

/-! ## No sentence -/

/-- No space comes after the name characters at the front, so no keyword is spelled there. -/
def Unspaced (text : List Char) : Prop := Stops (· == ' ') (text.dropWhile isNameChar)

theorem spaces_after_word {word text after : List Char} (unspaced : Unspaced text)
    (letters : word.all isNameChar = true) (read : word? word text = some after) :
    spaces? after = none := by
  unfold spaces?
  split
  · next rest =>
    have past : text.dropWhile isNameChar = ' ' :: rest := by
      rw [← word_append read]
      exact dropWhile_run (List.all_eq_true.1 letters) (stops_cons rfl)
    rw [Unspaced, past] at unspaced
    exact absurd (unspaced ' ' rfl) (by decide)
  · rfl

/-- A shape that begins with a keyword and spaces. -/
theorem keyword_unspaced {α : Type} {word text : List Char} (unspaced : Unspaced text)
    (letters : word.all isNameChar = true) (shape : List Char → Option α) :
    ((word? word text).bind fun after => (spaces? after).bind shape) = none := by
  apply Option.bind_eq_none_iff.2
  intro after read
  rw [spaces_after_word unspaced letters read]
  rfl

theorem landing_unspaced {text : List Char} (unspaced : Unspaced text) :
    landing text = .ok none := by
  have shape : landingShape? text = none := keyword_unspaced unspaced (by decide) _
  rw [landing, shape]

theorem heading_unspaced {text : List Char} (unspaced : Unspaced text) :
    heading text = .ok none := by
  have shape : headingShape? text = none := keyword_unspaced unspaced (by decide) _
  rw [heading, shape]

/-- Nothing is refused either: a rule on values is looked at only behind a keyword and a space. -/
theorem instruction_unspaced {text : List Char} (unspaced : Unspaced (skipBlanks text)) :
    instruction text = .ok none := by
  rw [instruction, landing_unspaced unspaced, heading_unspaced unspaced]

end ScentedGrid.Source
