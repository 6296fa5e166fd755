import ScentedGrid.Source.Error
import ScentedGrid.Source.Terminal

/-! Sentences of mission text: the square, a landing and a heading. A sentence first has to
have its shape. A shape whose values break a rule ends the reading of the whole text, since no
other sentence could stand there. -/

namespace ScentedGrid.Source

/-- A broken rule, with the text from the start of its sentence and the text where reading
stopped. -/
structure Refusal where
  rule : Violation
  start : List Char
  stop : List Char

/-- A reader that may find its piece, find none, or refuse the text for good. -/
abbrev Reading (α : Type) := Except Refusal (Option (α × List Char))

/-- `Square w h` and the end of its line. -/
def squareShape? (text : List Char) : Option ((Nat × Nat) × List Char) := do
  let text ← word? "Square".toList text
  let text ← spaces? text
  let (width, text) ← numeral? text
  let text ← spaces? text
  let (height, text) ← numeral? text
  let text ← sentenceEnd? text
  return ((width, height), text)

/-- A side of zero is named before a side that is too large. -/
def square (text : List Char) : Reading Square :=
  match squareShape? text with
  | none => .ok none
  | some ((width, height), rest) =>
    if width = 0 ∨ height = 0 then .error ⟨.squareZero, text, rest⟩
    else if width ≤ 255 ∧ height ≤ 255 then
      .ok (some (⟨UInt8.ofNat width, UInt8.ofNat height⟩, rest))
    else .error ⟨.squareTooLarge, text, rest⟩

/-- `Move x y D`, up to the letter; a single space stands before `y` and before the letter. -/
def landingShape? (text : List Char) : Option ((Nat × Nat × Direction) × List Char) := do
  let text ← word? "Move".toList text
  let text ← spaces? text
  let (x, text) ← numeral? text
  let text ← word? " ".toList text
  let (y, text) ← numeral? text
  let text ← word? " ".toList text
  let (facing, text) ← direction? text
  return ((x, y, facing), text)

/-- The size of the numbers is looked at before the end of the line. -/
def landing (text : List Char) : Reading Instruction :=
  match landingShape? text with
  | none => .ok none
  | some ((x, y, facing), rest) =>
    if x ≤ 255 ∧ y ≤ 255 then
      match sentenceEnd? rest with
      | some after => .ok (some (.landing (UInt8.ofNat x) (UInt8.ofNat y) facing, after))
      | none => .error ⟨.landingParameters, text, rest⟩
    else .error ⟨.landingTooLarge, text, rest⟩

/-- `Rotate` and at least one command, up to the last of them. -/
def headingShape? (text : List Char) : Option (List Command × List Char) := do
  let text ← word? "Rotate".toList text
  let text ← spaces? text
  let (commands, text) := commandRun text
  if commands.isEmpty then none else return (commands, text)

def heading (text : List Char) : Reading Instruction :=
  match headingShape? text with
  | none => .ok none
  | some (commands, rest) =>
    match sentenceEnd? rest with
    | some after => .ok (some (.heading commands, after))
    | none => .error ⟨.headingParameters, text, rest⟩

/-- Blanks, line ends among them, may stand before an instruction. -/
def instruction (text : List Char) : Reading Instruction :=
  match landing (skipBlanks text) with
  | .ok none => heading (skipBlanks text)
  | found => found

theorem word_nonempty_shorter {letter : Char} {word text rest : List Char}
    (read : word? (letter :: word) text = some rest) : rest.length < text.length := by
  rw [← word_append read]
  simp only [List.length_append, List.length_cons]
  omega

theorem squareShape_suffix {text rest : List Char} {sides : Nat × Nat}
    (read : squareShape? text = some (sides, rest)) : rest <:+ text := by
  simp only [squareShape?, bind, Option.bind_eq_some_iff, Prod.exists, pure,
    Option.some.injEq, Prod.mk.injEq] at read
  obtain ⟨_, word, _, spaces, _, _, number, _, gap, _, _, number', _, ending, _, rfl⟩ := read
  exact (sentenceEnd_suffix ending).trans <| (numeral_suffix number').trans <|
    (spaces_suffix gap).trans <| (numeral_suffix number).trans <|
    (spaces_suffix spaces).trans (word_suffix word)

theorem landingShape_suffix {text rest : List Char} {values : Nat × Nat × Direction}
    (read : landingShape? text = some (values, rest)) :
    rest <:+ text ∧ rest.length < text.length := by
  simp only [landingShape?, bind, Option.bind_eq_some_iff, Prod.exists, pure,
    Option.some.injEq, Prod.mk.injEq] at read
  obtain ⟨_, word, _, spaces, _, _, number, _, gap, _, _, number', _, gap', _, _, letter, _, rfl⟩ :=
    read
  have afterWord := (direction_suffix letter).trans <| (word_suffix gap').trans <|
    (numeral_suffix number').trans <| (word_suffix gap).trans <| (numeral_suffix number).trans
    (spaces_suffix spaces)
  exact ⟨afterWord.trans (word_suffix word),
    Nat.lt_of_le_of_lt afterWord.length_le (word_nonempty_shorter word)⟩

theorem headingShape_suffix {text rest : List Char} {commands : List Command}
    (read : headingShape? text = some (commands, rest)) :
    rest <:+ text ∧ rest.length < text.length := by
  simp only [headingShape?, bind, Option.bind_eq_some_iff, pure, Option.ite_none_left_eq_some,
    Option.some.injEq, Prod.mk.injEq] at read
  obtain ⟨_, word, _, spaces, _, _, rfl⟩ := read
  have afterWord := (commandRun_suffix _).trans (spaces_suffix spaces)
  exact ⟨afterWord.trans (word_suffix word),
    Nat.lt_of_le_of_lt afterWord.length_le (word_nonempty_shorter word)⟩

theorem landing_suffix {text rest : List Char} {found : Instruction}
    (read : landing text = .ok (some (found, rest))) :
    rest <:+ text ∧ rest.length < text.length := by
  unfold landing at read
  split at read
  · cases read
  · next shape =>
    obtain ⟨suffix, shorter⟩ := landingShape_suffix shape
    split at read
    · split at read
      · next ending =>
        cases read
        have := sentenceEnd_suffix ending
        exact ⟨this.trans suffix, Nat.lt_of_le_of_lt this.length_le shorter⟩
      · cases read
    · cases read

theorem heading_suffix {text rest : List Char} {found : Instruction}
    (read : heading text = .ok (some (found, rest))) :
    rest <:+ text ∧ rest.length < text.length := by
  unfold heading at read
  split at read
  · cases read
  · next shape =>
    obtain ⟨suffix, shorter⟩ := headingShape_suffix shape
    split at read
    · next ending =>
      cases read
      have := sentenceEnd_suffix ending
      exact ⟨this.trans suffix, Nat.lt_of_le_of_lt this.length_le shorter⟩
    · cases read

theorem instruction_suffix {text rest : List Char} {found : Instruction}
    (read : instruction text = .ok (some (found, rest))) :
    rest <:+ text ∧ rest.length < text.length := by
  have fromBlanks : rest <:+ skipBlanks text ∧ rest.length < (skipBlanks text).length := by
    unfold instruction at read
    split at read
    · exact heading_suffix read
    · exact landing_suffix read
  exact ⟨fromBlanks.1.trans (skipBlanks_suffix text),
    Nat.lt_of_lt_of_le fromBlanks.2 (skipBlanks_suffix text).length_le⟩

end ScentedGrid.Source
