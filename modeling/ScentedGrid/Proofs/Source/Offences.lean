import ScentedGrid.Proofs.Source.Passage

/-! Sentences that break a rule, against the readers that refuse them. A rule is broken by the
numbers of a square or a landing, by the length of a name, or by what stands behind an
instruction. -/

namespace ScentedGrid.Grammar

open Source

/-- The sentence of a landing without its end, whatever numbers stand in it. -/
inductive LandingLine : List Char → Nat → Nat → Prop where
  | mk {spaces first second : List Char} {x y : Nat} (facing : Direction) :
      Spaces spaces → Numeral first x → Numeral second y →
      LandingLine ("Move".toList ++ spaces ++ first ++ [' '] ++ second ++ [' ', facing.letter]) x y

inductive SquareOffence : Violation → List Char → List Char → Prop where
  | zero {line mark rest : List Char} {width height : Nat} :
      SquareLine line width height → width = 0 ∨ height = 0 → SentenceEnd mark rest →
      ¬ InsideLineEnd mark rest → SquareOffence .squareZero (line ++ mark) rest
  | tooLarge {line mark rest : List Char} {width height : Nat} :
      SquareLine line width height → ¬ (width = 0 ∨ height = 0) → 255 < width ∨ 255 < height →
      SentenceEnd mark rest → ¬ InsideLineEnd mark rest →
      SquareOffence .squareTooLarge (line ++ mark) rest

inductive NameOffence : Violation → List Char → List Char → Prop where
  | tooLong {name mark rest : List Char} :
      (∀ c ∈ name, NameChar c) → 255 < name.length → SentenceEnd mark rest →
      ¬ InsideLineEnd mark rest → NameOffence .nameTooLong (name ++ mark) rest

/-- The numbers of a landing are looked at before its end, so nothing is asked of the text behind a
landing that is too large. -/
inductive InstructionOffence : Violation → List Char → List Char → Prop where
  | landingTooLarge {line : List Char} {x y : Nat} (rest : List Char) :
      LandingLine line x y → 255 < x ∨ 255 < y → InstructionOffence .landingTooLarge line rest
  | landingParameters {line : List Char} {x y : Nat} {c : Char} (rest : List Char) :
      LandingLine line x y → x ≤ 255 → y ≤ 255 → c ∉ lineEndChars →
      InstructionOffence .landingParameters line (c :: rest)
  | headingParameters {spaces : List Char} {commands : List Command} {c : Char}
      (rest : List Char) :
      Spaces spaces → commands ≠ [] → Command.ofLetter? c = none → c ∉ lineEndChars →
      InstructionOffence .headingParameters
        ("Rotate".toList ++ spaces ++ commands.map Command.letter) (c :: rest)

end ScentedGrid.Grammar

namespace ScentedGrid.Source

open Grammar

/-! ## Squares -/

theorem square_line {line mark rest : List Char} {width height : Nat}
    (spelled : SquareLine line width height) (ending : SentenceEnd mark rest) :
    square (line ++ mark ++ rest) =
      if width = 0 ∨ height = 0 then
        .error ⟨.squareZero, line ++ mark ++ rest, following mark rest⟩
      else if width ≤ 255 ∧ height ≤ 255 then
        .ok (some (⟨UInt8.ofNat width, UInt8.ofNat height⟩, following mark rest))
      else .error ⟨.squareTooLarge, line ++ mark ++ rest, following mark rest⟩ := by
  obtain ⟨spaced, wide, spaced', high⟩ := spelled
  have above := byte_below_ceiling
  have zero : (min width ceiling = 0 ∨ min height ceiling = 0) ↔ (width = 0 ∨ height = 0) := by
    omega
  have small : (min width ceiling ≤ 255 ∧ min height ceiling ≤ 255) ↔
      (width ≤ 255 ∧ height ≤ 255) := by omega
  rw [square, squareShape_read spaced wide spaced' high ending]
  simp only [zero, small]
  split
  · rfl
  · split
    · next sides =>
      rw [min_eq_left (by omega), min_eq_left (by omega)]
    · rfl

theorem square_of_refused {text : List Char} {refusal : Refusal}
    (read : square text = .error refusal) :
    ∃ rule sentence rest, SquareOffence rule sentence rest ∧ text = sentence ++ rest ∧
      refusal = ⟨rule, text, rest⟩ := by
  cases shape : squareShape? text with
  | none =>
    rw [square, shape] at read
    cases read
  | some found =>
    obtain ⟨⟨width, height⟩, rest⟩ := found
    obtain ⟨spaces, first, between, second, mark, exactWidth, exactHeight, spaced, wide, spaced',
      high, ending, _, _, same⟩ := squareShape_of_read shape
    have line := SquareLine.mk spaced wide spaced' high
    have kept : following mark rest = rest := by
      rw [same, squareShape_read spaced wide spaced' high ending] at shape
      exact congrArg Prod.snd (Option.some.inj shape)
    have apart := apart_of_following kept
    rw [same, square_line line ending, kept] at read
    rw [same]
    split at read
    · next zero =>
      cases read
      exact ⟨_, _, rest, .zero line zero ending apart, rfl, rfl⟩
    · next positive =>
      split at read
      · cases read
      · next large =>
        cases read
        exact ⟨_, _, rest, .tooLarge line positive (by omega) ending apart, rfl, rfl⟩

theorem square_of_offence {rule : Violation} {sentence rest : List Char}
    (offence : SquareOffence rule sentence rest) :
    square (sentence ++ rest) = .error ⟨rule, sentence ++ rest, rest⟩ := by
  cases offence with
  | zero line zero ending apart =>
    rw [square_line line ending, if_pos zero, following_apart apart]
  | tooLarge line positive large ending apart =>
    rw [square_line line ending, if_neg positive, if_neg (by omega), following_apart apart]

/-! ## Instructions -/

theorem sentenceEnd_eq_none_iff (text : List Char) :
    sentenceEnd? text = none ↔ ∃ c rest, text = c :: rest ∧ c ∉ lineEndChars := by
  constructor
  · intro read
    cases text with
    | nil => cases read
    | cons c rest =>
      refine ⟨c, rest, rfl, fun member => ?_⟩
      simp only [lineEndChars, List.mem_cons, List.not_mem_nil, or_false] at member
      rcases member with rfl | rfl | rfl | rfl
      · cases read
      · have ending : SentenceEnd ['\r'] rest := .line rest .carriageReturn
        cases read.symm.trans (sentenceEnd_read ending)
      · cases read
      · cases read
  · rintro ⟨c, rest, rfl, inner⟩
    exact lineEnd_none inner rest

theorem landing_spelled {spaces first second : List Char} {x y : Nat} (spaced : Spaces spaces)
    (numeral : Numeral first x) (numeral' : Numeral second y) (facing : Direction)
    (rest : List Char) :
    landing ("Move".toList ++ spaces ++ first ++ [' '] ++ second ++ [' ', facing.letter] ++ rest) =
      if x ≤ 255 ∧ y ≤ 255 then
        match sentenceEnd? rest with
        | some after => .ok (some (.landing (UInt8.ofNat x) (UInt8.ofNat y) facing, after))
        | none => .error ⟨.landingParameters,
            "Move".toList ++ spaces ++ first ++ [' '] ++ second ++ [' ', facing.letter] ++ rest,
            rest⟩
      else .error ⟨.landingTooLarge,
        "Move".toList ++ spaces ++ first ++ [' '] ++ second ++ [' ', facing.letter] ++ rest,
        rest⟩ := by
  have above := byte_below_ceiling
  have small : (min x ceiling ≤ 255 ∧ min y ceiling ≤ 255) ↔ (x ≤ 255 ∧ y ≤ 255) := by omega
  rw [landing, landingShape_read spaced numeral numeral' facing rest]
  simp only [small]
  split
  · next bytes =>
    rewrite [min_eq_left (by omega), min_eq_left (by omega)]
    rfl
  · rfl

theorem landing_line {line : List Char} {x y : Nat} (spelled : LandingLine line x y)
    (rest : List Char) :
    ∃ facing, landing (line ++ rest) =
      if x ≤ 255 ∧ y ≤ 255 then
        match sentenceEnd? rest with
        | some after => .ok (some (.landing (UInt8.ofNat x) (UInt8.ofNat y) facing, after))
        | none => .error ⟨.landingParameters, line ++ rest, rest⟩
      else .error ⟨.landingTooLarge, line ++ rest, rest⟩ := by
  obtain ⟨facing, spaced, numeral, numeral'⟩ := spelled
  exact ⟨facing, landing_spelled spaced numeral numeral' facing rest⟩

theorem heading_line {spaces rest : List Char} {commands : List Command} (spaced : Spaces spaces)
    (filled : commands ≠ []) (stops : Stops (fun c => (Command.ofLetter? c).isSome) rest) :
    heading ("Rotate".toList ++ spaces ++ commands.map Command.letter ++ rest) =
      match sentenceEnd? rest with
      | some after => .ok (some (.heading commands, after))
      | none => .error ⟨.headingParameters,
          "Rotate".toList ++ spaces ++ commands.map Command.letter ++ rest, rest⟩ := by
  rewrite [heading, headingShape_read spaced filled stops]
  rfl

theorem landing_of_refused {text : List Char} {refusal : Refusal}
    (read : landing text = .error refusal) :
    ∃ rule sentence rest, InstructionOffence rule sentence rest ∧ text = sentence ++ rest ∧
      refusal = ⟨rule, text, rest⟩ := by
  cases shape : landingShape? text with
  | none =>
    rw [landing, shape] at read
    cases read
  | some found =>
    obtain ⟨⟨x, y, facing⟩, rest⟩ := found
    obtain ⟨spaces, first, second, exactX, exactY, spaced, numeral, numeral', _, _, same⟩ :=
      landingShape_of_read shape
    have line := LandingLine.mk facing spaced numeral numeral'
    obtain ⟨_, answer⟩ := landing_line line rest
    rw [same, answer] at read
    rw [same]
    split at read
    · next small =>
      split at read
      · cases read
      · next ending =>
        cases read
        obtain ⟨c, after, rfl, inner⟩ := (sentenceEnd_eq_none_iff rest).1 ending
        exact ⟨_, _, _, .landingParameters after line small.1 small.2 inner, rfl, rfl⟩
    · next large =>
      cases read
      exact ⟨_, _, rest, .landingTooLarge rest line (by omega), rfl, rfl⟩

theorem headingShape_stops {text rest : List Char} {commands : List Command}
    (read : headingShape? text = some (commands, rest)) :
    ∀ c ∈ rest.head?, Command.ofLetter? c = none := by
  simp only [headingShape?, bind, Option.bind_eq_some_iff, pure, Option.ite_none_left_eq_some,
    Option.some.injEq, Prod.mk.injEq] at read
  obtain ⟨_, _, _, _, _, _, rfl⟩ := read
  intro c first
  exact Option.isSome_eq_false_iff.1 (stops_dropWhile _ c first) |> Option.isNone_iff_eq_none.1

theorem heading_of_refused {text : List Char} {refusal : Refusal}
    (read : heading text = .error refusal) :
    ∃ rule sentence rest, InstructionOffence rule sentence rest ∧ text = sentence ++ rest ∧
      refusal = ⟨rule, text, rest⟩ := by
  unfold heading at read
  split at read
  · cases read
  · next commands rest shape =>
    obtain ⟨spaces, spaced, filled, same⟩ := headingShape_of_read shape
    split at read
    · cases read
    · next ending =>
      cases read
      obtain ⟨c, after, rfl, inner⟩ := (sentenceEnd_eq_none_iff rest).1 ending
      have letter := headingShape_stops shape c rfl
      exact ⟨_, _, _, .headingParameters after spaced filled letter inner, same, rfl⟩

theorem instruction_of_refused {text : List Char} {refusal : Refusal}
    (read : instruction text = .error refusal) :
    ∃ rule sentence rest, InstructionOffence rule sentence rest ∧
      skipBlanks text = sentence ++ rest ∧ refusal = ⟨rule, skipBlanks text, rest⟩ := by
  unfold instruction at read
  split at read
  · exact heading_of_refused read
  · exact landing_of_refused read

theorem instruction_of_offence {rule : Violation} {text sentence rest : List Char}
    (offence : InstructionOffence rule sentence rest) (start : skipBlanks text = sentence ++ rest) :
    instruction text = .error ⟨rule, sentence ++ rest, rest⟩ := by
  cases offence with
  | landingTooLarge rest line large =>
    obtain ⟨_, answer⟩ := landing_line line rest
    rw [instruction, start, answer, if_neg (by omega)]
  | @landingParameters _ _ _ c rest line small small' inner =>
    obtain ⟨_, answer⟩ := landing_line line (c :: rest)
    have ending := (sentenceEnd_eq_none_iff (c :: rest)).2 ⟨c, rest, rfl, inner⟩
    rw [instruction, start, answer, if_pos ⟨small, small'⟩, ending]
  | @headingParameters spaces commands c rest spaced filled letter inner =>
    have stops : Stops (fun c => (Command.ofLetter? c).isSome) (c :: rest) :=
      stops_cons (by rw [letter]; rfl)
    have ending := (sentenceEnd_eq_none_iff (c :: rest)).2 ⟨c, rest, rfl, inner⟩
    have other (rest : List Char) : landing ("Rotate".toList ++ rest) = .ok none := rfl
    have answer := heading_line spaced filled stops
    rw [instruction, start]
    simp only [List.append_assoc] at answer ⊢
    rw [other]
    simp only [answer, ending]

/-! ## Names -/

theorem robot_of_offence {rule : Violation} {sentence rest : List Char}
    (offence : NameOffence rule sentence rest) :
    robot (sentence ++ rest) = .error ⟨rule, sentence ++ rest, rest⟩ := by
  obtain ⟨spelled, long, ending, apart⟩ := offence
  have filled : _ ≠ [] := List.length_pos_iff.1 (Nat.lt_trans (by decide) long)
  rw [robot_letters filled spelled ending, if_pos long, following_apart apart]

theorem robot_of_refused {text : List Char} {refusal : Refusal}
    (read : robot text = .error refusal) :
    (∃ rule sentence rest, NameOffence rule sentence rest ∧ text = sentence ++ rest ∧
      refusal = ⟨rule, text, rest⟩) ∨
    ∃ name mark body, Name name ∧ SentenceEnd mark body ∧ text = name ++ mark ++ body ∧
      instructions body = .error refusal := by
  have named : robot text ≠ .ok none := fun none => by cases read.symm.trans none
  obtain ⟨name, mark, body, rfl, filled, spelled, ending, apart⟩ := robot_of_letters named
  rw [robot_letters filled spelled ending, following_apart apart] at read
  split at read
  · next long =>
    cases read
    exact .inl ⟨_, _, body, .tooLong spelled long ending apart, rfl, rfl⟩
  · next short =>
    refine .inr ⟨name, mark, body, ⟨filled, spelled, Nat.le_of_not_lt short⟩, ending, rfl, ?_⟩
    cases inside : instructions body with
    | error refusal' =>
      rw [inside] at read
      cases read
      rfl
    | ok found =>
      rw [inside] at read
      cases read

end ScentedGrid.Source
