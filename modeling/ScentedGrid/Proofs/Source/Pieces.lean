import ScentedGrid.Proofs.Run
import ScentedGrid.Proofs.Source.Grammar
import ScentedGrid.Source.Terminal
import Mathlib.Data.List.TakeWhile

/-! The smallest readers against the grammar, each in both directions: what it reads is a piece
of the grammar, and such a piece is read where nothing goes on from it. -/

namespace ScentedGrid.Source

open Grammar

/-! ## Blanks and spaces -/

theorem isBlank_iff (c : Char) :
    isBlank c = true ↔ c = ' ' ∨ c = '\t' ∨ c = '\r' ∨ c = '\n' := by
  simp only [isBlank, Bool.or_eq_true, beq_iff_eq, or_assoc]

theorem blanks_iff (text : List Char) : Blanks text ↔ ∀ c ∈ text, isBlank c = true :=
  forall₂_congr fun c _ => (isBlank_iff c).symm

theorem blanks_of_skipBlanks (text : List Char) :
    ∃ blanks, Blanks blanks ∧ text = blanks ++ skipBlanks text := by
  refine ⟨text.takeWhile isBlank, (blanks_iff _).2 fun c member => ?_, ?_⟩
  · exact List.mem_takeWhile_imp member
  · exact List.takeWhile_append_dropWhile.symm

theorem skipBlanks_append {blanks : List Char} (blank : Blanks blanks) (rest : List Char) :
    skipBlanks (blanks ++ rest) = skipBlanks rest :=
  List.dropWhile_append_of_pos ((blanks_iff _).1 blank)

theorem skipBlanks_cons {c : Char} (solid : isBlank c = false) (rest : List Char) :
    skipBlanks (c :: rest) = c :: rest :=
  (stops_cons solid).dropWhile_eq_self

theorem spaces_of_read {text rest : List Char} (read : spaces? text = some rest) :
    ∃ spaces, Spaces spaces ∧ text = spaces ++ rest := by
  unfold spaces? at read
  split at read
  · next more =>
    cases read
    refine ⟨' ' :: more.takeWhile (· == ' '), ⟨List.cons_ne_nil _ _, ?_⟩, ?_⟩
    · intro c member
      rcases List.mem_cons.1 member with rfl | inside
      · rfl
      · have space := List.mem_takeWhile_imp inside
        exact beq_iff_eq.1 space
    · rw [List.cons_append, List.takeWhile_append_dropWhile]
  · cases read

theorem spaces_read {spaces rest : List Char} (spaced : Spaces spaces)
    (stops : Stops (· == ' ') rest) : spaces? (spaces ++ rest) = some rest := by
  obtain ⟨filled, all⟩ := spaced
  cases spaces with
  | nil => exact absurd rfl filled
  | cons c more =>
    have first : c = ' ' := all c List.mem_cons_self
    have others : ∀ d ∈ more, (d == ' ') = true :=
      fun d member => beq_iff_eq.2 (all d (List.mem_cons_of_mem c member))
    rw [first, List.cons_append, spaces?, dropWhile_run others stops]

/-! ## Words and letters -/

theorem word_read (word rest : List Char) : word? word (word ++ rest) = some rest := by
  induction word with
  | nil => rfl
  | cons letter word ih => rw [List.cons_append, word?, if_pos rfl, ih]

theorem direction_of_read {text rest : List Char} {facing : Direction}
    (read : direction? text = some (facing, rest)) : text = facing.letter :: rest := by
  cases text with
  | nil => cases read
  | cons c more =>
    obtain ⟨found, letter, same⟩ := Option.map_eq_some_iff.1 read
    cases same
    rw [Direction.letter_of_ofLetter letter]

theorem direction_read (facing : Direction) (rest : List Char) :
    direction? (facing.letter :: rest) = some (facing, rest) := by
  rw [direction?, Direction.ofLetter_letter]
  rfl

theorem commandRun_append (text : List Char) :
    (commandRun text).1.map Command.letter ++ (commandRun text).2 = text := by
  have letters : ∀ c ∈ text.takeWhile fun c => (Command.ofLetter? c).isSome,
      (Command.ofLetter? c).isSome = true := by
    intro c member
    have letter := List.mem_takeWhile_imp member
    exact letter
  have written := written_filterMap (fun _ _ read => Command.letter_of_ofLetter read) letters
  rw [commandRun, written, List.takeWhile_append_dropWhile]

theorem commandRun_read (commands : List Command) {rest : List Char}
    (stops : Stops (fun c => (Command.ofLetter? c).isSome) rest) :
    commandRun (commands.map Command.letter ++ rest) = (commands, rest) := by
  have letters : ∀ c ∈ commands.map Command.letter, (Command.ofLetter? c).isSome = true := by
    intro c member
    obtain ⟨command, _, rfl⟩ := List.mem_map.1 member
    rw [Command.ofLetter_letter]
    rfl
  have read := filterMap_written Command.ofLetter_letter commands
  rw [commandRun, takeWhile_run letters stops, dropWhile_run letters stops, read]

/-! ## Numerals -/

theorem isDigit_iff (c : Char) : c.isDigit = true ↔ '0' ≤ c ∧ c ≤ '9' := by
  simp only [Char.isDigit, Bool.and_eq_true, decide_eq_true_eq, ge_iff_le, Char.le_def]

/-- A value held at the ceiling stays there, so digit by digit the two values differ in nothing
but the ceiling. -/
theorem foldl_saturatingDigit (digits : List Char) (value : Nat) :
    digits.foldl saturatingDigit (min value ceiling) =
      min (digits.foldl (fun value c => 10 * value + (c.toNat - '0'.toNat)) value) ceiling := by
  induction digits generalizing value with
  | nil => rfl
  | cons c rest ih =>
    have step : saturatingDigit (min value ceiling) c =
        min (10 * value + (c.toNat - '0'.toNat)) ceiling := by
      simp only [saturatingDigit, digitValue]
      omega
    rw [List.foldl_cons, List.foldl_cons, step, ih]

theorem numeralValue_eq (digits : List Char) :
    numeralValue digits = min (decimalValue digits) ceiling :=
  foldl_saturatingDigit digits 0

theorem numeral_of_read {text rest : List Char} {value : Nat}
    (read : numeral? text = some (value, rest)) :
    ∃ digits exact, Numeral digits exact ∧ value = min exact ceiling ∧ text = digits ++ rest := by
  unfold numeral? at read
  split at read
  · cases read
  · next filled =>
    cases read
    refine ⟨text.takeWhile Char.isDigit, _, ⟨?_, ?_, rfl⟩, numeralValue_eq _, ?_⟩
    · intro empty
      exact filled (List.isEmpty_iff.2 empty)
    · intro c member
      exact (isDigit_iff c).1 (List.mem_takeWhile_imp member)
    · exact List.takeWhile_append_dropWhile.symm

theorem numeral_read {digits rest : List Char} {exact : Nat} (numeral : Numeral digits exact)
    (stops : Stops Char.isDigit rest) :
    numeral? (digits ++ rest) = some (min exact ceiling, rest) := by
  have inside : ∀ c ∈ digits, c.isDigit = true :=
    fun c member => (isDigit_iff c).2 (numeral.digits c member)
  have filled : ¬ digits.isEmpty = true := fun empty => numeral.filled (List.isEmpty_iff.1 empty)
  rw [numeral?, takeWhile_run inside stops, dropWhile_run inside stops, if_neg filled,
    numeralValue_eq, numeral.exact]

/-! ## Ends of lines and sentences -/

/-- The characters that an end of a line begins with. -/
def lineEndChars : List Char := ['\n', '\r', '\u2028', '\u2029']

theorem sentenceEnd_stops {mark rest : List Char} (ending : SentenceEnd mark rest)
    {inside : Char → Bool} (outside : lineEndChars.any inside = false) :
    Stops inside (mark ++ rest) := by
  have stops {c : Char} (member : c ∈ lineEndChars) (more : List Char) : Stops inside (c :: more) :=
    stops_cons (Bool.eq_false_iff.2 (List.any_eq_false.1 outside c member))
  cases ending with
  | text => exact stops_nil
  | line _ line =>
    cases line with
    | lineFeed => exact stops (by decide) _
    | returnAndFeed => exact stops (by decide) _
    | carriageReturn => exact stops (by decide) _
    | lineSeparator => exact stops (by decide) _
    | paragraphSeparator => exact stops (by decide) _

theorem lineEnd_of_read {text rest : List Char} (read : lineEnd? text = some rest) :
    ∃ mark, LineEnd mark ∧ text = mark ++ rest := by
  unfold lineEnd? at read
  split at read
  · cases read
    exact ⟨_, .lineFeed, rfl⟩
  · cases read
    exact ⟨_, .returnAndFeed, rfl⟩
  · cases read
    exact ⟨_, .carriageReturn, rfl⟩
  · cases read
    exact ⟨_, .lineSeparator, rfl⟩
  · cases read
    exact ⟨_, .paragraphSeparator, rfl⟩
  · cases read

theorem sentenceEnd_of_read {text rest : List Char} (read : sentenceEnd? text = some rest) :
    ∃ mark, SentenceEnd mark rest ∧ text = mark ++ rest := by
  unfold sentenceEnd? at read
  split at read
  · cases read
    exact ⟨_, .text, rfl⟩
  · obtain ⟨mark, line, same⟩ := lineEnd_of_read read
    exact ⟨mark, .line rest line, same⟩

/-- `after` is `rest`, or `rest` without a line feed that went with a carriage return. -/
def Past (rest after : List Char) : Prop := after = rest ∨ rest = '\n' :: after

theorem Past.skipBlanks_eq {rest after : List Char} (past : Past rest after) :
    skipBlanks after = skipBlanks rest := by
  rcases past with rfl | rfl
  · rfl
  · rfl

/-- What is left of `rest` after a line end: a carriage return takes a line feed with it. -/
def following (before rest : List Char) : List Char :=
  if InsideLineEnd before rest then rest.tail else rest

theorem past_following (before rest : List Char) : Past rest (following before rest) := by
  unfold following
  split
  · next joined =>
    cases rest with
    | nil => cases joined.2
    | cons c rest =>
      cases joined.2
      exact .inr rfl
  · exact .inl rfl

theorem lineEnd_filled {mark : List Char} (line : LineEnd mark) : mark ≠ [] := by
  cases line <;> exact List.cons_ne_nil _ _

theorem following_append {mark : List Char} (line : LineEnd mark) (before rest : List Char) :
    following (before ++ mark) rest = following mark rest := by
  have last : (before ++ mark).getLast? = mark.getLast? := by
    rw [List.getLast?_append, List.getLast?_eq_some_getLast (lineEnd_filled line), Option.some_or]
  have same : InsideLineEnd (before ++ mark) rest ↔ InsideLineEnd mark rest := by
    rw [InsideLineEnd, InsideLineEnd, last]
  simp only [following, same]

theorem lineEnd_read {mark : List Char} (line : LineEnd mark) (rest : List Char) :
    lineEnd? (mark ++ rest) = some (following mark rest) := by
  cases line with
  | lineFeed => rfl
  | returnAndFeed => rfl
  | carriageReturn =>
    by_cases feed : ∃ after, rest = '\n' :: after
    · obtain ⟨after, rfl⟩ := feed
      rfl
    · have apart : rest.head? ≠ some '\n' := by
        intro first
        obtain ⟨after, same⟩ := List.head?_eq_some_iff.1 first
        exact feed ⟨after, same⟩
      rw [following, if_neg fun joined => apart joined.2, List.singleton_append, lineEnd?]
      intro after same
      exact feed ⟨after, same⟩
  | lineSeparator => rfl
  | paragraphSeparator => rfl

theorem sentenceEnd_read {mark rest : List Char} (ending : SentenceEnd mark rest) :
    sentenceEnd? (mark ++ rest) = some (following mark rest) := by
  cases ending with
  | text => rfl
  | line _ line =>
    rw [← lineEnd_read line rest]
    cases line <;> rfl

/-! ## Blank lines -/

theorem blankLine_of_read {text rest : List Char} (read : blankLine? text = some rest) :
    ∃ blanks separator, Blanks blanks ∧ (separator = '\u2028' ∨ separator = '\u2029') ∧
      text = blanks ++ separator :: rest := by
  obtain ⟨blanks, blank, same⟩ := blanks_of_skipBlanks text
  have solid : Stops isBlank (skipBlanks text) := stops_dropWhile text
  rw [blankLine?] at read
  obtain ⟨mark, line, next⟩ := lineEnd_of_read read
  rw [next] at same solid
  cases line with
  | lineFeed => exact absurd (solid '\n' rfl) (by decide)
  | returnAndFeed => exact absurd (solid '\r' rfl) (by decide)
  | carriageReturn => exact absurd (solid '\r' rfl) (by decide)
  | lineSeparator => exact ⟨blanks, _, blank, .inl rfl, same⟩
  | paragraphSeparator => exact ⟨blanks, _, blank, .inr rfl, same⟩

theorem blankLine_read {blanks : List Char} (blank : Blanks blanks) {separator : Char}
    (separates : separator = '\u2028' ∨ separator = '\u2029') (rest : List Char) :
    blankLine? (blanks ++ separator :: rest) = some rest := by
  rw [blankLine?, skipBlanks_append blank]
  rcases separates with rfl | rfl
  · rfl
  · rfl

end ScentedGrid.Source
