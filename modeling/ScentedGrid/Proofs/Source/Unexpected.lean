import ScentedGrid.Proofs.Location
import ScentedGrid.Proofs.Source.Passage

/-! Texts with something unexpected in them. The error shows the place that reading came to,
whatever failed before it on the way, and says what could have stood there. -/

namespace ScentedGrid

open Text

/-- What a message says to have been found. -/
def Source.standing : Option Char → String
  | some c => "\"" ++ shown c ++ "\""
  | none => "end of input"

/-- The error shows the one character at the start of `rest`, or the end of the text if there is
none, and says what could have stood there instead. -/
structure SourceError.Blames (error : SourceError) (before rest : List Char) (expected : String) :
    Prop where
  text : error.cause.text =
    "Expected " ++ expected ++ " but " ++ Source.standing rest.head? ++ " found."
  start : error.start = .ofOffset (before ++ rest) (byteLength before)
  stop : error.stop = .ofOffset (before ++ rest) (byteLength (before ++ rest.take 1))

theorem Source.unexpected_text (expected : List Expectation) (found : Option Char) :
    (Cause.unexpected expected found).text =
      "Expected " ++ alternatives (expected.map Expectation.text) ++ " but " ++ standing found ++
        " found." := by
  cases found <;> rfl

namespace Source

open Grammar

/-! ## The furthest failure -/

theorem note_further {frontier : Frontier} {rest : List Char}
    (further : rest.length < frontier.rest.length) (missing : Expectation) :
    frontier.note rest missing = ⟨rest, [missing]⟩ := by
  rw [Frontier.note, if_neg (Nat.not_lt_of_lt further), if_pos further]

theorem note_again (rest : List Char) (expected : List Expectation) (missing : Expectation) :
    Frontier.note ⟨rest, expected⟩ rest missing = ⟨rest, missing :: expected⟩ := by
  rw [Frontier.note, if_neg (Nat.lt_irrefl _), if_neg (Nat.lt_irrefl _)]

theorem note_behind {frontier : Frontier} {rest : List Char}
    (behind : frontier.rest.length < rest.length) (missing : Expectation) :
    frontier.note rest missing = frontier := if_pos behind

theorem shape_of_square {text : List Char} {found : Square} {rest : List Char}
    (read : square text = .ok (some (found, rest))) :
    ∃ sides, squareShape? text = some (sides, rest) := by
  unfold square at read
  split at read
  · cases read
  · next shape =>
    split at read
    · cases read
    · split at read
      · cases read
        exact ⟨_, shape⟩
      · cases read

theorem opening_of_square {text rest : List Char} {found : Square}
    (read : square (skipBlanks text) = .ok (some (found, rest))) :
    Opening found.width.toNat found.height.toNat text rest := by
  obtain ⟨blanks, blank, same⟩ := blanks_of_skipBlanks text
  obtain ⟨spaces, first, between, second, mark, spaced, wide, spaced', high, _, ending, line⟩ :=
    square_of_read read
  have opening := Opening.mk blank (.mk spaced wide spaced' high) ending
  rw [same, line]
  simpa only [List.append_assoc] using opening

end Source

open Source Grammar

end ScentedGrid
