import ScentedGrid.Proofs.Source.Stages

/-! How far a text is read. Behind the line of the square the reader passes whole robots and lines
of blanks for as long as there are any. So it comes as far as robots and such lines can be spelled,
or to a robot that breaks a rule. -/

namespace ScentedGrid.Grammar

/-- The line of a square without its end, whatever numbers stand on it. -/
inductive SquareLine : List Char → Nat → Nat → Prop where
  | mk {spaces first between second : List Char} {width height : Nat} :
      Spaces spaces → Numeral first width → Spaces between → Numeral second height →
      SquareLine ("Square".toList ++ spaces ++ first ++ between ++ second) width height

/-- A text that opens with the line of a square, and the text behind that line. -/
inductive Opening (width height : Nat) : List Char → List Char → Prop where
  | mk {blanks line mark rest : List Char} :
      Blanks blanks → SquareLine line width height → SentenceEnd mark rest →
      Opening width height (blanks ++ line ++ mark ++ rest) rest

/-- Whole robots, and lines of blanks that end with a separator, from a text to its rest. -/
inductive Passage : List Char → List Char → Prop where
  | nil (rest : List Char) : Passage rest rest
  | blankLine {blanks text rest : List Char} {separator : Char} :
      Blanks blanks → separator = '\u2028' ∨ separator = '\u2029' → Passage text rest →
      Passage (blanks ++ separator :: text) rest
  | block {blanks text after rest : List Char} {robot : Robot} :
      Blanks blanks → Block text robot after → Passage after rest → Passage (blanks ++ text) rest

/-- The line of a square and a passage behind it lead from a text to its rest. -/
def Leads (width height : Nat) (text rest : List Char) : Prop :=
  ∃ body, Opening width height text body ∧ Passage body rest

end ScentedGrid.Grammar

namespace ScentedGrid.Source

open Grammar

/-! ## Ends of a text -/

theorem Past.length_le {rest after : List Char} (past : Past rest after) :
    after.length ≤ rest.length := by
  rcases past with rfl | rfl
  · exact Nat.le_refl _
  · exact Nat.le_succ _

/-- A refusal is that of one robot, and everything before it is passed. -/
theorem passage_of_refused {text : List Char} {frontier : Frontier} {refusal : Refusal}
    (read : robots text frontier = .error refusal) :
    ∃ rest, Passage text rest ∧ robot (skipBlanks rest) = .error refusal := by
  fun_induction robots text frontier with
  | case1 text frontier rest line ih =>
    obtain ⟨blanks, separator, blank, separates, same⟩ := blankLine_of_read line
    obtain ⟨stop, passage, refused⟩ := ih read
    rw [same]
    exact ⟨stop, .blankLine blank separates passage, refused⟩
  | case2 text _ _ _ _ refused =>
    cases read
    exact ⟨text, .nil text, refused⟩
  | case3 => cases read
  | case4 text _ _ _ _ first rest head _ refused ih =>
    cases read
    obtain ⟨blanks, blank, same⟩ := blanks_of_skipBlanks text
    obtain ⟨stop, passage, refusing⟩ := ih refused
    have longer := Passage.block blank (block_of_read head) passage
    rw [← same] at longer
    exact ⟨stop, longer, refusing⟩
  | case5 => cases read

theorem instructions_of_refused {text : List Char} {refusal : Refusal}
    (read : instructions text = .error refusal) :
    ∃ found rest, Instructions text found rest ∧ instruction rest = .error refusal := by
  fun_induction instructions text with
  | case1 text _ refused =>
    cases read
    exact ⟨[], text, .nil text, refused⟩
  | case2 => cases read
  | case3 text first after step _ refused ih =>
    cases read
    obtain ⟨blanks, sentence, mark, blank, spelled, ending, same⟩ := instruction_of_read step
    obtain ⟨more, rest, others, refusing⟩ := ih refused
    rw [same]
    exact ⟨first :: more, rest, .cons blank spelled ending others, refusing⟩
  | case4 => cases read

/-! ## Where a robot can begin -/

theorem apart_of_following {before rest : List Char} (kept : following before rest = rest) :
    ¬ InsideLineEnd before rest := by
  intro inside
  rw [following, if_pos inside] at kept
  have shorter := congrArg List.length kept
  have filled : rest ≠ [] := by
    rintro rfl
    cases inside.2
  have size := List.length_pos_iff.2 filled
  rw [List.length_tail] at shorter
  omega

/-- What was read as the end of a sentence is the whole of it. -/
theorem sentenceEnd_whole {text rest : List Char} (read : sentenceEnd? text = some rest) :
    ∃ mark, SentenceEnd mark rest ∧ ¬ InsideLineEnd mark rest ∧ text = mark ++ rest := by
  obtain ⟨mark, ending, rfl⟩ := sentenceEnd_of_read read
  rw [sentenceEnd_read ending] at read
  exact ⟨mark, ending, apart_of_following (Option.some.inj read), rfl⟩

theorem robot_of_letters {text : List Char} (read : robot text ≠ .ok none) :
    ∃ name mark body, text = name ++ mark ++ body ∧ name ≠ [] ∧ (∀ c ∈ name, NameChar c) ∧
      SentenceEnd mark body ∧ ¬ InsideLineEnd mark body := by
  unfold robot at read
  simp only at read
  split at read
  · exact absurd rfl read
  · next filled =>
    split at read
    · exact absurd rfl read
    · next body ending =>
      obtain ⟨mark, sentenceEnd, apart, same⟩ := sentenceEnd_whole ending
      refine ⟨text.takeWhile isNameChar, mark, body, ?_, ?_, ?_, sentenceEnd, apart⟩
      · rw [List.append_assoc, ← same, List.takeWhile_append_dropWhile]
      · intro empty
        exact filled (List.isEmpty_iff.2 empty)
      · intro c member
        exact (isNameChar_iff c).1 (List.mem_takeWhile_imp member)

theorem robot_opening {text : List Char} (read : robot text ≠ .ok none) :
    skipBlanks text = text ∧ lineEnd? text = none ∧ Unspaced text := by
  obtain ⟨name, mark, body, rfl, filled, spelled, ending, _⟩ := robot_of_letters read
  exact letters_opening filled spelled ending

/-- No instruction stands where a passage begins that goes on. -/
theorem passage_unspaced {text rest : List Char} (passage : Passage text rest)
    (last : Unspaced (skipBlanks rest)) : Unspaced (skipBlanks text) := by
  cases passage with
  | nil => exact last
  | blankLine blank separates => exact gap_unspaced blank separates _
  | block indent block =>
    obtain ⟨opening, _, unspaced⟩ := block_opening block
    rwa [skipBlanks_append indent, opening]

theorem robots_error {text : List Char} {refusal : Refusal} (line : blankLine? text = none)
    (read : robot (skipBlanks text) = .error refusal) (frontier : Frontier) :
    robots text frontier = .error refusal := by
  rw [robots]
  split
  · next other => cases line.symm.trans other
  · simp only
    split
    · next other => cases read.symm.trans other; rfl
    · next other => cases read.symm.trans other
    · next other => cases read.symm.trans other

theorem instructions_refused {text rest : List Char} {found : List Instruction}
    {refusal : Refusal} (spelled : Instructions text found rest)
    (refused : instruction rest = .error refusal) {start : List Char} (past : Past text start) :
    instructions start = .error refusal := by
  induction spelled generalizing start with
  | nil rest =>
    rw [← instruction_congr past.skipBlanks_eq] at refused
    exact instructions_error refused
  | @cons blanks sentence mark after rest first more blank spelled ending _ ih =>
    have opening : skipBlanks start = sentence ++ mark ++ after := by
      rw [past.skipBlanks_eq, sentence_start blank spelled]
    rw [instructions_cons (instruction_read spelled ending opening),
      ih refused (past_following mark after)]
    rfl

theorem robots_refused {text rest : List Char} {refusal : Refusal} (passage : Passage text rest)
    (refused : robot (skipBlanks rest) = .error refusal) {start : List Char}
    (past : Past text start) (frontier : Frontier) : robots start frontier = .error refusal := by
  have named : robot (skipBlanks rest) ≠ .ok none := fun none => by cases refused.symm.trans none
  induction passage generalizing start frontier with
  | nil rest =>
    obtain ⟨_, inner, _⟩ := robot_opening named
    have line : blankLine? start = none := by
      rw [blankLine?, past.skipBlanks_eq]
      exact inner
    rw [← past.skipBlanks_eq] at refused
    exact robots_error line refused frontier
  | @blankLine blanks text rest separator blank separates _ ih =>
    have line : blankLine? start = some text := by
      rw [blankLine?, past.skipBlanks_eq, ← blankLine?]
      exact blankLine_read blank separates text
    rw [robots_blankLine line]
    exact ih refused (.inl rfl) frontier named
  | @block blanks text after rest robot blank block passage ih =>
    obtain ⟨opening, inner, _⟩ := block_opening block
    obtain ⟨_, _, unspaced⟩ := robot_opening named
    have skipped : skipBlanks start = text := by
      rw [past.skipBlanks_eq, skipBlanks_append blank, opening]
    have line : blankLine? start = none := by
      rw [blankLine?, skipped]
      exact inner
    obtain ⟨stop, read, past'⟩ :=
      block_read block (instruction_unspaced (passage_unspaced passage unspaced))
    rw [← skipped] at read
    rw [robots_cons line read, ih refused past' _ named]
    rfl

end ScentedGrid.Source
