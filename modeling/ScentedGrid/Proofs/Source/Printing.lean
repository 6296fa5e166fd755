import Mathlib.Data.List.Basic
import ScentedGrid.Proofs.Source.Acceptance

/-! Missions printed and read back. The text of a mission is one spelling of it, so what can be
said about printing follows from the grammar: every expressible mission on a square with positive
sides is read back, and no text at all spells another. -/

namespace ScentedGrid

open Text Grammar

/-! ## Decimal numbers -/

theorem digits_lt {base : Nat} (several : 2 ≤ base) (number : Nat) :
    ∀ digit ∈ digits base number, digit < base := by
  fun_induction digits base number with
  | case1 number small =>
    intro digit member
    rw [List.mem_singleton.1 member]
    omega
  | case2 number large ih =>
    intro digit member
    rcases List.mem_append.1 member with earlier | last
    · exact ih digit earlier
    · rw [List.mem_singleton.1 last]
      exact Nat.mod_lt _ (by omega)

theorem digits_value (base number : Nat) :
    (digits base number).foldl (fun value digit => base * value + digit) 0 = number := by
  fun_induction digits base number with
  | case1 number small => simp
  | case2 number large ih =>
    rw [List.foldl_append, ih]
    exact Nat.div_add_mod number base

theorem digitChar_toNat (ten : Char) {digit : Nat} (small : digit < 10) :
    (digitChar ten digit).toNat = '0'.toNat + digit := by
  rw [digitChar, if_pos small]
  apply toNat_ofNat_small
  change 48 + digit < 0xD800
  omega

theorem decimalValue_digits {row : List Nat} (small : ∀ digit ∈ row, digit < 10) (ten : Char) :
    decimalValue (row.map (digitChar ten)) =
      row.foldl (fun value digit => 10 * value + digit) 0 := by
  rw [decimalValue, List.foldl_map]
  apply List.foldl_ext
  intro value digit member
  rw [digitChar_toNat ten (small digit member), Nat.add_sub_cancel_left]

theorem decimal_numeral (number : Nat) : Numeral (decimal number).toList number := by
  have small : ∀ digit ∈ digits 10 number, digit < 10 := digits_lt (by decide) number
  rw [decimal, String.toList_ofList]
  refine ⟨?_, ?_, ?_⟩
  · intro empty
    exact digits_ne_nil 10 number (List.map_eq_nil_iff.1 empty)
  · intro c member
    obtain ⟨digit, among, rfl⟩ := List.mem_map.1 member
    have value := digitChar_toNat 'a' (small digit among)
    have bound := small digit among
    have zero : '0'.toNat = 48 := rfl
    have nine : '9'.toNat = 57 := rfl
    rw [Char.le_def, Char.le_def, UInt32.le_iff_toNat_le, UInt32.le_iff_toNat_le]
    change '0'.toNat ≤ (digitChar 'a' digit).toNat ∧ (digitChar 'a' digit).toNat ≤ '9'.toNat
    omega
  · rw [decimalValue_digits small, digits_value]

/-! ## Printing spells the mission -/

theorem empty_blanks : Blanks [] := by simp [Blanks]

theorem space_spaces : Spaces [' '] := ⟨by simp, by simp⟩

theorem lineFeed_end (rest : List Char) : SentenceEnd ['\n'] rest := .line rest .lineFeed

theorem instruction_source {instruction : Instruction} (commanding : instruction ≠ .heading []) :
    ∃ sentence, Sentence sentence instruction ∧
      instruction.source.toList = sentence ++ ['\n'] := by
  cases instruction with
  | landing x y facing =>
    refine ⟨_, .landing facing space_spaces (decimal_numeral _) (decimal_numeral _), ?_⟩
    simp [Instruction.source, List.append_assoc]
  | heading commands =>
    have filled : commands ≠ [] := by
      rintro rfl
      exact commanding rfl
    refine ⟨_, .heading space_spaces filled, ?_⟩
    simp [Instruction.source]

theorem instructions_source (instructions : List Instruction)
    (commanding : Instruction.heading [] ∉ instructions) (rest : List Char) :
    Instructions ((String.join (instructions.map Instruction.source)).toList ++ rest) instructions
      rest := by
  rw [String.toList_join, List.flatMap_map]
  induction instructions with
  | nil => exact .nil rest
  | cons first more ih =>
    rw [List.mem_cons, not_or] at commanding
    obtain ⟨sentence, spelled, same⟩ := instruction_source (Ne.symm commanding.1)
    have line := Instructions.cons empty_blanks spelled (lineFeed_end _) (ih commanding.2)
    rw [List.flatMap_cons, same]
    simpa only [List.nil_append, List.append_assoc] using line

theorem block_source {robot : Robot} (expressible : robot.Expressible) (rest : List Char) :
    Block (robot.source.toList ++ rest) robot rest := by
  have bytes := expressible.short
  rw [Utf8.encode, encodeChars_spelled expressible.spelled, List.length_map] at bytes
  have block := Block.mk ⟨expressible.named, expressible.spelled, bytes⟩ (lineFeed_end _)
    (instructions_source robot.instructions expressible.commanding rest)
  rw [String.ofList_toList] at block
  simpa [Robot.source, List.append_assoc] using block

theorem blocks_cons {blanks rest : List Char} {first : Robot} {more : List Robot}
    (blank : Blanks blanks) (expressible : first.Expressible) (others : Blocks rest more) :
    Blocks (blanks ++ first.source.toList ++ rest) (first :: more) := by
  have spelled := Blocks.block .nil blank (block_source expressible rest) others
  simpa only [List.nil_append, List.append_assoc] using spelled

/-- Every robot but the first has an empty line before its name. -/
theorem blocks_lines (robots : List Robot) (expressible : ∀ robot ∈ robots, robot.Expressible) :
    Blocks (robots.flatMap fun robot => '\n' :: robot.source.toList) robots := by
  induction robots with
  | nil => exact .done .nil
  | cons first more ih =>
    have others := ih fun robot member => expressible robot (List.mem_cons_of_mem first member)
    have emptyLine : Blanks ['\n'] := by simp [Blanks]
    rw [List.flatMap_cons]
    exact blocks_cons emptyLine (expressible first List.mem_cons_self) others

theorem intercalate_lines (first : Robot) (more : List Robot) :
    ("\n".intercalate ((first :: more).map Robot.source)).toList =
      first.source.toList ++ more.flatMap fun robot => '\n' :: robot.source.toList := by
  induction more generalizing first with
  | nil => simp
  | cons second more ih =>
    have others := ih second
    rw [List.map_cons] at others
    rw [List.map_cons, List.map_cons, String.intercalate_cons_cons, String.toList_append,
      String.toList_append, others, List.flatMap_cons, List.append_assoc]
    rfl

theorem blocks_source (robots : List Robot) (expressible : ∀ robot ∈ robots, robot.Expressible) :
    Blocks ("\n".intercalate (robots.map Robot.source)).toList robots := by
  cases robots with
  | nil => exact .done .nil
  | cons first more =>
    have others := blocks_lines more fun robot member =>
      expressible robot (List.mem_cons_of_mem first member)
    rw [intercalate_lines]
    exact blocks_cons empty_blanks (expressible first List.mem_cons_self) others

theorem missionText_source {mission : Mission} (positive : mission.square.Positive)
    (expressible : mission.Expressible) : MissionText mission.source.toList mission := by
  have spelled := MissionText.mk empty_blanks space_spaces (decimal_numeral _) space_spaces
    (decimal_numeral _) positive (lineFeed_end _) (blocks_source mission.robots expressible)
  simpa [Mission.source, Square.source, List.append_assoc] using spelled

/-! ## Nothing else is spelled -/

theorem Grammar.Instructions.commanding {text rest : List Char} {instructions : List Instruction}
    (spelled : Instructions text instructions rest) : Instruction.heading [] ∉ instructions := by
  induction spelled with
  | nil rest => simp
  | cons blank sentence ending others ih =>
    rw [List.mem_cons, not_or]
    refine ⟨?_, ih⟩
    rintro rfl
    cases sentence with
    | heading spaced filled => exact filled rfl

theorem Grammar.Block.expressible {text rest : List Char} {robot : Robot}
    (spelled : Block text robot rest) : robot.Expressible := by
  cases spelled with
  | @mk name mark body rest instructions named ending sentences =>
    refine ⟨?_, ?_, ?_, sentences.commanding⟩
    · rw [String.toList_ofList]
      exact named.filled
    · rw [String.toList_ofList]
      exact named.spelled
    · rw [Utf8.encode, String.toList_ofList, encodeChars_spelled named.spelled, List.length_map]
      exact named.short

theorem Grammar.Blocks.expressible {text : List Char} {robots : List Robot}
    (spelled : Blocks text robots) : ∀ robot ∈ robots, robot.Expressible := by
  induction spelled with
  | done gap => simp
  | block gap blank block others ih =>
    intro robot member
    rcases List.mem_cons.1 member with rfl | later
    · exact block.expressible
    · exact ih robot later

theorem Grammar.MissionText.expressible {text : List Char} {mission : Mission}
    (spelled : MissionText text mission) : mission.square.Positive ∧ mission.Expressible := by
  cases spelled with
  | mk blank spaced wide spaced' high positive ending blocks =>
    exact ⟨positive, blocks.expressible⟩

/-! ## Reading what was printed -/

/-- A printed mission is read back exactly if its square has positive sides and its robots can be
written down, and every mission that was read from some text is one of these. -/
theorem Mission.parse_source (mission : Mission) :
    (parse mission.source = .ok mission ↔ mission.square.Positive ∧ mission.Expressible) ∧
      ∀ source, parse source = .ok mission → parse mission.source = .ok mission := by
  have readable {source : String} (read : parse source = .ok mission) :
      mission.square.Positive ∧ mission.Expressible :=
    (Source.missionText_of_read read).expressible
  have printed (fit : mission.square.Positive ∧ mission.Expressible) :
      parse mission.source = .ok mission :=
    Source.mission_read (missionText_source fit.1 fit.2)
  refine ⟨⟨readable, printed⟩, ?_⟩
  intro source read
  exact printed (readable read)

/-- Robots named like the first words of sentences, one of them without a sentence. -/
def Mission.keywords : Mission :=
  ⟨⟨5, 3⟩, [⟨"Move", []⟩, ⟨"Rotate", [.landing 1 1 .north, .heading [.forward]]⟩, ⟨"A", []⟩]⟩

theorem Mission.parse_source_keywords :
    parse Mission.keywords.source = .ok Mission.keywords :=
  (Mission.parse_source Mission.keywords).1.2 ⟨by decide, by decide +kernel⟩

end ScentedGrid
