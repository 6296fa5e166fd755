import ScentedGrid.Bytecode.Listing
import ScentedGrid.Proofs.Bytecode.RoundTrip
import ScentedGrid.Proofs.OneLine

/-! What bytes are listed as: records that follow each other, one line for each, and names that may
be written as they are. -/

namespace ScentedGrid

open Text Bytecode

/-! ## Records of missions -/

def Instruction.record : Instruction → Record
  | landing x y facing => .landing x y facing
  | heading commands => .heading commands

def Robot.records (robot : Robot) : List Record :=
  .robot (Utf8.encode robot.name) :: robot.instructions.map Instruction.record ++ [.endOfRobot]

def Mission.records (mission : Mission) : List Record :=
  .square mission.square.width mission.square.height :: mission.robots.flatMap Robot.records

theorem Instruction.record_bytes (instruction : Instruction) :
    instruction.record.bytes = instruction.layout := by
  cases instruction <;> rfl

theorem Robot.records_bytes (robot : Robot) :
    robot.records.flatMap Record.bytes = robot.layout := by
  simp only [records, layout, List.flatMap_cons, List.flatMap_append, List.flatMap_map,
    Instruction.record_bytes, List.flatMap_nil, List.append_nil]
  rfl

theorem Mission.records_bytes (mission : Mission) :
    mission.records.flatMap Record.bytes = mission.layout := by
  simp only [records, layout, List.flatMap_cons, List.flatMap_assoc, Robot.records_bytes]
  rfl

namespace Bytecode

/-- Not a single byte that begins no record. -/
def Record.IsWhole (record : Record) : Prop := ∀ byte, record ≠ .trailing byte

theorem record_whole (instruction : Instruction) : instruction.record.IsWhole := by
  cases instruction <;> exact fun _ => Record.noConfusion

theorem record_inside (instruction : Instruction) : instruction.record ≠ .endOfRobot := by
  cases instruction <;> exact Record.noConfusion

section

variable {bytes rest : List UInt8} {record : Record}

theorem recordsFrom_nowhere (unlisted : Record.insideRobot? bytes = none) :
    recordsFrom true bytes = bytes.map .trailing := by
  rw [recordsFrom, if_pos rfl]
  split
  · rfl
  · next listed => cases unlisted.symm.trans listed
  · next listed => cases unlisted.symm.trans listed

theorem recordsFrom_end (listed : Record.insideRobot? bytes = some (.endOfRobot, rest)) :
    recordsFrom true bytes = .endOfRobot :: recordsFrom false rest := by
  rw [recordsFrom, if_pos rfl]
  split
  · next unlisted => cases unlisted.symm.trans listed
  · next other =>
    cases other.symm.trans listed
    rfl
  · next inside other =>
    cases other.symm.trans listed
    exact (inside rfl).elim

theorem recordsFrom_inside (listed : Record.insideRobot? bytes = some (record, rest))
    (inside : record ≠ .endOfRobot) :
    recordsFrom true bytes = record :: recordsFrom true rest := by
  rw [recordsFrom, if_pos rfl]
  split
  · next unlisted => cases unlisted.symm.trans listed
  · next other =>
    cases other.symm.trans listed
    exact absurd rfl inside
  · next other =>
    cases other.symm.trans listed
    rfl

theorem recordsFrom_between (listed : Record.betweenRobots? bytes = some (record, rest)) :
    recordsFrom false bytes = record :: recordsFrom true rest := by
  rw [recordsFrom, if_neg Bool.false_ne_true]
  split
  · next unlisted => cases unlisted.symm.trans listed
  · next other =>
    cases other.symm.trans listed
    rfl

theorem recordsFrom_unnamed (unlisted : Record.betweenRobots? bytes = none) :
    recordsFrom false bytes = bytes.map .trailing := by
  rw [recordsFrom, if_neg Bool.false_ne_true]
  split
  · rfl
  · next listed => cases unlisted.symm.trans listed

end

/-! ## Lines -/

variable (visible : Char → Bool)

theorem linesFrom_append (offset : Nat) (first rest : List Record) :
    linesFrom visible offset (first ++ rest) =
      linesFrom visible offset first ++
        linesFrom visible (offset + (first.flatMap Record.bytes).length) rest := by
  induction first generalizing offset with
  | nil => rfl
  | cons record more ih =>
    rw [List.cons_append, linesFrom, linesFrom, ih, List.flatMap_cons, List.length_append,
      Nat.add_assoc]
    rfl

/-- The text of a listing, cut where a record begins. -/
theorem listing_split {bytes : List UInt8} {before after : List Record} {record : Record}
    (split : Bytecode.records bytes = before ++ record :: after) :
    listing visible bytes =
      String.join (linesFrom visible 0 before) ++
        (record.line visible (before.flatMap Record.bytes).length ++
          String.join (linesFrom visible ((before.flatMap Record.bytes).length + record.bytes.length)
            after)) := by
  rw [listing, split, linesFrom_append, String.join_append, Nat.zero_add, linesFrom,
    String.join_cons]

theorem oneLine_hexBytes (bytes : List UInt8) : OneLine (hexBytes bytes) := by
  apply OneLine.intercalate
  · decide
  · intro text member
    obtain ⟨byte, _, rfl⟩ := List.mem_map.1 member
    exact oneLine_hexCapital 2 byte.toNat

theorem oneLine_meaning (record : Record) : OneLine (record.meaning visible) := by
  cases record with
  | square width height =>
    exact ((OneLine.append (by decide) (oneLine_decimal _)).append (by decide)).append
      (oneLine_decimal _)
  | robot name => exact OneLine.append (by decide) (oneLine_quoted visible _)
  | landing x y facing =>
    have shown : OneLine (String.singleton facing.letter) := by cases facing <;> decide
    exact ((((OneLine.append (by decide) (oneLine_decimal _)).append (by decide)).append
      (oneLine_decimal _)).append (by decide)).append shown
  | heading commands =>
    refine OneLine.append (by decide) (oneLine_ofList ?_)
    rw [List.mem_map]
    rintro ⟨command, _, broken⟩
    cases command <;> exact absurd broken (by decide)
  | endOfRobot => exact (by decide : OneLine "END")
  | trailing => exact (by decide : OneLine "(trailing)")

/-- Each record has one line. -/
theorem Record.line_ends (offset : Nat) (record : Record) :
    ∃ body, OneLine body ∧ record.line visible offset = body ++ "\n" := by
  refine ⟨_, ?_, rfl⟩
  refine OneLine.append (OneLine.append (OneLine.append (oneLine_hexCapital _ _) (by decide)) ?_)
    (oneLine_meaning visible record)
  split
  · exact OneLine.append (oneLine_hexBytes _) (by decide)
  · exact OneLine.append (oneLine_column (oneLine_hexBytes _) 24) (by decide)

theorem lines_end {found : List Record} {offset : Nat} :
    ∀ line ∈ linesFrom visible offset found, ∃ body, OneLine body ∧ line = body ++ "\n" := by
  induction found generalizing offset with
  | nil => exact fun _ member => absurd member List.not_mem_nil
  | cons record rest ih =>
    intro line member
    rcases List.mem_cons.1 member with rfl | later
    · exact record.line_ends visible offset
    · exact ih line later

/-! ## Names -/

theorem escaped_spelled {c : Char} (spelled : NameChar c) :
    escaped visible c = String.singleton c := by
  have plain : ∀ number < 0x80, NameChar (Char.ofNat number) →
      isPlain (Char.ofNat number) = true := by
    simp only [NameChar]
    decide +kernel
  have shown := plain c.toNat spelled.ascii
  rw [Char.ofNat_toNat] at shown
  exact if_pos (shown spelled)

theorem character_ascii {byte : UInt8} (ascii : byte.toNat < 0x80) (rest : List UInt8) :
    Utf8.character byte rest = (some (Char.ofNat byte.toNat), rest) := if_pos ascii

theorem characters_spelled {characters : List Char} (spelled : ∀ c ∈ characters, NameChar c) :
    Utf8.characters (characters.flatMap String.utf8EncodeChar) = characters.map some := by
  rw [encodeChars_spelled spelled]
  induction characters with
  | nil => exact Utf8.characters_nil
  | cons c rest ih =>
    have ascii := (spelled c List.mem_cons_self).ascii
    have small : (UInt8.ofNat c.toNat).toNat < 0x80 := by
      rw [UInt8.toNat_ofNat']
      omega
    have others := ih fun d member => spelled d (List.mem_cons_of_mem c member)
    rw [List.map_cons, Utf8.characters_cons, character_ascii small, char_byte_ascii ascii, others,
      List.map_cons]

/-- A name that may be written is listed as it is. -/
theorem meaning_name {name : String} (spelled : ∀ c ∈ name.toList, NameChar c) :
    (Record.robot (Utf8.encode name)).meaning visible = "ROBOT \"" ++ name ++ "\"" := by
  have repaired : Utf8.repair (Utf8.encode name) = name := by
    rw [Utf8.repair, Utf8.encode, characters_spelled spelled, List.map_map]
    exact (congrArg String.ofList (List.map_id _)).trans String.ofList_toList
  have shown : String.join (name.toList.map (escaped visible)) = name := by
    apply String.toList_inj.1
    rw [List.map_congr_left fun c member => escaped_spelled visible (spelled c member),
      String.toList_join, List.flatMap_map]
    simp only [String.toList_singleton, List.flatMap_singleton']
  rw [Record.meaning, repaired, quoted, shown, ← String.append_assoc, ← String.append_assoc]
  rfl

end Bytecode
end ScentedGrid
