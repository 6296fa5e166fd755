import ScentedGrid.Proofs.Bytecode.RoundTrip
import Mathlib.Data.List.TakeWhile

/-! Bytes that are read as a mission are the bytes of that mission. Each reader gives back the
bytes it took: they are the layout of what it found. -/

namespace ScentedGrid

open Text

namespace Bytecode

theorem commandRun_append (bytes : List UInt8) :
    (commandRun bytes).1.map Command.code ++ (commandRun bytes).2 = bytes := by
  have codes : ∀ byte ∈ bytes.takeWhile Command.isCode, Command.isCode byte = true :=
    fun _ member => List.mem_takeWhile_imp member
  have written := written_filterMap (fun _ _ read => Command.code_of_ofCode read) codes
  rw [commandRun, written, List.takeWhile_append_dropWhile]

theorem drop_commandRun (bytes : List UInt8) :
    bytes.drop (commandRun bytes).1.length = (commandRun bytes).2 := by
  calc
    _ = ((commandRun bytes).1.map Command.code ++ (commandRun bytes).2).drop
        (commandRun bytes).1.length := by rw [commandRun_append]
    _ = _ := List.drop_left' (List.length_map _)

theorem take_enough {count : Nat} {bytes : List UInt8}
    (enough : ¬ (bytes.take count).length < count) : (bytes.take count).length = count :=
  Nat.le_antisymm (List.length_take_le count bytes) (Nat.le_of_not_lt enough)

/-- The record that a step went past. -/
def Step.layout : Step → List UInt8
  | endOfRobot _ => [Opcode.endOfRobot]
  | instruction found _ => found.layout

/-- A record that was read is laid out at the front of the bytes. -/
theorem layout_of_step {cursor : Cursor} {found : Step} (read : step cursor = .ok found) :
    cursor.bytes = found.layout ++ found.rest.bytes ∧
      found.rest.offset = cursor.offset + found.layout.length ∧
      ∀ rest, found ≠ .instruction (.heading []) rest := by
  unfold step at read
  split at read
  · cases read
  · next opcode bytes nonempty =>
    split at read
    · next ending =>
      cases read
      refine ⟨?_, rfl, fun _ => Step.noConfusion⟩
      rw [nonempty, ending]
      simp only [Step.rest, Cursor.skip, nonempty, List.drop_succ_cons, List.drop_zero]
      rfl
    · split at read
      · next landing =>
        split at read
        · cases read
        · cases read
        · cases read
        · next x y code after =>
          split at read
          · cases read
          · next facing direction =>
            cases read
            refine ⟨?_, rfl, fun _ other => by cases other⟩
            rw [nonempty, landing]
            simp only [Step.layout, Step.rest, Cursor.skip, nonempty, Instruction.layout,
              Direction.code_of_ofCode direction]
            rfl
      · split at read
        · next heading =>
          simp only at read
          split at read
          · cases read
          · next filled =>
            cases read
            refine ⟨?_, ?_, ?_⟩
            · simp only [Step.layout, Step.rest, Cursor.skip, nonempty, heading,
                Instruction.layout]
              rw [Nat.add_comm 1, List.drop_succ_cons, drop_commandRun, List.cons_append,
                commandRun_append]
            · simp only [Step.layout, Step.rest, Cursor.skip, Instruction.layout,
                List.length_cons, List.length_map]
              omega
            · intro rest empty
              apply filled
              rw [Instruction.heading.inj (Step.instruction.inj empty).1]
              rfl
        · cases read

theorem layout_of_instructions {cursor rest : Cursor} {found : List Instruction}
    (read : instructions cursor = .ok (found, rest)) :
    .heading [] ∉ found ∧
      cursor.bytes = found.flatMap Instruction.layout ++ Opcode.endOfRobot :: rest.bytes ∧
      rest.offset = cursor.offset + (found.flatMap Instruction.layout).length + 1 := by
  fun_induction instructions cursor generalizing found rest with
  | case1 => cases read
  | case2 cursor _ ending =>
    cases read
    obtain ⟨bytes, offset, _⟩ := layout_of_step ending
    exact ⟨List.not_mem_nil, bytes, offset⟩
  | case3 => cases read
  | case4 cursor first after step more rest' deeper ih =>
    cases read
    obtain ⟨bytes, offset, filled⟩ := layout_of_step step
    simp only [Step.layout, Step.rest] at bytes offset
    obtain ⟨others, bytes', offset'⟩ := ih deeper
    refine ⟨?_, ?_, ?_⟩
    · intro member
      rcases List.mem_cons.1 member with empty | later
      · exact filled after (by rw [empty])
      · exact others later
    · rw [bytes, bytes', List.flatMap_cons, List.append_assoc]
    · rw [offset', offset, List.flatMap_cons, List.length_append]
      omega

theorem layout_of_robot {cursor rest : Cursor} {found : Robot}
    (read : robot cursor = .ok (found, rest)) :
    found.Expressible ∧ cursor.bytes = found.layout ++ rest.bytes ∧
      rest.offset = cursor.offset + found.layout.length := by
  unfold robot at read
  split at read
  · cases read
  · next length bytes nonempty =>
    split at read
    · cases read
    · next enough =>
      split at read
      · cases read
      · next named =>
        split at read
        · cases read
        · next found' after body =>
          cases read
          have named : isNameBytes (bytes.take length.toNat) = true := by simpa using named
          have spelling := encode_name named
          have size := take_enough enough
          obtain ⟨commanding, inside, offset⟩ := layout_of_instructions body
          obtain ⟨characters, spelled⟩ := (isName_iff _).1 named
          have after : bytes.drop length.toNat = found'.flatMap Instruction.layout ++
              Opcode.endOfRobot :: rest.bytes := by
            rw [← inside, Cursor.skip, nonempty, Nat.add_comm 1, List.drop_succ_cons]
          have layout : (⟨name (bytes.take length.toNat), found'⟩ : Robot).layout =
              length :: bytes.take length.toNat ++
                found'.flatMap Instruction.layout ++ [Opcode.endOfRobot] := by
            rw [Robot.layout, spelling, size, UInt8.ofNat_toNat]
          refine ⟨⟨?_, ?_, ?_, commanding⟩, ?_, ?_⟩
          · rw [name, String.toList_ofList]
            exact characters
          · rw [name, String.toList_ofList]
            exact spelled
          · rw [spelling, size]
            exact Nat.le_of_lt_succ length.toNat_lt
          · rw [layout, nonempty]
            simp only [List.cons_append, List.append_assoc, List.nil_append]
            rw [← after, List.take_append_drop]
          · rw [offset, layout]
            simp only [Cursor.skip, List.length_append, List.length_cons, List.length_nil, size]
            omega

theorem layout_of_robots {cursor : Cursor} {found : List Robot}
    (read : robots cursor = .ok found) :
    (∀ robot ∈ found, robot.Expressible) ∧ cursor.bytes = found.flatMap Robot.layout := by
  fun_induction robots cursor generalizing found with
  | case1 cursor ended =>
    cases read
    exact ⟨fun _ member => absurd member List.not_mem_nil, List.isEmpty_iff.1 ended⟩
  | case2 => cases read
  | case3 => cases read
  | case4 cursor _ first rest head more deeper ih =>
    cases read
    obtain ⟨expressible, bytes, _⟩ := layout_of_robot head
    obtain ⟨others, bytes'⟩ := ih deeper
    refine ⟨?_, ?_⟩
    · intro robot member
      rcases List.mem_cons.1 member with rfl | later
      · exact expressible
      · exact others robot later
    · rw [bytes, bytes', List.flatMap_cons]

end Bytecode

/-- Bytes are read as a mission exactly if they are the bytes of that mission. -/
theorem Mission.decode_eq_ok_iff (bytes : List UInt8) (mission : Mission) :
    decode bytes = .ok mission ↔
      mission.square.Positive ∧ mission.Expressible ∧ bytes = mission.layout := by
  constructor
  · intro read
    unfold decode at read
    split at read
    · cases read
    · next first rest =>
      split at read
      · cases read
      · next opening =>
        split at read
        · cases read
        · cases read
        · next width height body =>
          split at read
          · cases read
          · next sides =>
            split at read
            · cases read
            · next found robots =>
              cases read
              obtain ⟨expressible, layout⟩ := Bytecode.layout_of_robots robots
              simp only at layout
              refine ⟨(Square.positive_iff _).2 sides, expressible, ?_⟩
              rw [Classical.not_not.1 opening, layout]
              rfl
  · rintro ⟨sides, expressible, rfl⟩
    rw [decode_layout expressible, if_neg ((Square.positive_iff _).1 sides)]

/-- The code is canonical: what is read as a mission is what is written for it, byte for byte. -/
theorem Mission.encode_decode (bytes : List UInt8) :
    (∀ mission, decode bytes = .ok mission →
      mission.encode = .ok bytes ∧ bytes = mission.layout) ∧
    ((∃ mission, decode bytes = .ok mission) ↔
      ∃ mission : Mission, mission.square.Positive ∧ mission.encode = .ok bytes) ∧
    (∀ other mission, decode bytes = .ok mission → decode other = .ok mission →
      other = bytes) := by
  have written : ∀ mission, decode bytes = .ok mission ↔
      mission.square.Positive ∧ mission.encode = .ok bytes := by
    intro mission
    rw [decode_eq_ok_iff, encode_eq_ok_iff]
  refine ⟨?_, exists_congr written, ?_⟩
  · intro mission read
    obtain ⟨_, _, layout⟩ := (decode_eq_ok_iff bytes mission).1 read
    exact ⟨((written mission).1 read).2, layout⟩
  · intro other mission read otherRead
    obtain ⟨_, _, layout⟩ := (decode_eq_ok_iff bytes mission).1 read
    obtain ⟨_, _, otherLayout⟩ := (decode_eq_ok_iff other mission).1 otherRead
    rw [layout, otherLayout]

theorem Mission.encode_decode_headings :
    decode [1, 5, 3, 1, 66, 3, 8, 3, 9, 10, 0x80] =
        .ok ⟨⟨5, 3⟩, [⟨"B", [.heading [.right], .heading [.forward, .left]]⟩]⟩ ∧
      encode ⟨⟨5, 3⟩, [⟨"B", [.heading [.right], .heading [.forward, .left]]⟩]⟩ =
        .ok [1, 5, 3, 1, 66, 3, 8, 3, 9, 10, 0x80] := by
  have read : decode [1, 5, 3, 1, 66, 3, 8, 3, 9, 10, 0x80] =
      .ok ⟨⟨5, 3⟩, [⟨"B", [.heading [.right], .heading [.forward, .left]]⟩]⟩ :=
    (decode_eq_ok_iff _ _).2 ⟨by decide, by decide +kernel, by decide +kernel⟩
  exact ⟨read, ((encode_decode _).1 _ read).1⟩

end ScentedGrid
