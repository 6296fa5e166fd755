import ScentedGrid.Proofs.Bytecode.Truncation

/-! Bytes that are refused. Reading goes on over whole records up to the first place where none
begins, so what is refused is whole robots, a robot's name and its first instructions, and then the
fault. The error and its offset say what stands there. -/

namespace ScentedGrid

open Text

namespace Bytecode

/-! ## Inside a robot -/

theorem commandRun_eq_nil_iff (bytes : List UInt8) :
    (commandRun bytes).1 = [] ↔ Stops Command.isCode bytes := by
  constructor
  · intro empty
    have whole := commandRun_append bytes
    rw [empty, List.map_nil, List.nil_append] at whole
    rw [← whole]
    exact stops_dropWhile bytes
  · intro stops
    rw [commandRun, stops.takeWhile_eq_nil, List.filterMap_nil]

/-- Bytes inside a robot that begin no record, and their error. -/
inductive StepFault (offset : Nat) : List UInt8 → DecodeError → Prop where
  | ended : StepFault offset [] (.unexpectedEnd offset .opcode)
  | landingX : StepFault offset [Opcode.landing] (.unexpectedEnd (offset + 1) .landingX)
  | landingY (x : UInt8) :
      StepFault offset [Opcode.landing, x] (.unexpectedEnd (offset + 2) .landingY)
  | landingDirection (x y : UInt8) :
      StepFault offset [Opcode.landing, x, y] (.unexpectedEnd (offset + 3) .landingDirection)
  | direction (x y : UInt8) {code : UInt8} (rest : List UInt8) : Direction.ofCode? code = none →
      StepFault offset (Opcode.landing :: x :: y :: code :: rest)
        (.invalidDirection (offset + 3) code)
  | heading {rest : List UInt8} : Stops Command.isCode rest →
      StepFault offset (Opcode.heading :: rest) (.emptyHeading offset)
  | opcode {byte : UInt8} (rest : List UInt8) : byte ≠ Opcode.endOfRobot →
      byte ≠ Opcode.landing → byte ≠ Opcode.heading →
      StepFault offset (byte :: rest) (.unknownOpcode offset byte)

theorem fault_of_step {cursor : Cursor} {error : DecodeError}
    (failed : step cursor = .error error) :
    StepFault cursor.offset cursor.bytes error := by
  obtain ⟨offset, bytes⟩ := cursor
  unfold step at failed
  dsimp only at failed ⊢
  split at failed
  · cases failed
    exact .ended
  · next opcode rest =>
    split at failed
    · cases failed
    · next going =>
      split at failed
      · next landing =>
        subst landing
        split at failed
        · cases failed
          exact .landingX
        · cases failed
          exact .landingY _
        · cases failed
          exact .landingDirection _ _
        · split at failed
          · next direction =>
            cases failed
            exact .direction _ _ _ direction
          · cases failed
      · next other =>
        split at failed
        · next heading =>
          subst heading
          split at failed
          · next empty =>
            cases failed
            exact .heading ((commandRun_eq_nil_iff rest).1 (List.isEmpty_iff.1 empty))
          · cases failed
        · next unknown =>
          cases failed
          exact .opcode rest going other unknown

theorem StepFault.step_eq {offset : Nat} {bytes : List UInt8} {error : DecodeError}
    (fault : StepFault offset bytes error) : step ⟨offset, bytes⟩ = .error error := by
  cases fault with
  | ended | landingX | landingY | landingDirection => rfl
  | direction x y rest unread =>
    simp only [step]
    rw [if_neg (by decide), if_pos trivial, unread]
  | heading stops =>
    have empty := (commandRun_eq_nil_iff _).2 stops
    simp only [step]
    rw [if_neg (by decide), if_neg (by decide), if_pos trivial, empty]
    rfl
  | opcode rest going other unknown =>
    simp only [step]
    rw [if_neg going, if_neg other, if_neg unknown]

/-- Bytes inside a robot that begin with instructions, and behind them with no record. -/
inductive InstructionsFault : Nat → List UInt8 → DecodeError → Prop where
  | here {offset : Nat} {bytes : List UInt8} {error : DecodeError} :
      StepFault offset bytes error → InstructionsFault offset bytes error
  | behind {offset : Nat} {found : Instruction} {rest : List UInt8} {error : DecodeError} :
      found ≠ .heading [] → EndsBefore rest found →
      InstructionsFault (offset + found.layout.length) rest error →
      InstructionsFault offset (found.layout ++ rest) error

/-- A heading that was read has taken all the commands there are. -/
theorem endsBefore_of_step {cursor rest : Cursor} {found : Instruction}
    (read : step cursor = .ok (.instruction found rest)) : EndsBefore rest.bytes found := by
  unfold step at read
  split at read
  · cases read
  · next nonempty =>
    split at read
    · cases read
    · split at read
      · split at read
        · cases read
        · cases read
        · cases read
        · split at read
          · cases read
          · cases read
            trivial
      · split at read
        · simp only at read
          split at read
          · cases read
          · cases read
            rw [Cursor.skip, nonempty, Nat.add_comm 1, List.drop_succ_cons, drop_commandRun]
            exact stops_dropWhile _
        · cases read

theorem fault_of_instructions {cursor : Cursor} {error : DecodeError}
    (failed : instructions cursor = .error error) :
    InstructionsFault cursor.offset cursor.bytes error := by
  fun_induction instructions cursor with
  | case1 cursor _ fault =>
    cases failed
    exact .here (fault_of_step fault)
  | case2 => cases failed
  | case3 cursor found rest read fault deeper ih =>
    cases failed
    obtain ⟨whole, past, filled⟩ := layout_of_step read
    simp only [Step.layout, Step.rest] at whole past
    have behind := ih deeper
    rw [past] at behind
    rw [whole]
    exact .behind (fun empty => filled rest (by rw [empty])) (endsBefore_of_step read) behind
  | case4 => cases failed

theorem InstructionsFault.instructions_eq {offset : Nat} {bytes : List UInt8} {error : DecodeError}
    (fault : InstructionsFault offset bytes error) :
    instructions ⟨offset, bytes⟩ = .error error := by
  induction fault with
  | here fault => exact instructions_failed fault.step_eq
  | behind filled ends _ ih =>
    rw [instructions_cons (step_layout filled ends _), ih]
    rfl

/-! ## Robot by robot -/

/-- Bytes that begin no whole robot, and their error. -/
inductive RobotFault (offset : Nat) : List UInt8 → DecodeError → Prop where
  | ended : RobotFault offset [] (.unexpectedEnd offset .nameLength)
  | name {length : UInt8} {rest : List UInt8} : rest.length < length.toNat →
      RobotFault offset (length :: rest) (.unexpectedEnd (offset + (rest.length + 1)) .name)
  | unnamed {length : UInt8} {name : List UInt8} (rest : List UInt8) :
      name.length = length.toNat → isNameBytes name = false →
      RobotFault offset (length :: (name ++ rest)) (.invalidName offset)
  | inside {length : UInt8} {name rest : List UInt8} {error : DecodeError} :
      name.length = length.toNat → isNameBytes name = true →
      InstructionsFault (offset + (1 + length.toNat)) rest error →
      RobotFault offset (length :: (name ++ rest)) error

theorem fault_of_robot {cursor : Cursor} {error : DecodeError}
    (failed : robot cursor = .error error) :
    RobotFault cursor.offset cursor.bytes error := by
  obtain ⟨offset, bytes⟩ := cursor
  unfold robot at failed
  dsimp only at failed ⊢
  split at failed
  · cases failed
    exact .ended
  · next length rest =>
    split at failed
    · next short =>
      cases failed
      rw [List.length_take] at short
      exact .name (by omega)
    · next enough =>
      have size := take_enough enough
      rw [← List.take_append_drop length.toNat rest]
      split at failed
      · next unnamed =>
        cases failed
        exact .unnamed _ size (by simpa using unnamed)
      · next named =>
        split at failed
        · next inside =>
          cases failed
          have fault := fault_of_instructions inside
          simp only [Cursor.skip, Nat.add_comm 1, List.drop_succ_cons] at fault
          exact .inside size (by simpa using named) (by rwa [Nat.add_comm 1])
        · cases failed

theorem RobotFault.robot_eq {offset : Nat} {bytes : List UInt8} {error : DecodeError}
    (fault : RobotFault offset bytes error) : robot ⟨offset, bytes⟩ = .error error := by
  cases fault with
  | ended => rfl
  | @name length rest short =>
    have less : (rest.take length.toNat).length < length.toNat := by
      rw [List.length_take]
      omega
    simp only [robot]
    rw [if_pos less, List.length_cons]
  | unnamed rest size unnamed =>
    simp only [robot]
    rw [List.take_left' size, if_neg (by omega), unnamed]
    rfl
  | @inside length name rest _ size named fault =>
    have past : (length :: (name ++ rest)).drop (1 + length.toNat) = rest := by
      rw [Nat.add_comm 1, List.drop_succ_cons, List.drop_left' size]
    simp only [robot, Cursor.skip]
    rw [List.take_left' size, if_neg (by omega), named, past, fault.instructions_eq]
    rfl

theorem fault_of_robots {cursor : Cursor} {error : DecodeError}
    (failed : robots cursor = .error error) :
    ∃ (before : List Robot) (rest : List UInt8), (∀ robot ∈ before, robot.Expressible) ∧
      cursor.bytes = before.flatMap Robot.layout ++ rest ∧ rest ≠ [] ∧
      RobotFault (cursor.offset + (before.flatMap Robot.layout).length) rest error := by
  fun_induction robots cursor with
  | case1 => cases failed
  | case2 cursor filled _ fault =>
    cases failed
    refine ⟨[], cursor.bytes, fun _ member => absurd member List.not_mem_nil, rfl, ?_,
      fault_of_robot fault⟩
    exact fun ended => filled (List.isEmpty_iff.2 ended)
  | case3 cursor _ first after head fault deeper ih =>
    cases failed
    obtain ⟨expressible, whole, past⟩ := layout_of_robot head
    obtain ⟨before, rest, others, split, filled, fault⟩ := ih deeper
    refine ⟨first :: before, rest, ?_, ?_, filled, ?_⟩
    · intro robot member
      rcases List.mem_cons.1 member with rfl | later
      · exact expressible
      · exact others robot later
    · rw [whole, split, List.flatMap_cons, List.append_assoc]
    · rwa [past, Nat.add_assoc, ← List.length_append] at fault
  | case4 => cases failed

end Bytecode

/-! ## All of the bytes -/

/-- Bytes of no mission, and their error. -/
inductive Mission.Fault : List UInt8 → DecodeError → Prop where
  | ended : Fault [] (.missingSquare none)
  | other {first : UInt8} (rest : List UInt8) : first ≠ Opcode.square →
      Fault (first :: rest) (.missingSquare (some first))
  | width : Fault [Opcode.square] (.unexpectedEnd 1 .squareWidth)
  | height (width : UInt8) : Fault [Opcode.square, width] (.unexpectedEnd 2 .squareHeight)
  | square {square : Square} (rest : List UInt8) : ¬ square.Positive →
      Fault (square.layout ++ rest) (.invalidSquare square.width square.height)
  | robot {mission : Mission} {rest : List UInt8} {error : DecodeError} :
      mission.square.Positive → mission.Expressible → rest ≠ [] →
      Bytecode.RobotFault mission.layout.length rest error → Fault (mission.layout ++ rest) error

namespace Mission

theorem fault_of_decode {bytes : List UInt8} {error : DecodeError}
    (failed : decode bytes = .error error) : Fault bytes error := by
  unfold decode at failed
  split at failed
  · cases failed
    exact .ended
  · next first rest =>
    split at failed
    · next other =>
      cases failed
      exact .other rest other
    · next opening =>
      obtain rfl := Classical.not_not.1 opening
      split at failed
      · cases failed
        exact .width
      · cases failed
        exact .height _
      · next width height rest =>
        split at failed
        · next flat =>
          cases failed
          have sides : ¬ (Square.mk width height).Positive := by
            rw [Square.positive_iff]
            exact not_not_intro flat
          exact .square rest sides
        · next sides =>
          split at failed
          · next inside =>
            cases failed
            have positive := (Square.positive_iff ⟨width, height⟩).2 sides
            obtain ⟨before, last, expressible, split, filled, fault⟩ :=
              Bytecode.fault_of_robots inside
            dsimp only at split fault
            rw [split]
            have size : (Mission.mk ⟨width, height⟩ before).layout.length =
                3 + (before.flatMap Robot.layout).length := List.length_append
            rw [← size] at fault
            have behind : Fault ((Mission.mk ⟨width, height⟩ before).layout ++ last) error :=
              .robot positive expressible filled fault
            exact behind
          · cases failed

/-- Bytes are refused exactly if they have a fault, and the error is that of the fault. -/
theorem decode_eq_error_iff (bytes : List UInt8) (error : DecodeError) :
    decode bytes = .error error ↔ Fault bytes error := by
  refine ⟨fault_of_decode, fun fault => ?_⟩
  cases fault with
  | ended | width | height => rfl
  | other rest other => exact if_pos other
  | @square square rest flat =>
    have sides : square.width = 0 ∨ square.height = 0 := by
      rw [Square.positive_iff] at flat
      exact Classical.not_not.1 flat
    simp only [Square.layout, List.cons_append, List.nil_append, decode]
    rw [if_neg (by decide), if_pos sides]
  | robot positive expressible filled fault =>
    exact decode_failed positive expressible filled fault.robot_eq

end Mission

/-! ## What an error says -/

theorem Direction.ofCode_eq_none_iff {code : UInt8} :
    ofCode? code = none ↔ code < 0x04 ∨ 0x07 < code := by
  grind [ofCode?]

theorem Command.isCode_eq_false_iff {byte : UInt8} :
    isCode byte = false ↔ byte < 0x08 ∨ 0x0A < byte := by
  grind [isCode, ofCode?]

namespace DecodeError

/-- What an error says of the bytes that it is the error of. -/
def Describes (bytes : List UInt8) : DecodeError → Prop
  | missingSquare found => bytes.head? = found ∧ found ≠ some Opcode.square
  | invalidSquare width height =>
    (width = 0 ∨ height = 0) ∧ [Opcode.square, width, height] <+: bytes
  | unexpectedEnd offset _ => offset = bytes.length
  | unknownOpcode offset byte =>
    bytes[offset]? = some byte ∧ byte ∉ [Opcode.landing, Opcode.heading, Opcode.endOfRobot] ∧
      5 ≤ offset
  | invalidDirection offset byte =>
    bytes[offset]? = some byte ∧ (byte < 0x04 ∨ 0x07 < byte) ∧
      3 ≤ offset ∧ bytes[offset - 3]? = some Opcode.landing
  | emptyHeading offset =>
    bytes[offset]? = some Opcode.heading ∧
      (offset + 1 = bytes.length ∨
        ∃ byte, bytes[offset + 1]? = some byte ∧ (byte < 0x08 ∨ 0x0A < byte))
  | invalidName offset =>
    ∃ length name, bytes[offset]? = some length ∧ name <+: bytes.drop (offset + 1) ∧
      name.length = length.toNat ∧
      (name = [] ∨ ∃ byte ∈ name, ¬ NameChar (Char.ofNat byte.toNat))

/-- The error is met in a robot. The others are met in the square. -/
def BehindSquare : DecodeError → Prop
  | missingSquare _ | invalidSquare _ _ => False
  | unexpectedEnd _ .squareWidth | unexpectedEnd _ .squareHeight => False
  | _ => True

end DecodeError

namespace Bytecode

theorem StepFault.describes {before part : List UInt8} {error : DecodeError}
    (fault : StepFault before.length part error) (named : 5 ≤ before.length) :
    error.Describes (before ++ part) := by
  cases fault with
  | ended | landingX | landingY | landingDirection => simp [DecodeError.Describes]
  | direction x y rest unread =>
    refine ⟨?_, Direction.ofCode_eq_none_iff.1 unread, Nat.le_add_left .., ?_⟩
    · simp
    · simp
  | @heading rest stops =>
    refine ⟨by simp, ?_⟩
    cases rest with
    | nil => exact .inl (by simp)
    | cons byte rest =>
      have outside : Command.isCode byte = false := stops byte rfl
      exact .inr ⟨byte, by simp, Command.isCode_eq_false_iff.1 outside⟩
  | opcode rest going other unknown =>
    refine ⟨by simp, ?_, named⟩
    simp [going, other, unknown]

/-- Instructions in front of a fault are passed over. -/
theorem InstructionsFault.describes {before part : List UInt8} {error : DecodeError}
    (fault : InstructionsFault before.length part error) (named : 5 ≤ before.length) :
    error.Describes (before ++ part) := by
  generalize start : before.length = offset at fault
  induction fault generalizing before with
  | here fault =>
    subst start
    exact fault.describes named
  | @behind _ found _ _ _ _ _ ih =>
    subst start
    have longer : (before ++ found.layout).length = before.length + found.layout.length :=
      List.length_append
    rw [← List.append_assoc]
    exact ih (by omega) longer

theorem RobotFault.describes {before part : List UInt8} {error : DecodeError}
    (fault : RobotFault before.length part error) (opened : 3 ≤ before.length) :
    error.Describes (before ++ part) := by
  cases fault with
  | ended | name => simp [DecodeError.Describes]
  | @unnamed length name rest size unnamed =>
    refine ⟨length, name, by simp, ⟨rest, by simp⟩, size, ?_⟩
    by_contra spelled
    rw [not_or] at spelled
    have named : isNameBytes name = true :=
      (isName_iff _).2 ⟨by simpa using spelled.1, by simpa using spelled.2⟩
    cases named.symm.trans unnamed
  | @inside length name rest _ size named fault =>
    have filled : name ≠ [] := by
      rintro rfl
      cases named
    have some : 0 < name.length := List.length_pos_iff.2 filled
    have longer : (before ++ length :: name).length = before.length + (1 + length.toNat) := by
      rw [List.length_append, List.length_cons, size, Nat.add_comm 1]
    have same : before ++ length :: (name ++ rest) = (before ++ length :: name) ++ rest := by simp
    rw [same]
    rw [← longer] at fault
    exact fault.describes (by omega)

end Bytecode

namespace Mission

theorem Fault.describes {bytes : List UInt8} {error : DecodeError} (fault : Fault bytes error) :
    error.Describes bytes := by
  cases fault with
  | ended => exact ⟨rfl, Option.some_ne_none _ ∘ Eq.symm⟩
  | other rest other => exact ⟨rfl, fun same => other (Option.some.inj same)⟩
  | width | height => rfl
  | @square square rest flat =>
    rw [Square.positive_iff] at flat
    exact ⟨Classical.not_not.1 flat, List.prefix_append ..⟩
  | @robot mission rest _ _ _ _ fault =>
    have opened : mission.layout.length = 3 + (mission.robots.flatMap Robot.layout).length :=
      List.length_append
    exact fault.describes (by omega)

/-- The error of bytes that are refused tells the truth about them. If it is not about the square,
it is the error of a robot that begins somewhere in the bytes, and all bytes before that robot are
read as a mission. -/
theorem decode_error_located {bytes : List UInt8} {error : DecodeError}
    (failed : decode bytes = .error error) :
    error.Describes bytes ∧
      (error.BehindSquare → ∃ start mission, start < bytes.length ∧
        decode (bytes.take start) = .ok mission ∧
        Bytecode.robot ⟨start, bytes.drop start⟩ = .error error) := by
  have fault := fault_of_decode failed
  refine ⟨fault.describes, fun behind => ?_⟩
  cases fault with
  | ended | other | width | height | square => cases behind
  | @robot mission rest _ positive expressible filled fault =>
    refine ⟨mission.layout.length, mission, ?_, ?_, ?_⟩
    · rw [List.length_append]
      exact Nat.lt_add_of_pos_right (List.length_pos_iff.2 filled)
    · rw [List.take_left' rfl]
      exact (decode_eq_ok_iff _ _).2 ⟨positive, expressible, rfl⟩
    · rw [List.drop_left' rfl]
      exact fault.robot_eq

/-- A whole robot, and one that stops at a landing to nowhere. -/
def astrayBytes : List UInt8 := [1, 5, 3, 1, 66, 0x80, 1, 67, 3, 8, 2, 1, 1, 9, 0x80]

theorem decode_error_located_astray :
    decode astrayBytes = .error (.invalidDirection 13 9) ∧
      (DecodeError.invalidDirection 13 9).BehindSquare ∧
      (astrayBytes[13]? = some 9 ∧ astrayBytes[10]? = some Opcode.landing) ∧
      ∃ start mission, start < astrayBytes.length ∧
        decode (astrayBytes.take start) = .ok mission ∧
        Bytecode.robot ⟨start, astrayBytes.drop start⟩ = .error (.invalidDirection 13 9) := by
  let first : Mission := ⟨⟨5, 3⟩, [⟨"B", []⟩]⟩
  have whole : astrayBytes = first.layout ++ [1, 67, 3, 8, 2, 1, 1, 9, 0x80] := by decide +kernel
  have failed : decode astrayBytes = .error (.invalidDirection 13 9) := by
    have nowhere : Bytecode.StepFault 10 [2, 1, 1, 9, 0x80] (.invalidDirection 13 9) :=
      .direction 1 1 [0x80] rfl
    have turned : Bytecode.InstructionsFault 8
        ((Instruction.heading [.right]).layout ++ [2, 1, 1, 9, 0x80]) (.invalidDirection 13 9) :=
      .behind (by decide) (stops_cons rfl) (.here nowhere)
    have inside : Bytecode.RobotFault first.layout.length (1 :: ([67] ++ [3, 8, 2, 1, 1, 9, 0x80]))
        (.invalidDirection 13 9) := .inside rfl rfl turned
    rw [whole]
    exact (decode_eq_error_iff _ _).2
      (.robot (by decide) (by decide +kernel) (List.cons_ne_nil _ _) inside)
  have behind : (DecodeError.invalidDirection 13 9).BehindSquare := trivial
  obtain ⟨⟨here, _, _, landing⟩, met⟩ := decode_error_located failed
  exact ⟨failed, behind, ⟨here, landing⟩, met behind⟩

end Mission
end ScentedGrid
