import ScentedGrid.Proofs.Bytecode.Faults

/-! Bytes that go on. Behind the bytes of a mission, more bytes are read as they are behind its
square alone, only further on. And a fault that has bytes behind it stays what it is, whatever
follows. -/

namespace ScentedGrid

namespace DecodeError

/-- The error, met so many bytes later. -/
def later (count : Nat) : DecodeError → DecodeError
  | missingSquare found => missingSquare found
  | invalidSquare width height => invalidSquare width height
  | unexpectedEnd offset expected => unexpectedEnd (offset + count) expected
  | unknownOpcode offset byte => unknownOpcode (offset + count) byte
  | invalidDirection offset byte => invalidDirection (offset + count) byte
  | emptyHeading offset => emptyHeading (offset + count)
  | invalidName offset => invalidName (offset + count)

/-- The error of bytes of this length is not that they end. A heading that ends them may still get
its commands. -/
def Settled (length : Nat) : DecodeError → Prop
  | missingSquare found => found ≠ none
  | unexpectedEnd _ _ => False
  | emptyHeading offset => offset + 1 ≠ length
  | _ => True

end DecodeError

namespace Bytecode

section

variable {offset count : Nat} {bytes : List UInt8} {error : DecodeError}

/-! ## Faults at another place -/

theorem StepFault.later (fault : StepFault offset bytes error) (count : Nat) :
    StepFault (offset + count) bytes (error.later count) := by
  cases fault with
  | ended => exact .ended
  | landingX =>
    rw [DecodeError.later, Nat.add_right_comm]
    exact .landingX
  | landingY x =>
    rw [DecodeError.later, Nat.add_right_comm]
    exact .landingY x
  | landingDirection x y =>
    rw [DecodeError.later, Nat.add_right_comm]
    exact .landingDirection x y
  | direction x y rest unread =>
    rw [DecodeError.later, Nat.add_right_comm]
    exact .direction x y rest unread
  | heading stops => exact .heading stops
  | opcode rest going other unknown => exact .opcode rest going other unknown

theorem InstructionsFault.later (fault : InstructionsFault offset bytes error) (count : Nat) :
    InstructionsFault (offset + count) bytes (error.later count) := by
  induction fault with
  | here fault => exact .here (fault.later count)
  | behind filled ends _ ih =>
    rw [Nat.add_right_comm] at ih
    exact .behind filled ends ih

theorem RobotFault.later (fault : RobotFault offset bytes error) (count : Nat) :
    RobotFault (offset + count) bytes (error.later count) := by
  cases fault with
  | ended => exact .ended
  | name short =>
    rw [DecodeError.later, Nat.add_right_comm]
    exact .name short
  | unnamed rest size unnamed => exact .unnamed rest size unnamed
  | inside size named fault =>
    have further := fault.later count
    rw [Nat.add_right_comm] at further
    exact .inside size named further

/-! ## Faults with more bytes behind them -/

theorem StepFault.append (fault : StepFault offset bytes error)
    (settled : error.Settled (offset + bytes.length)) (more : List UInt8) :
    StepFault offset (bytes ++ more) error := by
  cases fault with
  | ended | landingX | landingY | landingDirection => cases settled
  | direction x y rest unread => exact .direction x y (rest ++ more) unread
  | @heading rest stops =>
    cases rest with
    | nil => exact absurd rfl settled
    | cons byte rest => exact .heading (stops_cons (stops byte rfl))
  | opcode rest going other unknown => exact .opcode (rest ++ more) going other unknown

theorem InstructionsFault.filled (fault : InstructionsFault offset bytes error)
    (settled : error.Settled (offset + bytes.length)) : bytes ≠ [] := by
  cases fault with
  | here fault =>
    cases fault with
    | ended => cases settled
    | _ => exact List.cons_ne_nil _ _
  | @behind _ found rest _ _ _ _ => cases found <;> exact List.cons_ne_nil _ _

theorem EndsBefore.append {found : Instruction} {rest : List UInt8} (ends : EndsBefore rest found)
    (filled : rest ≠ []) (more : List UInt8) : EndsBefore (rest ++ more) found := by
  cases found with
  | landing => trivial
  | heading =>
    cases rest with
    | nil => exact absurd rfl filled
    | cons byte rest => exact stops_cons (ends byte rfl)

theorem InstructionsFault.append (fault : InstructionsFault offset bytes error)
    (settled : error.Settled (offset + bytes.length)) (more : List UInt8) :
    InstructionsFault offset (bytes ++ more) error := by
  induction fault with
  | here fault => exact .here (fault.append settled more)
  | behind filled ends fault ih =>
    rw [List.length_append, ← Nat.add_assoc] at settled
    rw [List.append_assoc]
    -- The commands of the last heading do not go on, for there is a byte behind them already.
    exact .behind filled (ends.append (fault.filled settled) more) (ih settled)

theorem RobotFault.append (fault : RobotFault offset bytes error)
    (settled : error.Settled (offset + bytes.length)) (more : List UInt8) :
    RobotFault offset (bytes ++ more) error := by
  cases fault with
  | ended | name => cases settled
  | @unnamed length name rest size unnamed =>
    rw [List.cons_append, List.append_assoc]
    exact .unnamed (rest ++ more) size unnamed
  | @inside length name rest _ size named fault =>
    have total : offset + (length :: (name ++ rest)).length =
        offset + (1 + length.toNat) + rest.length := by
      rw [List.length_cons, List.length_append, size]
      omega
    rw [total] at settled
    rw [List.cons_append, List.append_assoc]
    exact .inside size named (fault.append settled more)

/-! ## Faults of robots -/

theorem StepFault.behindSquare (fault : StepFault offset bytes error) : error.BehindSquare := by
  cases fault <;> trivial

theorem InstructionsFault.behindSquare (fault : InstructionsFault offset bytes error) :
    error.BehindSquare := by
  induction fault with
  | here fault => exact fault.behindSquare
  | behind _ _ _ ih => exact ih

theorem RobotFault.behindSquare (fault : RobotFault offset bytes error) : error.BehindSquare := by
  cases fault with
  | ended | name | unnamed => trivial
  | inside _ _ fault => exact fault.behindSquare

end

end Bytecode

namespace Mission

theorem Fault.append {bytes : List UInt8} {error : DecodeError} (fault : Fault bytes error)
    (settled : error.Settled bytes.length) (more : List UInt8) : Fault (bytes ++ more) error := by
  cases fault with
  | ended => exact absurd rfl settled
  | other rest other => exact .other (rest ++ more) other
  | width | height => cases settled
  | square rest flat =>
    rw [List.append_assoc]
    exact .square (rest ++ more) flat
  | @robot mission rest _ positive expressible filled fault =>
    rw [List.length_append] at settled
    rw [List.append_assoc]
    exact .robot positive expressible (List.append_ne_nil_of_left_ne_nil filled more)
      (fault.append settled more)

theorem layout_append (square : Square) (first more : List Robot) :
    (Mission.mk square (first ++ more)).layout =
      (Mission.mk square first).layout ++ more.flatMap Robot.layout := by
  simp only [layout, List.flatMap_append, List.append_assoc]

variable {mission : Mission} {rest : List UInt8}

theorem decode_onward (positive : mission.square.Positive) (expressible : mission.Expressible)
    {more : Mission} (read : decode (mission.square.layout ++ rest) = .ok more) :
    more.square = mission.square ∧
      decode (mission.layout ++ rest) = .ok ⟨mission.square, mission.robots ++ more.robots⟩ := by
  rw [decode_square positive] at read
  cases inside : Bytecode.robots ⟨3, rest⟩ with
  | error fault =>
    rw [inside] at read
    cases read
  | ok found =>
    rw [inside] at read
    cases read
    obtain ⟨others, whole⟩ := Bytecode.layout_of_robots inside
    dsimp only at whole
    have joined : (Mission.mk mission.square (mission.robots ++ found)).Expressible :=
      List.forall_mem_append.2 ⟨expressible, others⟩
    refine ⟨rfl, (decode_eq_ok_iff _ _).2 ⟨positive, joined, ?_⟩⟩
    rw [layout_append, whole]

theorem decode_onward_failed (positive : mission.square.Positive)
    (expressible : mission.Expressible) {error : DecodeError}
    (failed : decode (mission.square.layout ++ rest) = .error error) :
    error.BehindSquare ∧
      decode (mission.layout ++ rest) = .error (error.later (mission.layout.length - 3)) := by
  rw [decode_square positive] at failed
  cases inside : Bytecode.robots ⟨3, rest⟩ with
  | ok found =>
    rw [inside] at failed
    cases failed
  | error fault =>
    rw [inside] at failed
    cases failed
    obtain ⟨before, last, others, split, filled, fault⟩ := Bytecode.fault_of_robots inside
    dsimp only at split fault
    have joined : (Mission.mk mission.square (mission.robots ++ before)).Expressible :=
      List.forall_mem_append.2 ⟨expressible, others⟩
    have square : mission.layout.length = 3 + (mission.robots.flatMap Robot.layout).length :=
      List.length_append
    have size : (Mission.mk mission.square (mission.robots ++ before)).layout.length =
        3 + (before.flatMap Robot.layout).length + (mission.layout.length - 3) := by
      rw [layout_append, List.length_append]
      change mission.layout.length + _ = _
      omega
    have further := fault.later (mission.layout.length - 3)
    rw [← size] at further
    refine ⟨fault.behindSquare, (decode_eq_error_iff _ _).2 ?_⟩
    rw [split, ← List.append_assoc, ← layout_append]
    exact .robot positive joined filled further

theorem settled_of_ne {bytes : List UInt8} {error : DecodeError}
    (inside : ∀ offset field, error ≠ .unexpectedEnd offset field)
    (begun : error ≠ .missingSquare none) (closed : error ≠ .emptyHeading (bytes.length - 1)) :
    error.Settled bytes.length := by
  cases error with
  | missingSquare found =>
    rintro rfl
    exact begun rfl
  | unexpectedEnd offset field => exact inside offset field rfl
  | emptyHeading offset =>
    intro last
    apply closed
    rw [← last, Nat.add_sub_cancel]
  | _ => trivial

/-- Bytes are read in one pass from front to back. What is read of the bytes of a mission with more
behind them is that mission and what is read of the rest behind its square, with errors as much
later. And bytes that are refused stay refused with the same error, unless it is that they end. -/
theorem decode_append (bytes rest : List UInt8) :
    (∀ mission, decode bytes = .ok mission →
      (∀ more, decode (mission.square.layout ++ rest) = .ok more →
        more.square = mission.square ∧
          decode (bytes ++ rest) = .ok ⟨mission.square, mission.robots ++ more.robots⟩) ∧
      (∀ error, decode (mission.square.layout ++ rest) = .error error →
        error.BehindSquare ∧
          decode (bytes ++ rest) = .error (error.later (bytes.length - 3)))) ∧
    (∀ error, decode bytes = .error error → (∀ offset field, error ≠ .unexpectedEnd offset field) →
      error ≠ .missingSquare none → error ≠ .emptyHeading (bytes.length - 1) →
      decode (bytes ++ rest) = .error error) := by
  constructor
  · intro mission read
    obtain ⟨positive, expressible, rfl⟩ := (decode_eq_ok_iff bytes mission).1 read
    exact ⟨fun _ more => decode_onward positive expressible more,
      fun _ failed => decode_onward_failed positive expressible failed⟩
  · intro error failed inside begun closed
    have fault := (decode_eq_error_iff bytes error).1 failed
    exact (decode_eq_error_iff _ _).2 (fault.append (settled_of_ne inside begun closed) rest)

/-- A robot behind a robot, with a heading that has no commands. Where the bytes end they may still
come, but not behind the end of the robot. -/
theorem decode_append_headings :
    decode [1, 5, 3, 1, 66, 3, 8, 0x80] = .ok ⟨⟨5, 3⟩, [⟨"B", [.heading [.right]]⟩]⟩ ∧
      decode [1, 5, 3, 1, 67, 0x80] = .ok ⟨⟨5, 3⟩, [⟨"C", []⟩]⟩ ∧
      decode [1, 5, 3, 1, 66, 3, 8, 0x80, 1, 67, 0x80] =
        .ok ⟨⟨5, 3⟩, [⟨"B", [.heading [.right]]⟩, ⟨"C", []⟩]⟩ ∧
      decode [1, 5, 3, 1, 67, 3] = .error (.emptyHeading 5) ∧
      decode [1, 5, 3, 1, 66, 3, 8, 0x80, 1, 67, 3] = .error (.emptyHeading 10) ∧
      decode [1, 5, 3, 1, 67, 3, 0x80] = .error (.emptyHeading 5) ∧
      decode [1, 5, 3, 1, 67, 3, 0x80, 9] = .error (.emptyHeading 5) := by
  have read : decode [1, 5, 3, 1, 66, 3, 8, 0x80] = .ok ⟨⟨5, 3⟩, [⟨"B", [.heading [.right]]⟩]⟩ :=
    (decode_eq_ok_iff _ _).2 ⟨by decide, by decide +kernel, by decide +kernel⟩
  have more : decode [1, 5, 3, 1, 67, 0x80] = .ok ⟨⟨5, 3⟩, [⟨"C", []⟩]⟩ :=
    (decode_eq_ok_iff _ _).2 ⟨by decide, by decide +kernel, by decide +kernel⟩
  have bare (rest : List UInt8) (stops : Stops Command.isCode rest) :
      decode ([1, 5, 3, 1, 67, 3] ++ rest) = .error (.emptyHeading 5) := by
    have heading : Bytecode.StepFault 5 (Opcode.heading :: rest) (.emptyHeading 5) := .heading stops
    have inside : Bytecode.RobotFault 3 (1 :: ([67] ++ Opcode.heading :: rest)) (.emptyHeading 5) :=
      .inside rfl rfl (.here heading)
    have behind : Fault ((Mission.mk ⟨5, 3⟩ []).layout ++ (1 :: ([67] ++ Opcode.heading :: rest)))
        (.emptyHeading 5) :=
      .robot (by decide) (by decide) (List.cons_ne_nil _ _) inside
    exact (decode_eq_error_iff _ _).2 behind
  have failed := bare [] stops_nil
  have closed := bare [0x80] (stops_cons rfl)
  obtain ⟨onward, _⟩ := decode_append [1, 5, 3, 1, 66, 3, 8, 0x80] [1, 67, 0x80]
  obtain ⟨onward', _⟩ := decode_append [1, 5, 3, 1, 66, 3, 8, 0x80] [1, 67, 3]
  obtain ⟨_, refused⟩ := decode_append [1, 5, 3, 1, 67, 3, 0x80] [9]
  exact ⟨read, more, ((onward _ read).1 _ more).2, failed, ((onward' _ read).2 _ failed).2, closed,
    refused _ closed (fun _ _ => DecodeError.noConfusion) DecodeError.noConfusion (by decide)⟩

end Mission
end ScentedGrid
