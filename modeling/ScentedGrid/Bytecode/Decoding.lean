import ScentedGrid.Bytecode.Encoding
import ScentedGrid.Text.Digits

/-! Bytes read back as a mission, in one pass from front to back. The first defect ends the
reading and is reported with its offset. -/

namespace ScentedGrid

open Text

/-- What a byte that is not there should have been. -/
inductive Field where
  | squareWidth
  | squareHeight
  | nameLength
  | name
  | opcode
  | landingX
  | landingY
  | landingDirection
  deriving DecidableEq

def Field.text : Field → String
  | squareWidth => "square width"
  | squareHeight => "square height"
  | nameLength => "robot name length"
  | name => "robot name"
  | opcode => "opcode or end of robot"
  | landingX => "landing x"
  | landingY => "landing y"
  | landingDirection => "landing direction"

inductive DecodeError where
  | missingSquare (found : Option UInt8)
  | invalidSquare (width height : UInt8)
  | unexpectedEnd (offset : Nat) (expected : Field)
  | unknownOpcode (offset : Nat) (byte : UInt8)
  | invalidDirection (offset : Nat) (byte : UInt8)
  | emptyHeading (offset : Nat)
  | invalidName (offset : Nat)
  deriving DecidableEq

namespace DecodeError

def offsetText (offset : Nat) : String := "offset 0x" ++ hexSmall 4 offset

def byteText (byte : UInt8) : String := "0x" ++ hexSmall 2 byte.toNat

def message : DecodeError → String
  | missingSquare found =>
    "invalid bytecode format: missing square definition (found " ++
      (match found with
        | none => "None"
        | some byte => "Some(" ++ decimal byte.toNat ++ ")") ++ ")"
  | invalidSquare width height =>
    "invalid square dimensions " ++ decimal width.toNat ++ "x" ++ decimal height.toNat ++
      ": both must be > 0"
  | unexpectedEnd offset expected =>
    "unexpected end of bytecode at " ++ offsetText offset ++ ": expected " ++ expected.text
  | unknownOpcode offset byte => "unknown opcode " ++ byteText byte ++ " at " ++ offsetText offset
  | invalidDirection offset byte =>
    "invalid direction code " ++ byteText byte ++ " at " ++ offsetText offset
  | emptyHeading offset => "heading at " ++ offsetText offset ++ " has no commands"
  | invalidName offset => "invalid robot name at " ++ offsetText offset

end DecodeError

namespace Bytecode

/-- The bytes that remain and the number of bytes before them. -/
structure Cursor where
  offset : Nat
  bytes : List UInt8

def Cursor.skip (cursor : Cursor) (count : Nat) : Cursor :=
  ⟨cursor.offset + count, cursor.bytes.drop count⟩

/-- What stands where an instruction or the end of a robot has to stand. -/
inductive Step where
  | endOfRobot (rest : Cursor)
  | instruction (found : Instruction) (rest : Cursor)

def Step.rest : Step → Cursor
  | endOfRobot rest => rest
  | instruction _ rest => rest

/-- The record at the head of the bytes inside a robot. -/
def step (cursor : Cursor) : Except DecodeError Step :=
  match cursor.bytes with
  | [] => .error (.unexpectedEnd cursor.offset .opcode)
  | opcode :: rest =>
    if opcode = Opcode.endOfRobot then .ok (.endOfRobot (cursor.skip 1))
    else if opcode = Opcode.landing then
      match rest with
      | [] => .error (.unexpectedEnd (cursor.offset + 1) .landingX)
      | [_] => .error (.unexpectedEnd (cursor.offset + 2) .landingY)
      | [_, _] => .error (.unexpectedEnd (cursor.offset + 3) .landingDirection)
      | x :: y :: code :: _ =>
        match Direction.ofCode? code with
        | none => .error (.invalidDirection (cursor.offset + 3) code)
        | some facing => .ok (.instruction (.landing x y facing) (cursor.skip 4))
    else if opcode = Opcode.heading then
      let commands := (commandRun rest).1
      if commands.isEmpty then .error (.emptyHeading cursor.offset)
      else .ok (.instruction (.heading commands) (cursor.skip (1 + commands.length)))
    else .error (.unknownOpcode cursor.offset opcode)

theorem step_shorter {cursor : Cursor} {found : Step} (read : step cursor = .ok found) :
    found.rest.bytes.length < cursor.bytes.length := by
  unfold step at read
  split at read
  · cases read
  · next nonempty =>
    split at read
    · cases read
      simp only [Step.rest, Cursor.skip, nonempty, List.length_drop, List.length_cons]
      omega
    · split at read
      · split at read
        · cases read
        · cases read
        · cases read
        · split at read
          · cases read
          · cases read
            simp only [Step.rest, Cursor.skip, nonempty, List.length_drop, List.length_cons]
            omega
      · split at read
        · simp only at read
          split at read
          · cases read
          · cases read
            simp only [Step.rest, Cursor.skip, nonempty, List.length_drop, List.length_cons]
            omega
        · cases read

/-- The instructions up to the end of the robot. -/
def instructions (cursor : Cursor) : Except DecodeError (List Instruction × Cursor) :=
  match _ : step cursor with
  | .error fault => .error fault
  | .ok (.endOfRobot rest) => .ok ([], rest)
  | .ok (.instruction found rest) =>
    match instructions rest with
    | .error fault => .error fault
    | .ok (more, rest) => .ok (found :: more, rest)
termination_by cursor.bytes.length
decreasing_by exact step_shorter (by assumption : step cursor = .ok (.instruction found rest))

def robot (cursor : Cursor) : Except DecodeError (Robot × Cursor) :=
  match cursor.bytes with
  | [] => .error (.unexpectedEnd cursor.offset .nameLength)
  | length :: rest =>
    if (rest.take length.toNat).length < length.toNat then
      .error (.unexpectedEnd (cursor.offset + cursor.bytes.length) .name)
    else if !isNameBytes (rest.take length.toNat) then .error (.invalidName cursor.offset)
    else
      match instructions (cursor.skip (1 + length.toNat)) with
      | .error fault => .error fault
      | .ok (found, after) => .ok (⟨name (rest.take length.toNat), found⟩, after)

theorem instructions_shorter {cursor rest : Cursor} {found : List Instruction}
    (read : instructions cursor = .ok (found, rest)) :
    rest.bytes.length < cursor.bytes.length := by
  fun_induction instructions cursor generalizing found rest with
  | case1 => cases read
  | case2 _ _ ending =>
    cases read
    exact step_shorter ending
  | case3 => cases read
  | case4 _ _ _ first _ _ deeper ih =>
    cases read
    exact Nat.lt_trans (ih deeper) (step_shorter first)

theorem robot_shorter {cursor rest : Cursor} {found : Robot}
    (read : robot cursor = .ok (found, rest)) : rest.bytes.length < cursor.bytes.length := by
  unfold robot at read
  split at read
  · cases read
  · split at read
    · cases read
    · split at read
      · cases read
      · split at read
        · cases read
        · next deeper =>
          cases read
          exact Nat.lt_of_lt_of_le (instructions_shorter deeper) (by simp [Cursor.skip])

def robots (cursor : Cursor) : Except DecodeError (List Robot) :=
  if cursor.bytes.isEmpty then .ok []
  else
    match _ : robot cursor with
    | .error fault => .error fault
    | .ok (first, rest) =>
      match robots rest with
      | .error fault => .error fault
      | .ok more => .ok (first :: more)
termination_by cursor.bytes.length
decreasing_by exact robot_shorter (by assumption)

end Bytecode

def Mission.decode (bytes : List UInt8) : Except DecodeError Mission :=
  match bytes with
  | [] => .error (.missingSquare none)
  | first :: rest =>
    if first ≠ Opcode.square then .error (.missingSquare (some first))
    else
      match rest with
      | [] => .error (.unexpectedEnd 1 .squareWidth)
      | [_] => .error (.unexpectedEnd 2 .squareHeight)
      | width :: height :: rest =>
        if width = 0 ∨ height = 0 then .error (.invalidSquare width height)
        else
          match Bytecode.robots ⟨3, rest⟩ with
          | .error fault => .error fault
          | .ok found => .ok ⟨⟨width, height⟩, found⟩

end ScentedGrid
