import ScentedGrid.Mission
import ScentedGrid.Text.Quoted
import ScentedGrid.Text.Utf8

/-! Missions as bytes. A stream is the square record, then robot after robot: the length of a name in
one byte, the name, records of instructions and the end of the robot. No record of an instruction
begins with a byte that a command may be, so a heading needs no length. The layout is total; a mission
is refused when its layout could not be read back as that mission. -/

namespace ScentedGrid

open Text

/-! ## Codes -/

namespace Opcode

def square : UInt8 := 0x01
def landing : UInt8 := 0x02
def heading : UInt8 := 0x03
def endOfRobot : UInt8 := 0x80

end Opcode

def Direction.code : Direction → UInt8
  | north => 0x04
  | east => 0x05
  | south => 0x06
  | west => 0x07

def Direction.ofCode? (byte : UInt8) : Option Direction :=
  if byte = 0x04 then some north
  else if byte = 0x05 then some east
  else if byte = 0x06 then some south
  else if byte = 0x07 then some west
  else none

def Command.code : Command → UInt8
  | right => 0x08
  | forward => 0x09
  | left => 0x0A

def Command.ofCode? (byte : UInt8) : Option Command :=
  if byte = 0x08 then some right
  else if byte = 0x09 then some forward
  else if byte = 0x0A then some left
  else none

def Command.isCode (byte : UInt8) : Bool := (Command.ofCode? byte).isSome

namespace Bytecode

/-- The longest run of command codes, which may be empty, and the bytes after it. -/
def commandRun (bytes : List UInt8) : List Command × List UInt8 :=
  ((bytes.takeWhile Command.isCode).filterMap Command.ofCode?, bytes.dropWhile Command.isCode)

/-- A name of one byte to a character. -/
def name (bytes : List UInt8) : String :=
  String.ofList (bytes.map fun byte => Char.ofNat byte.toNat)

end Bytecode

theorem Direction.ofCode_code (direction : Direction) :
    ofCode? direction.code = some direction := by
  cases direction <;> rfl

theorem Direction.code_of_ofCode {byte : UInt8} {direction : Direction}
    (read : ofCode? byte = some direction) : direction.code = byte := by
  unfold ofCode? at read
  split at read
  · cases read; simp_all [code]
  · split at read
    · cases read; simp_all [code]
    · split at read
      · cases read; simp_all [code]
      · split at read
        · cases read; simp_all [code]
        · cases read

theorem Command.ofCode_code (command : Command) : ofCode? command.code = some command := by
  cases command <;> rfl

theorem Command.code_of_ofCode {byte : UInt8} {command : Command}
    (read : ofCode? byte = some command) : command.code = byte := by
  unfold ofCode? at read
  split at read
  · cases read; simp_all [code]
  · split at read
    · cases read; simp_all [code]
    · split at read
      · cases read; simp_all [code]
      · cases read

/-! ## Missions -/

inductive EncodeError where
  | invalidName (name : String)
  | nameTooLong (name : String) (length : Nat)
  | emptyHeading (robot : String)
  deriving DecidableEq

def EncodeError.message (visible : Char → Bool) : EncodeError → String
  | invalidName name => "robot name " ++ quoted visible name ++ " is not a valid identifier"
  | nameTooLong name length =>
    "robot name " ++ quoted visible name ++ " is " ++ decimal length ++ " bytes, the limit is 255"
  | emptyHeading robot => "robot " ++ robot ++ " has a heading with no commands"

def Square.layout (square : Square) : List UInt8 := [Opcode.square, square.width, square.height]

def Instruction.layout : Instruction → List UInt8
  | landing x y facing => [Opcode.landing, x, y, facing.code]
  | heading commands => Opcode.heading :: commands.map Command.code

def Robot.layout (robot : Robot) : List UInt8 :=
  UInt8.ofNat (Utf8.encode robot.name).length :: Utf8.encode robot.name ++
    robot.instructions.flatMap Instruction.layout ++ [Opcode.endOfRobot]

def Mission.layout (mission : Mission) : List UInt8 :=
  mission.square.layout ++ mission.robots.flatMap Robot.layout

/-- The first fault in the order of the bytes. -/
def Robot.encodeFault? (robot : Robot) : Option EncodeError :=
  if !isName robot.name.toList then some (.invalidName robot.name)
  else if 255 < (Utf8.encode robot.name).length then
    some (.nameTooLong robot.name (Utf8.encode robot.name).length)
  else if robot.instructions.any Instruction.isEmptyHeading then some (.emptyHeading robot.name)
  else none

def Mission.encode (mission : Mission) : Except EncodeError (List UInt8) :=
  match mission.robots.findSome? Robot.encodeFault? with
  | some fault => .error fault
  | none => .ok mission.layout

end ScentedGrid
