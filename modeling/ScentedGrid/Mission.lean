import ScentedGrid.Grid
import ScentedGrid.Text.Digits

/-! Missions: a square and the robots to drop on it, in order. The types admit names,
sides and headings that no mission text can hold; what a reader or a code refuses is said
where it is refused. -/

namespace ScentedGrid

open Text

/-- Turn right, step forward, turn left. -/
inductive Command where
  | right
  | forward
  | left
  deriving DecidableEq

namespace Command

def all : List Command := [right, forward, left]

def letter : Command → Char
  | right => 'R'
  | forward => 'F'
  | left => 'L'

def ofLetter? : Char → Option Command
  | 'R' => some right
  | 'F' => some forward
  | 'L' => some left
  | _ => none

theorem ofLetter_letter (command : Command) : ofLetter? command.letter = some command := by
  cases command <;> rfl

theorem letter_of_ofLetter {c : Char} {command : Command} (read : ofLetter? c = some command) :
    command.letter = c := by
  unfold ofLetter? at read
  split at read <;> simp_all [letter] <;> subst read <;> rfl

end Command

inductive Instruction where
  | landing (x y : UInt8) (facing : Direction)
  | heading (commands : List Command)
  deriving DecidableEq

namespace Instruction

/-- A landing commands nothing. -/
def commands : Instruction → List Command
  | landing _ _ _ => []
  | heading commands => commands

def isEmptyHeading : Instruction → Bool
  | heading [] => true
  | _ => false

end Instruction

structure Robot where
  name : String
  instructions : List Instruction
  deriving DecidableEq

structure Mission where
  square : Square
  robots : List Robot
  deriving DecidableEq

/-- A letter or digit of ASCII, or an underscore. -/
def isNameChar (c : Char) : Bool := c.isAlphanum || c == '_'

def isName (characters : List Char) : Bool := !characters.isEmpty && characters.all isNameChar

/-- Bytes that spell a name, one byte to a character. -/
def isNameBytes (bytes : List UInt8) : Bool := isName (bytes.map fun byte => Char.ofNat byte.toNat)

/-- The first landing of an instruction list: where it stands, what it says and what follows it. -/
structure Landing where
  index : Nat
  x : UInt8
  y : UInt8
  facing : Direction
  after : List Instruction

namespace Landing

def first? : List Instruction → Option Landing
  | [] => none
  | .landing x y facing :: rest => some ⟨0, x, y, facing, rest⟩
  | .heading _ :: rest => (first? rest).map fun landing => { landing with index := landing.index + 1 }

def pose (landing : Landing) : Pose := ⟨landing.x.toNat, landing.y.toNat, landing.facing⟩

/-- Every command after the landing; later landings add none. -/
def course (landing : Landing) : List Command := landing.after.flatMap Instruction.commands

end Landing

/-- A robot starts at its first landing, and what comes before it is skipped. -/
def Robot.landing? (robot : Robot) : Option Landing := Landing.first? robot.instructions

/-! ## Text

The one text that is written for a mission: single spaces, no blanks at the start of a line and one
empty line between two robots. -/

def Square.source (square : Square) : String :=
  "Square " ++ decimal square.width.toNat ++ " " ++ decimal square.height.toNat ++ "\n"

def Instruction.source : Instruction → String
  | landing x y facing =>
    "Move " ++ decimal x.toNat ++ " " ++ decimal y.toNat ++ " " ++
      String.singleton facing.letter ++ "\n"
  | heading commands => "Rotate " ++ String.ofList (commands.map Command.letter) ++ "\n"

def Robot.source (robot : Robot) : String :=
  robot.name ++ "\n" ++ String.join (robot.instructions.map Instruction.source)

def Mission.source (mission : Mission) : String :=
  mission.square.source ++ "\n".intercalate (mission.robots.map Robot.source)

end ScentedGrid
