/-! The grid and what stands on it: compass directions, poses and the inclusive
square `[0, width] × [0, height]`. -/

namespace ScentedGrid

inductive Direction where
  | north
  | east
  | south
  | west
  deriving DecidableEq

namespace Direction

/-- Clockwise from north. -/
def all : List Direction := [north, east, south, west]

def clockwise : Direction → Direction
  | north => east
  | east => south
  | south => west
  | west => north

def counterclockwise : Direction → Direction
  | north => west
  | west => south
  | south => east
  | east => north

/-- What one step adds to the two coordinates. -/
def step : Direction → Int × Int
  | north => (0, 1)
  | east => (1, 0)
  | south => (0, -1)
  | west => (-1, 0)

def letter : Direction → Char
  | north => 'N'
  | east => 'E'
  | south => 'S'
  | west => 'W'

def ofLetter? : Char → Option Direction
  | 'N' => some north
  | 'E' => some east
  | 'S' => some south
  | 'W' => some west
  | _ => none

theorem counterclockwise_clockwise (direction : Direction) :
    direction.clockwise.counterclockwise = direction := by
  cases direction <;> rfl

theorem clockwise_counterclockwise (direction : Direction) :
    direction.counterclockwise.clockwise = direction := by
  cases direction <;> rfl

theorem ofLetter_letter (direction : Direction) : ofLetter? direction.letter = some direction := by
  cases direction <;> rfl

theorem letter_of_ofLetter {c : Char} {direction : Direction} (read : ofLetter? c = some direction) :
    direction.letter = c := by
  unfold ofLetter? at read
  split at read <;> simp_all [letter] <;> subst read <;> rfl

end Direction

/-- A position and the direction faced there. -/
structure Pose where
  x : Int
  y : Int
  facing : Direction
  deriving DecidableEq

namespace Pose

/-- The pose one step ahead, whether or not it is on any grid. -/
def ahead (pose : Pose) : Pose :=
  ⟨pose.x + pose.facing.step.1, pose.y + pose.facing.step.2, pose.facing⟩

def turnedRight (pose : Pose) : Pose := ⟨pose.x, pose.y, pose.facing.clockwise⟩

def turnedLeft (pose : Pose) : Pose := ⟨pose.x, pose.y, pose.facing.counterclockwise⟩

end Pose

/-- The sides of the grid. Both ends count, so a `5 × 3` square has 6 columns and 4 rows. -/
structure Square where
  width : UInt8
  height : UInt8
  deriving DecidableEq

def Square.contains (square : Square) (x y : Int) : Bool :=
  decide (0 ≤ x) && decide (x ≤ square.width.toNat) &&
    decide (0 ≤ y) && decide (y ≤ square.height.toNat)

/-- The pose stands on the grid. -/
def Square.holds (square : Square) (pose : Pose) : Bool := square.contains pose.x pose.y

end ScentedGrid
