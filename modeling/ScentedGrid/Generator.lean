import ScentedGrid.Draw
import ScentedGrid.Mission

/-! Random missions. Every robot lands on the grid and has one heading. A mission is drawn from any
source of draws; from the engine, the same seed gives the same mission. -/

namespace ScentedGrid

open Text

/-- What is asked of a mission. Sides and headings of zero are read as one. -/
structure Plan where
  width : UInt8
  height : UInt8
  robots : Nat
  commands : Nat

namespace Plan

def standard : Plan := ⟨5, 3, 3, 12⟩

def square (plan : Plan) : Square := ⟨max plan.width 1, max plan.height 1⟩

end Plan

/-- A source of random draws, which a seed sets up. A draw may find no value; a value that it finds is
in its range. -/
structure Sampler (σ : Type) where
  ofSeed : UInt64 → σ
  byteUpTo : UInt8 → σ → Option (UInt8 × σ)
  indexBelow : Nat → σ → Option (Nat × σ)
  byteUpTo_le : ∀ {last value : UInt8} {state next : σ},
    byteUpTo last state = some (value, next) → value.toNat ≤ last.toNat
  indexBelow_lt : ∀ {range value : Nat} {state next : σ}, 0 < range →
    indexBelow range state = some (value, next) → value < range

namespace Sampler

/-- The draws of the engine, with a bound on rejections. -/
def engine (limit : Nat) : Sampler Draw.Engine :=
  { ofSeed := .ofSeed
    byteUpTo := Draw.byteUpTo limit
    indexBelow := Draw.indexBelow limit
    byteUpTo_le := Draw.byteUpTo_le
    indexBelow_lt := Draw.indexBelow_lt }

variable {σ : Type}

def element {α : Type} (sampler : Sampler σ) (choices : List α) (state : σ) : Option (α × σ) :=
  match sampler.indexBelow choices.length state with
  | none => none
  | some (index, state) => choices[index]?.map (·, state)

def drawCommands (sampler : Sampler σ) : Nat → σ → Option (List Command × σ)
  | 0, state => some ([], state)
  | count + 1, state => do
    let (command, state) ← sampler.element Command.all state
    let (rest, state) ← drawCommands sampler count state
    return (command :: rest, state)

def drawRobot (sampler : Sampler σ) (square : Square) (commands index : Nat) (state : σ) :
    Option (Robot × σ) := do
  let (x, state) ← sampler.byteUpTo square.width state
  let (y, state) ← sampler.byteUpTo square.height state
  let (facing, state) ← sampler.element Direction.all state
  let (course, state) ← sampler.drawCommands commands state
  return (⟨"R" ++ decimal index, [.landing x y facing, .heading course]⟩, state)

def drawRobots (sampler : Sampler σ) (square : Square) (commands : Nat) :
    Nat → Nat → σ → Option (List Robot × σ)
  | _, 0, state => some ([], state)
  | index, count + 1, state => do
    let (robot, state) ← sampler.drawRobot square commands index state
    let (rest, state) ← drawRobots sampler square commands (index + 1) count state
    return (robot :: rest, state)

/-- The mission of a plan, drawn from a source in some state. -/
def mission? (sampler : Sampler σ) (plan : Plan) (state : σ) : Option Mission := do
  let (robots, _) ← sampler.drawRobots plan.square (max plan.commands 1) 0 plan.robots state
  return ⟨plan.square, robots⟩

end Sampler

namespace Plan

/-- The mission of a seed, if every draw of the engine finds its value within `limit` words. -/
def mission? (plan : Plan) (limit : Nat) (seed : UInt64) : Option Mission :=
  (Sampler.engine limit).mission? plan (.ofSeed seed)

/-- Far more rejections than any draw will meet: a word is rejected at most every other time. -/
def patience : Nat := UInt32.size

end Plan
end ScentedGrid
