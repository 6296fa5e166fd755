import ScentedGrid.Generator
import ScentedGrid.Proofs.Simulation.Trajectory

/-! Generated missions. A number drawn from a range is in the range, so every robot of a generated
mission lands, and lands on the grid. Nothing else about a source of draws matters for that: missions
drawn from any of them have the same shape. -/

namespace ScentedGrid

open Text

/-! ## Missions that are drawn -/

namespace Sampler

/-- No draw from a range that holds anything fails to find a value. -/
structure Finds {σ : Type} (sampler : Sampler σ) : Prop where
  byteUpTo : ∀ last state, (sampler.byteUpTo last state).isSome
  indexBelow : ∀ {range}, 0 < range → ∀ state, (sampler.indexBelow range state).isSome

section

variable {σ : Type} {sampler : Sampler σ}

/-- An index that was drawn has an element. -/
theorem element_found (finds : sampler.Finds) {α : Type} {choices : List α} (filled : choices ≠ [])
    (state : σ) : ∃ drawn, sampler.element choices state = some drawn := by
  have range := List.length_pos_iff.2 filled
  obtain ⟨⟨index, next⟩, drawn⟩ := Option.isSome_iff_exists.1 (finds.indexBelow range state)
  have inside := sampler.indexBelow_lt range drawn
  rw [element, drawn]
  simp only [List.getElem?_eq_getElem inside]
  exact ⟨_, rfl⟩

theorem drawCommands_found (finds : sampler.Finds) (count : Nat) (state : σ) :
    ∃ drawn, sampler.drawCommands count state = some drawn := by
  induction count generalizing state with
  | zero => exact ⟨_, rfl⟩
  | succ count ih =>
    obtain ⟨command, first⟩ := element_found finds (by decide : Command.all ≠ []) state
    obtain ⟨rest, others⟩ := ih command.2
    simp only [drawCommands, first, others, Option.bind_eq_bind, Option.bind_some, Option.pure_def]
    exact ⟨_, rfl⟩

theorem drawRobot_found (finds : sampler.Finds) (square : Square) (commands index : Nat)
    (state : σ) : ∃ drawn, sampler.drawRobot square commands index state = some drawn := by
  obtain ⟨x, drawnX⟩ := Option.isSome_iff_exists.1 (finds.byteUpTo square.width state)
  obtain ⟨y, drawnY⟩ := Option.isSome_iff_exists.1 (finds.byteUpTo square.height x.2)
  obtain ⟨facing, drawnFacing⟩ := element_found finds (by decide : Direction.all ≠ []) y.2
  obtain ⟨course, drawnCourse⟩ := drawCommands_found finds commands facing.2
  simp only [drawRobot, drawnX, drawnY, drawnFacing, drawnCourse, Option.bind_eq_bind,
    Option.bind_some, Option.pure_def]
  exact ⟨_, rfl⟩

theorem drawRobots_found (finds : sampler.Finds) (square : Square) (commands index count : Nat)
    (state : σ) : ∃ drawn, sampler.drawRobots square commands index count state = some drawn := by
  induction count generalizing index state with
  | zero => exact ⟨_, rfl⟩
  | succ count ih =>
    obtain ⟨robot, first⟩ := drawRobot_found finds square commands index state
    obtain ⟨rest, others⟩ := ih (index + 1) robot.2
    simp only [drawRobots, first, others, Option.bind_eq_bind, Option.bind_some, Option.pure_def]
    exact ⟨_, rfl⟩

theorem mission?_found (finds : sampler.Finds) (plan : Plan) (state : σ) :
    ∃ mission, sampler.mission? plan state = some mission := by
  obtain ⟨robots, drawn⟩ :=
    drawRobots_found finds plan.square (max plan.commands 1) 0 plan.robots state
  simp only [mission?, drawn, Option.bind_eq_bind, Option.bind_some, Option.pure_def]
  exact ⟨_, rfl⟩

end

end Sampler

/-! ## Shapes -/

/-- One landing on the grid, and under it one heading. -/
def Robot.Generated (robot : Robot) (square : Square) (commands index : Nat) : Prop :=
  ∃ x y facing course, robot = ⟨"R" ++ decimal index, [.landing x y facing, .heading course]⟩ ∧
    square.holds ⟨x.toNat, y.toNat, facing⟩ = true ∧ course.length = commands

structure Mission.Generated (mission : Mission) (plan : Plan) : Prop where
  square : mission.square = plan.square
  count : mission.robots.length = plan.robots
  robots : ∀ index (robot : Robot), mission.robots[index]? = some robot →
    robot.Generated plan.square (max plan.commands 1) index

namespace Sampler

variable {σ : Type} {sampler : Sampler σ} {state next : σ} {square : Square}
  {commands index count : Nat}

theorem drawCommands_length {course : List Command}
    (drawn : sampler.drawCommands count state = some (course, next)) : course.length = count := by
  induction count generalizing state next course with
  | zero =>
    cases drawn
    rfl
  | succ count ih =>
    simp only [drawCommands, Option.bind_eq_bind, Option.bind_eq_some_iff, Option.pure_def,
      Option.some.injEq, Prod.mk.injEq, Prod.exists] at drawn
    obtain ⟨first, _, _, rest, _, drawnRest, rfl, _⟩ := drawn
    rw [List.length_cons, ih drawnRest]

theorem drawRobot_generated {robot : Robot}
    (drawn : sampler.drawRobot square commands index state = some (robot, next)) :
    robot.Generated square commands index := by
  simp only [drawRobot, Option.bind_eq_bind, Option.bind_eq_some_iff, Option.pure_def,
    Option.some.injEq, Prod.mk.injEq, Prod.exists] at drawn
  obtain ⟨x, _, drawnX, y, _, drawnY, facing, _, _, course, _, drawnCourse, rfl, _⟩ := drawn
  have across := sampler.byteUpTo_le drawnX
  have up := sampler.byteUpTo_le drawnY
  have inside : square.holds ⟨x.toNat, y.toNat, facing⟩ = true := by
    rw [Square.holds_iff]
    simp only
    omega
  exact ⟨x, y, facing, course, rfl, inside, drawCommands_length drawnCourse⟩

theorem drawRobots_generated {robots : List Robot}
    (drawn : sampler.drawRobots square commands index count state = some (robots, next)) :
    robots.length = count ∧ ∀ place (robot : Robot), robots[place]? = some robot →
      robot.Generated square commands (index + place) := by
  induction count generalizing index state next robots with
  | zero =>
    cases drawn
    exact ⟨rfl, fun place robot taken => by simp at taken⟩
  | succ count ih =>
    simp only [drawRobots, Option.bind_eq_bind, Option.bind_eq_some_iff, Option.pure_def,
      Option.some.injEq, Prod.mk.injEq, Prod.exists] at drawn
    obtain ⟨first, _, drawnFirst, rest, _, drawnRest, rfl, _⟩ := drawn
    obtain ⟨length, others⟩ := ih drawnRest
    refine ⟨by rw [List.length_cons, length], fun place robot taken => ?_⟩
    cases place with
    | zero =>
      cases taken
      exact drawRobot_generated drawnFirst
    | succ place =>
      have later := others place robot taken
      rwa [Nat.add_assoc, Nat.add_comm 1 place] at later

theorem mission?_generated {plan : Plan} {mission : Mission}
    (drawn : sampler.mission? plan state = some mission) : mission.Generated plan := by
  simp only [mission?, Option.bind_eq_bind, Option.bind_eq_some_iff, Option.pure_def,
    Option.some.injEq, Prod.exists] at drawn
  obtain ⟨robots, _, drawn, rfl⟩ := drawn
  obtain ⟨length, generated⟩ := drawRobots_generated drawn
  refine ⟨rfl, length, fun index robot taken => ?_⟩
  have made := generated index robot taken
  rwa [Nat.zero_add] at made

end Sampler

theorem Robot.Generated.lands {robot : Robot} {square : Square} {commands index : Nat}
    (generated : robot.Generated square commands index) :
    ∃ landing, robot.landing? = some landing ∧ square.holds landing.pose = true := by
  obtain ⟨x, y, facing, course, rfl, inside, _⟩ := generated
  exact ⟨⟨0, x, y, facing, [.heading course]⟩, rfl, inside⟩

theorem Mission.Generated.lands {plan : Plan} {mission : Mission}
    (generated : mission.Generated plan) : mission.Lands ∧ mission.LandsInside := by
  apply Mission.lands_of_inside
  intro robot member
  obtain ⟨index, taken⟩ := List.getElem?_of_mem member
  have made := generated.robots index robot taken
  rw [← generated.square] at made
  exact made.lands

/-- The robots of a generated mission all land, and on its grid. -/
theorem Plan.mission_lands {plan : Plan} {limit : Nat} {seed : UInt64} {mission : Mission}
    (drawn : plan.mission? limit seed = some mission) : mission.Lands ∧ mission.LandsInside :=
  (Sampler.mission?_generated drawn).lands

end ScentedGrid
