import Mathlib.Data.List.Nodup
import ScentedGrid.Proofs.Simulation.Trajectory

/-! Symmetries of the grid. A map of poses that keeps what is on the grid, steps and turns carries
whole missions over: all that the mission of the image tells and answers is the image of what the
mission itself tells and answers. Quarter turns and mirrors are such maps, so no side of the grid is
treated differently from another. -/

namespace ScentedGrid

variable {σ : Type}

def Direction.mirrored : Direction → Direction
  | north => north
  | east => west
  | south => south
  | west => east

def Command.mirrored : Command → Command
  | right => left
  | forward => forward
  | left => right

/-- The pose after a turn on the spot; a forward step is none. -/
def Pose.turned (pose : Pose) : Command → Pose
  | .right => pose.turnedRight
  | .forward => pose
  | .left => pose.turnedLeft

/-- Poses carried over to another grid, together with the commands that do there what a command
does here. -/
structure Symmetry (square : Square) where
  image : Square
  pose : Pose → Pose
  command : Command → Command
  injective : Function.Injective pose
  holds : ∀ p, image.holds (pose p) = square.holds p
  ahead : ∀ p, pose p.ahead = (pose p).ahead
  turned : ∀ p c, pose (p.turned c) = (pose p).turned (command c)
  forward : ∀ c, command c = .forward ↔ c = .forward

namespace Symmetry

/-- A quarter turn clockwise. -/
def quarterTurn (square : Square) : Symmetry square where
  image := ⟨square.height, square.width⟩
  pose p := ⟨p.y, square.width.toNat - p.x, p.facing.clockwise⟩
  command c := c
  injective := by
    intro p q same
    obtain ⟨x, y, facing⟩ := p
    obtain ⟨x', y', facing'⟩ := q
    simp only [Pose.mk.injEq] at same ⊢
    obtain ⟨rfl, sameX, turned⟩ := same
    refine ⟨by omega, rfl, ?_⟩
    rw [← facing.counterclockwise_clockwise, turned, facing'.counterclockwise_clockwise]
  holds p := by
    rw [Bool.eq_iff_iff, Square.holds_iff, Square.holds_iff]
    change 0 ≤ p.y ∧ p.y ≤ square.height.toNat ∧ 0 ≤ square.width.toNat - p.x ∧
      square.width.toNat - p.x ≤ square.width.toNat ↔ _
    omega
  ahead p := by
    obtain ⟨x, y, facing⟩ := p
    cases facing <;> simp only [Pose.ahead, Direction.step, Direction.clockwise, Pose.mk.injEq,
      true_and, and_true] <;> omega
  turned p c := by
    obtain ⟨x, y, facing⟩ := p
    cases c <;> cases facing <;> rfl
  forward _ := Iff.rfl

/-- East and west change places, and so do right and left turns. -/
def mirror (square : Square) : Symmetry square where
  image := square
  pose p := ⟨square.width.toNat - p.x, p.y, p.facing.mirrored⟩
  command := Command.mirrored
  injective := by
    have back (direction : Direction) : direction.mirrored.mirrored = direction := by
      cases direction <;> rfl
    intro p q same
    obtain ⟨x, y, facing⟩ := p
    obtain ⟨x', y', facing'⟩ := q
    simp only [Pose.mk.injEq] at same ⊢
    obtain ⟨sameX, rfl, mirrored⟩ := same
    refine ⟨by omega, rfl, ?_⟩
    rw [← back facing, mirrored, back facing']
  holds p := by
    rw [Bool.eq_iff_iff, Square.holds_iff, Square.holds_iff]
    change 0 ≤ square.width.toNat - p.x ∧ square.width.toNat - p.x ≤ square.width.toNat ∧
      0 ≤ p.y ∧ p.y ≤ square.height.toNat ↔ _
    omega
  ahead p := by
    obtain ⟨x, y, facing⟩ := p
    cases facing <;> simp only [Pose.ahead, Direction.step, Direction.mirrored, Pose.mk.injEq,
      and_true] <;> omega
  turned p c := by
    obtain ⟨x, y, facing⟩ := p
    cases c <;> cases facing <;> rfl
  forward c := by cases c <;> decide

end Symmetry

/-! ## Images -/

/-- The pose of a landing that names the coordinates. -/
theorem Landing.pose_named {pose : Pose} (bytes : pose.InBytes) {index : Nat}
    {after : List Instruction} :
    (Landing.mk index (UInt8.ofNat pose.x.toNat) (UInt8.ofNat pose.y.toNat) pose.facing
      after).pose = pose := by
  obtain ⟨x, y, facing⟩ := pose
  simp only [Pose.InBytes] at bytes
  simp only [Landing.pose, Pose.mk.injEq, and_true, UInt8.toNat_ofNat']
  omega

/-- The distance of a byte on the grid from the eastern edge is a byte. -/
theorem Square.across_byte {square : Square} {x y : UInt8}
    (contained : square.contains x.toNat y.toNat = true) :
    UInt8.ofNat ((square.width.toNat : Int) - x.toNat).toNat = square.width - x := by
  have inside : square.holds ⟨x.toNat, y.toNat, .north⟩ = true := contained
  have bounds := holds_iff.1 inside
  dsimp only at bounds
  have wide : x ≤ square.width := by
    rw [UInt8.le_iff_toNat_le]
    omega
  apply UInt8.toNat_inj.1
  rw [UInt8.toNat_sub_of_le _ _ wide, UInt8.toNat_ofNat']
  have := square.width.toNat_lt
  omega

/-- A pose on a grid has coordinates that a landing can name. -/
def Instruction.image {square : Square} (symmetry : Symmetry square) : Instruction → Instruction
  | landing x y facing =>
    let pose := symmetry.pose ⟨x.toNat, y.toNat, facing⟩
    landing (UInt8.ofNat pose.x.toNat) (UInt8.ofNat pose.y.toNat) pose.facing
  | heading commands => heading (commands.map symmetry.command)

def Robot.image {square : Square} (symmetry : Symmetry square) (robot : Robot) : Robot :=
  ⟨robot.name, robot.instructions.map (Instruction.image symmetry)⟩

def Mission.image (mission : Mission) (symmetry : Symmetry mission.square) : Mission :=
  ⟨symmetry.image, mission.robots.map (Robot.image symmetry)⟩

def Outcome.image {square : Square} (symmetry : Symmetry square) (outcome : Outcome) : Outcome :=
  ⟨outcome.name, symmetry.pose outcome.pose, outcome.lost⟩

def Event.image {square : Square} (symmetry : Symmetry square) : Event → Event
  | start _ robots => start symmetry.image (robots.map (Robot.image symmetry))
  | tryingMove robot pose => tryingMove robot (symmetry.pose pose)
  | lost robot pose => lost robot (symmetry.pose pose)
  | moved robot pose => moved robot (symmetry.pose pose)
  | results outcomes => results (outcomes.map (Outcome.image symmetry))

def Simulation.Walk.image {square : Square} (symmetry : Symmetry square) (walk : Walk) : Walk :=
  ⟨walk.events.map (Event.image symmetry), walk.outcome.image symmetry⟩

def Report.image {square : Square} (symmetry : Symmetry square) (report : Report) : Report :=
  ⟨report.answer.map (Outcome.image symmetry), report.events.map (Event.image symmetry)⟩

def Scent.image {square : Square} (symmetry : Symmetry square) (scent : Scent) : Scent :=
  ⟨scent.poses.map symmetry.pose, scent.nodup.map symmetry.injective⟩

def World.image {square : Square} (symmetry : Symmetry square) (world : World σ) : World σ :=
  ⟨world.scent.image symmetry, world.out⟩

/-- Offers the sink another event in place of each. -/
def Sink.through (sink : Sink σ) (view : Event → Event) : Sink σ :=
  ⟨fun out event => sink.offer out (view event)⟩

section

variable {square : Square} {symmetry : Symmetry square}

theorem Scent.mem_image {scent : Scent} {pose : Pose} :
    symmetry.pose pose ∈ (scent.image symmetry).poses ↔ pose ∈ scent.poses :=
  List.mem_map_of_injective symmetry.injective

theorem Scent.mark_image (scent : Scent) (pose : Pose) :
    (scent.image symmetry).mark (symmetry.pose pose) = (scent.mark pose).image symmetry := by
  apply Scent.ext
  by_cases scented : pose ∈ scent.poses
  · have carried : symmetry.pose pose ∈ (scent.image symmetry).poses := mem_image.2 scented
    simp only [mark, dif_pos scented, dif_pos carried]
  · have carried : symmetry.pose pose ∉ (scent.image symmetry).poses := mt mem_image.1 scented
    simp only [mark, dif_neg scented, dif_neg carried]
    rfl

theorem Scent.after_image (scent : Scent) (event : Event) :
    (scent.image symmetry).after (event.image symmetry) = (scent.after event).image symmetry := by
  cases event with
  | lost robot pose => exact scent.mark_image pose
  | _ => rfl

theorem Scent.afterAll_image (scent : Scent) (events : List Event) :
    (scent.image symmetry).afterAll (events.map (Event.image symmetry)) =
      (scent.afterAll events).image symmetry := by
  induction events generalizing scent with
  | nil => rfl
  | cons event rest ih =>
    rw [List.map_cons, Scent.afterAll_cons, Scent.afterAll_cons, Scent.after_image, ih]

/-- Told the images of events, a sink does what it does if it is offered their images. -/
theorem World.tellAll_image (sink : Sink σ) (events : List Event) (world : World σ) :
    (world.image symmetry).tellAll sink (events.map (Event.image symmetry)) =
      (world.tellAll (sink.through (Event.image symmetry)) events).map (World.image symmetry) id := by
  induction events generalizing world with
  | nil => rfl
  | cons event rest ih =>
    have happens : (world.image symmetry).happen (event.image symmetry) =
        (world.happen event).image symmetry := by
      simp only [happen, image, Scent.after_image]
    cases told : (world.happen event).tell (sink.through (Event.image symmetry)) event with
    | mk next fault =>
      have carried : ((world.image symmetry).happen (event.image symmetry)).tell sink
          (event.image symmetry) = (next.image symmetry, fault) := by
        rw [happens]
        exact congrArg (Prod.map (World.image symmetry) id) told
      cases fault with
      | some fault =>
        rw [List.map_cons, tellAll_refused carried, tellAll_refused told]
        rfl
      | none =>
        rw [List.map_cons, tellAll_heard carried, tellAll_heard told]
        exact ih next

theorem World.answering_map {α β τ : Type} (carry : α → β) (place : World σ → World τ)
    (answer : Except RunError α) (told : World σ × Option RunError) :
    answering (answer.map carry) (told.map place id) =
      (answering answer told).map (Except.map carry) place := by
  obtain ⟨world, fault⟩ := told
  cases fault <;> rfl

/-! ## Walks -/

/-- Where a pose on the grid is carried to, a landing can name. -/
theorem Symmetry.pose_inBytes {pose : Pose} (inside : square.holds pose = true) :
    (symmetry.pose pose).InBytes :=
  Pose.inBytes_of_holds ((symmetry.holds pose).trans inside)

/-- The first landing of an image is that of the first landing, if this is on the grid. -/
theorem Landing.first_image (symmetry : Symmetry square) {instructions : List Instruction}
    {landing : Landing}
    (found : first? instructions = some landing) (inside : square.holds landing.pose = true) :
    ∃ carried, first? (instructions.map (Instruction.image symmetry)) = some carried ∧
      carried.pose = symmetry.pose landing.pose ∧
      carried.course = landing.course.map symmetry.command := by
  induction instructions generalizing landing with
  | nil => cases found
  | cons first rest ih =>
    cases first with
    | heading commands =>
      obtain ⟨later, among, rfl⟩ := Option.map_eq_some_iff.1 found
      obtain ⟨carried, there, pose, course⟩ := ih among inside
      refine ⟨{ carried with index := carried.index + 1 }, ?_, pose, course⟩
      rw [List.map_cons, Instruction.image, first?, there]
      rfl
    | landing x y facing =>
      cases found
      refine ⟨_, rfl, ?_, ?_⟩
      · have bytes : (symmetry.pose ⟨x.toNat, y.toNat, facing⟩).InBytes :=
          Symmetry.pose_inBytes inside
        exact Landing.pose_named bytes
      · have commands (instruction : Instruction) : (instruction.image symmetry).commands =
            instruction.commands.map symmetry.command := by
          cases instruction <;> rfl
        simp only [course, List.flatMap_map, List.map_flatMap, commands]

theorem Landing.first_image_isNone (symmetry : Symmetry square) (instructions : List Instruction) :
    (first? (instructions.map (Instruction.image symmetry))).isNone =
      (first? instructions).isNone := by
  induction instructions with
  | nil => rfl
  | cons first rest ih =>
    cases first with
    | landing => rfl
    | heading commands =>
      rw [List.map_cons, Instruction.image, first?, first?, Option.isNone_map, Option.isNone_map, ih]

namespace Simulation

theorem walk_turned {scent : Scent} {command : Command} (turns : command ≠ .forward)
    (robot : String) (rest : List Command) (pose : Pose) :
    walk square scent robot (command :: rest) pose =
      walk square scent robot rest (pose.turned command) := by
  cases command with
  | forward => exact absurd rfl turns
  | right | left => rfl

/-- The image of a robot walks the image of its walk. -/
theorem Walks.image {scent : Scent} {robot : String} {course : List Command} {pose : Pose}
    {walk : Walk} (walks : Walks square scent robot course pose walk) :
    Simulation.walk symmetry.image (scent.image symmetry) robot (course.map symmetry.command)
      (symmetry.pose pose) = walk.image symmetry := by
  have forward : symmetry.command .forward = .forward := (symmetry.forward _).2 rfl
  induction walks with
  | done => rfl
  | @right _ pose _ _ ih =>
    have turns : symmetry.command .right ≠ .forward := by simp [symmetry.forward]
    rw [List.map_cons, walk_turned turns, ← symmetry.turned]
    exact ih
  | @left _ pose _ _ ih =>
    have turns : symmetry.command .left ≠ .forward := by simp [symmetry.forward]
    rw [List.map_cons, walk_turned turns, ← symmetry.turned]
    exact ih
  | @moved _ pose _ inside _ ih =>
    have onto : symmetry.image.holds (symmetry.pose pose).ahead = true := by
      rw [← symmetry.ahead, symmetry.holds, inside]
    rw [List.map_cons, forward, walk_moved onto, ← symmetry.ahead, ih]
    rfl
  | @held _ pose _ outside scented _ ih =>
    have beyond : symmetry.image.holds (symmetry.pose pose).ahead = false := by
      rw [← symmetry.ahead, symmetry.holds, outside]
    rw [List.map_cons, forward, walk_held beyond (Scent.mem_image.2 scented), ← symmetry.ahead, ih]
    rfl
  | @fell _ pose outside fresh =>
    have beyond : symmetry.image.holds (symmetry.pose pose).ahead = false := by
      rw [← symmetry.ahead, symmetry.holds, outside]
    rw [List.map_cons, forward, walk_fell beyond (mt Scent.mem_image.1 fresh), ← symmetry.ahead]
    rfl

end Simulation

/-! ## Missions -/

theorem Robot.report_image {robot : Robot}
    (inside : ∀ landing, robot.landing? = some landing → square.holds landing.pose = true)
    (scent : Scent) :
    (robot.image symmetry).report symmetry.image (scent.image symmetry) =
      (robot.report square scent).image symmetry := by
  cases found : robot.landing? with
  | none =>
    have same := Landing.first_image_isNone symmetry robot.instructions
    have missing : (robot.image symmetry).landing? = none := by
      rw [← Option.isNone_iff_eq_none]
      exact same.trans (Option.isNone_iff_eq_none.2 found)
    rw [report_nowhere found, report_nowhere missing]
    rfl
  | some landing =>
    obtain ⟨carried, there, pose, course⟩ :=
      Landing.first_image symmetry found (inside landing found)
    have there : (robot.image symmetry).landing? = some carried := there
    have walks := Simulation.walks_walk square scent robot.name landing.course landing.pose
    rw [report_landing found, report_landing there, pose, course]
    simp only [Robot.image, walks.image]
    rfl

namespace Simulation

theorem reports_image {robots : List Robot} (inside : (Mission.mk square robots).LandsInside)
    (scent : Scent) :
    reports symmetry.image (robots.map (Robot.image symmetry)) (scent.image symmetry) =
      (reports square robots scent).map (Report.image symmetry) := by
  induction robots generalizing scent with
  | nil => rfl
  | cons robot rest ih =>
    obtain ⟨first, others⟩ := List.forall_mem_cons.1 inside
    have report : (robot.image symmetry).report symmetry.image (scent.image symmetry) = _ :=
      Robot.report_image first scent
    rw [List.map_cons, reports, reports, report, Report.image, Scent.afterAll_image, ih others]
    rfl

end Simulation

namespace Mission

section

variable {mission : Mission}

theorem reports_image (inside : mission.LandsInside) (symmetry : Symmetry mission.square) :
    (mission.image symmetry).reports = mission.reports.map (Report.image symmetry) :=
  Simulation.reports_image inside .empty

theorem outcomes_image (inside : mission.LandsInside) (symmetry : Symmetry mission.square) :
    (mission.image symmetry).outcomes = mission.outcomes.map (Outcome.image symmetry) := by
  have outcome (report : Report) : (report.image symmetry).outcome? =
      report.outcome?.map (Outcome.image symmetry) := by
    obtain ⟨answer, events⟩ := report
    cases answer <;> rfl
  change (mission.image symmetry).reports.filterMap Report.outcome? =
    (mission.reports.filterMap Report.outcome?).map (Outcome.image symmetry)
  rw [reports_image inside, List.filterMap_map, List.map_filterMap]
  simp only [Function.comp_def, outcome]

theorem script_image (inside : mission.LandsInside) (symmetry : Symmetry mission.square) :
    (mission.image symmetry).script = mission.script.map (Event.image symmetry) := by
  have segments : (mission.image symmetry).segments.flatten =
      mission.segments.flatten.map (Event.image symmetry) := by
    rw [Mission.segments, Mission.segments, reports_image inside, List.map_map, List.map_flatten,
      List.map_map]
    rfl
  rw [script, script, segments, outcomes_image inside, List.map_cons, List.map_append]
  rfl

end

theorem find_nowhere_image (mission : Mission) (symmetry : Symmetry mission.square) :
    ((mission.image symmetry).robots.find? fun robot => robot.landing?.isNone) =
      (mission.robots.find? fun robot => robot.landing?.isNone).map (Robot.image symmetry) := by
  have same (robot : Robot) : (robot.image symmetry).landing?.isNone = robot.landing?.isNone :=
    Landing.first_image_isNone symmetry robot.instructions
  rw [image, List.find?_map]
  simp only [Function.comp_def, same]

/-- What the image of a mission does is the image of what the mission does, told to any sink. -/
theorem simulate_image {mission : Mission} (inside : mission.LandsInside)
    (symmetry : Symmetry mission.square) (sink : Sink σ) (out : σ) :
    (mission.image symmetry).simulate sink out =
      (mission.simulate (sink.through (Event.image symmetry)) out).map
        (Except.map (List.map (Outcome.image symmetry))) (World.image symmetry) := by
  have missing := mission.find_nowhere_image symmetry
  cases found : mission.robots.find? fun robot => robot.landing?.isNone with
  | some robot =>
    rw [found] at missing
    rw [simulate_nowhere found, simulate_nowhere missing]
    rfl
  | none =>
    rw [found] at missing
    have told : (World.image symmetry ⟨.empty, out⟩).tellAll sink _ = _ :=
      World.tellAll_image sink mission.script ⟨.empty, out⟩
    rw [simulate_eq (find_nowhere.1 found), simulate_eq (find_nowhere.1 missing),
      script_image inside, outcomes_image inside]
    change World.answering _ ((World.image symmetry ⟨.empty, out⟩).tellAll sink _) = _
    rw [told]
    exact World.answering_map _ _ (.ok mission.outcomes) _

theorem simulate_through (mission : Mission) (view : Event → Event) :
    (mission.simulate (Sink.collect.through view) #[]).1 = (mission.simulate .collect #[]).1 ∧
      (mission.simulate (Sink.collect.through view) #[]).2.out =
        (mission.simulate .collect #[]).2.out.map view := by
  obtain ⟨answer, events, told⟩ := mission.simulate_told
  have willing : (Sink.collect.through view).Willing #[] := fun _ _ => rfl
  have viewed : (Sink.collect.through view).takeAll #[] events =
      Sink.collect.takeAll #[] (events.map view) := by
    simp only [Sink.takeAll, List.foldl_map]
    rfl
  rw [told, told, World.tellAll_willing willing, World.tellAll_willing (Sink.collect_willing #[]),
    viewed, Sink.collect_takeAll, Sink.collect_takeAll]
  refine ⟨rfl, ?_⟩
  simp [World.answering]

/-- Turning a mission or mirroring it turns or mirrors all that it tells and answers, in the same
order and with the same names. Its landings have to stand on the grid. -/
theorem simulate_symmetric (mission : Mission) (inside : mission.LandsInside) :
    let turn := Symmetry.quarterTurn mission.square
    let mirror := Symmetry.mirror mission.square
    (∀ symmetry ∈ [turn, mirror],
      ((mission.image symmetry).simulate .collect #[]).1 =
          (mission.simulate .collect #[]).1.map (List.map (Outcome.image symmetry)) ∧
        ((mission.image symmetry).simulate .collect #[]).2.out =
          (mission.simulate .collect #[]).2.out.map (Event.image symmetry) ∧
        ∀ {σ : Type} (sink : Sink σ) (out : σ),
          (mission.image symmetry).simulate sink out =
            (mission.simulate (sink.through (Event.image symmetry)) out).map
              (Except.map (List.map (Outcome.image symmetry))) (World.image symmetry)) ∧
      ∀ x y facing, mission.square.contains x.toNat y.toNat = true →
        (Instruction.landing x y facing).image turn =
            .landing y (mission.square.width - x) facing.clockwise ∧
          (Instruction.landing x y facing).image mirror =
            .landing (mission.square.width - x) y facing.mirrored := by
  intro turn mirror
  constructor
  · intro symmetry _
    obtain ⟨answer, events⟩ := mission.simulate_through (Event.image symmetry)
    have carried {σ : Type} (sink : Sink σ) (out : σ) := simulate_image inside symmetry sink out
    refine ⟨?_, ?_, carried⟩
    · rw [carried, ← answer]
      rfl
    · rw [carried, ← events]
      rfl
  · intro x y facing contained
    have across := Square.across_byte contained
    have up : UInt8.ofNat (y.toNat : Int).toNat = y := by
      rw [Int.toNat_natCast, UInt8.ofNat_toNat]
    constructor
    · change Instruction.landing (UInt8.ofNat (y.toNat : Int).toNat) _ _ = _
      rw [up]
      exact congrArg (Instruction.landing y · facing.clockwise) across
    · change Instruction.landing _ (UInt8.ofNat (y.toNat : Int).toNat) _ = _
      rw [up]
      exact congrArg (Instruction.landing · y facing.mirrored) across

/-- On a wide grid one robot falls in the east, and the next is held there and falls in the north. -/
def edgeways : Mission :=
  ⟨⟨3, 1⟩, [⟨"A", [.landing 3 1 .east, .heading [.forward]]⟩,
    ⟨"B", [.landing 2 1 .east, .heading [.forward, .forward, .left, .forward]]⟩]⟩

theorem simulate_symmetric_edgeways :
    edgeways.LandsInside ∧
      (edgeways.simulate .collect #[]).1 =
        .ok [⟨"A", ⟨3, 1, .east⟩, true⟩, ⟨"B", ⟨3, 1, .north⟩, true⟩] ∧
      ((edgeways.image (.quarterTurn ⟨3, 1⟩)).simulate .collect #[]).1 =
        .ok [⟨"A", ⟨1, 0, .south⟩, true⟩, ⟨"B", ⟨1, 0, .east⟩, true⟩] ∧
      ((edgeways.image (.mirror ⟨3, 1⟩)).simulate .collect #[]).1 =
        .ok [⟨"A", ⟨0, 1, .west⟩, true⟩, ⟨"B", ⟨0, 1, .north⟩, true⟩] ∧
      (Instruction.landing 2 1 .east).image (.quarterTurn ⟨3, 1⟩) = .landing 1 (3 - 2) .south := by
  have inside : edgeways.LandsInside := by
    refine (lands_of_inside ?_).2
    intro robot member
    simp only [List.mem_cons, List.not_mem_nil, or_false] at member
    rcases member with rfl | rfl <;> exact ⟨_, rfl, by decide⟩
  have ran : (edgeways.simulate .collect #[]).1 =
      .ok [⟨"A", ⟨3, 1, .east⟩, true⟩, ⟨"B", ⟨3, 1, .north⟩, true⟩] := rfl
  obtain ⟨carried, landing⟩ := simulate_symmetric edgeways inside
  have turned := (carried _ List.mem_cons_self).1
  have mirrored := (carried _ (List.mem_cons_of_mem _ List.mem_cons_self)).1
  rw [ran] at turned mirrored
  exact ⟨inside, ran, turned, mirrored, (landing 2 1 .east (by decide)).1⟩

end Mission

end
end ScentedGrid
