import ScentedGrid.Proofs.Simulation.Report

/-! The trace of a mission, replayed. What is told of a mission falls into one segment for each
robot. A segment can be read without the grid, the scent or the commands: it is a row of steps
tried from where the robot stands, and where it ends and whether in a fall is the robot's outcome. -/

namespace ScentedGrid

namespace Event

def isTry : Event → Bool
  | tryingMove _ _ => true
  | _ => false

/-- The position that a robot has moved to. -/
def arrival? : Event → Option (Int × Int)
  | moved _ pose => some (pose.x, pose.y)
  | _ => none

end Event

/-- Steps that a robot tries from a position. It may have turned before each of them. -/
inductive Segment (robot : String) : Int → Int → List Event → Prop where
  | done (x y : Int) : Segment robot x y []
  | moved {x y : Int} (facing : Direction) {rest : List Event} :
      Segment robot (x + facing.step.1) (y + facing.step.2) rest →
      Segment robot x y
        (.tryingMove robot ⟨x + facing.step.1, y + facing.step.2, facing⟩ ::
          .moved robot ⟨x + facing.step.1, y + facing.step.2, facing⟩ :: rest)
  | held {x y : Int} (facing : Direction) {rest : List Event} :
      Segment robot x y rest →
      Segment robot x y
        (.tryingMove robot ⟨x + facing.step.1, y + facing.step.2, facing⟩ :: rest)
  | fell (x y : Int) (facing : Direction) :
      Segment robot x y
        [.tryingMove robot ⟨x + facing.step.1, y + facing.step.2, facing⟩,
          .lost robot ⟨x, y, facing⟩]

/-- Where a robot stands after the events: where it moved last, or where it stood before them. -/
def arrival (start : Int × Int) (events : List Event) : Int × Int :=
  (events.filterMap Event.arrival?).getLast?.getD start

theorem arrival_moved (start : Int × Int) (robot : String) (pose : Pose) (rest : List Event) :
    arrival start (.moved robot pose :: rest) = arrival (pose.x, pose.y) rest := by
  simp [arrival, Event.arrival?, List.getLast?_cons]

theorem arrival_tryingMove (start : Int × Int) (robot : String) (pose : Pose)
    (rest : List Event) : arrival start (.tryingMove robot pose :: rest) = arrival start rest := rfl

namespace Simulation.Walks

variable {square : Square} {scent : Scent} {robot : String} {course : List Command} {pose : Pose}
  {walk : Walk}

theorem segment (walks : Walks square scent robot course pose walk) :
    Segment robot pose.x pose.y walk.events := by
  induction walks with
  | done pose => exact .done pose.x pose.y
  | right _ ih | left _ ih => exact ih
  | @moved _ pose _ _ _ ih => exact .moved pose.facing ih
  | @held _ pose _ _ _ _ ih => exact .held pose.facing ih
  | @fell _ pose => exact .fell pose.x pose.y pose.facing

theorem arrival_eq (walks : Walks square scent robot course pose walk) :
    arrival (pose.x, pose.y) walk.events = (walk.outcome.pose.x, walk.outcome.pose.y) := by
  induction walks with
  | done | fell => rfl
  | right _ ih | left _ ih => exact ih
  | moved _ _ ih => rwa [arrival_tryingMove, arrival_moved]
  | held _ _ _ ih => rwa [arrival_tryingMove]

theorem ends_lost (walks : Walks square scent robot course pose walk)
    (lost : walk.outcome.lost = true) :
    walk.events.getLast? = some (.lost robot walk.outcome.pose) := by
  induction walks with
  | done => cases lost
  | right _ ih | left _ ih => exact ih lost
  | moved _ _ ih => rw [List.getLast?_cons, List.getLast?_cons, ih lost]; rfl
  | held _ _ _ ih => rw [List.getLast?_cons, ih lost]; rfl
  | fell => rfl

theorem lost_of_mem (walks : Walks square scent robot course pose walk) {other : String}
    {fallen : Pose} (member : .lost other fallen ∈ walk.events) : walk.outcome.lost = true := by
  induction walks with
  | done => cases member
  | right _ ih | left _ ih => exact ih member
  | moved _ _ ih | held _ _ _ ih => exact ih (by simpa using member)
  | fell => rfl

theorem lost_iff (walks : Walks square scent robot course pose walk) :
    walk.outcome.lost = true ↔ ∃ fallen, walk.events.getLast? = some (.lost robot fallen) := by
  constructor
  · intro lost
    exact ⟨_, walks.ends_lost lost⟩
  · rintro ⟨fallen, last⟩
    exact walks.lost_of_mem (List.mem_of_getLast? last)

/-- A robot that is not lost has tried every forward step of its course. -/
theorem tries_stood (walks : Walks square scent robot course pose walk)
    (stood : walk.outcome.lost = false) :
    walk.events.countP Event.isTry = course.count .forward := by
  induction walks with
  | done => rfl
  | right _ ih | left _ ih => simpa using ih stood
  | moved _ _ ih | held _ _ _ ih => simpa [List.countP_cons, Event.isTry] using ih stood
  | fell => cases stood

/-- A lost robot has tried the forward steps up to the one that it fell at. -/
theorem tries_fell (walks : Walks square scent robot course pose walk)
    (lost : walk.outcome.lost = true) :
    ∃ before after, course = before ++ .forward :: after ∧
      (Simulation.walk square scent robot before pose).outcome =
        ⟨robot, walk.outcome.pose, false⟩ ∧
      walk.events.countP Event.isTry = before.count .forward + 1 := by
  induction walks with
  | done => cases lost
  | right _ ih =>
    obtain ⟨before, after, rfl, stood, tries⟩ := ih lost
    exact ⟨.right :: before, after, rfl, stood, by simpa using tries⟩
  | left _ ih =>
    obtain ⟨before, after, rfl, stood, tries⟩ := ih lost
    exact ⟨.left :: before, after, rfl, stood, by simpa using tries⟩
  | moved inside _ ih =>
    obtain ⟨before, after, rfl, stood, tries⟩ := ih lost
    refine ⟨.forward :: before, after, rfl, ?_, ?_⟩
    · rwa [walk_moved inside]
    · simpa [List.countP_cons, Event.isTry] using tries
  | held outside scented _ ih =>
    obtain ⟨before, after, rfl, stood, tries⟩ := ih lost
    refine ⟨.forward :: before, after, rfl, ?_, ?_⟩
    · rwa [walk_held outside scented]
    · simpa [List.countP_cons, Event.isTry] using tries
  | @fell rest => exact ⟨[], rest, rfl, rfl, rfl⟩

end Simulation.Walks

/-- A mission whose robots all land tells its start, one segment for each robot and the results it
returns, to any sink that takes them. Each segment replays into the outcome of its robot. -/
theorem Mission.simulate_replay (mission : Mission) (landed : mission.Lands) :
    (∀ {σ : Type} (sink : Sink σ) (out : σ), sink.Willing out →
      mission.simulate sink out =
        (.ok mission.outcomes, ⟨mission.finalScent, sink.takeAll out
          (.start mission.square mission.robots ::
            (mission.segments.flatten ++ [.results mission.outcomes]))⟩)) ∧
    mission.segments.length = mission.robots.length ∧
    mission.outcomes.map Outcome.name = mission.robots.map Robot.name ∧
    ∀ index robot segment outcome, mission.robots[index]? = some robot →
      mission.segments[index]? = some segment → mission.outcomes[index]? = some outcome →
      ∃ landing, robot.landing? = some landing ∧
        Segment robot.name landing.pose.x landing.pose.y segment ∧
        (outcome.pose.x, outcome.pose.y) = arrival (landing.pose.x, landing.pose.y) segment ∧
        (outcome.lost = true ↔ ∃ pose, segment.getLast? = some (.lost robot.name pose)) ∧
        (outcome.lost = false → segment.countP Event.isTry = landing.course.count .forward) ∧
        (outcome.lost = true →
          ∃ before after, landing.course = before ++ .forward :: after ∧
            (Simulation.follow .silent mission.square robot.name before landing.pose
              ⟨mission.scentBefore index, ()⟩).1 = .ok ⟨robot.name, outcome.pose, false⟩ ∧
            segment.countP Event.isTry = before.count .forward + 1) := by
  refine ⟨fun sink out willing => simulate_willing landed willing, ?_, ?_, ?_⟩
  · rw [segments, List.length_map, reports, Simulation.reports_length]
  · exact Simulation.outcomes_names landed .empty
  · intro index robot segment outcome taken told ended
    obtain ⟨landing, found, walks⟩ := robot_walks landed taken told ended
    refine ⟨landing, found, walks.segment, walks.arrival_eq.symm, walks.lost_iff,
      walks.tries_stood, ?_⟩
    intro lost
    obtain ⟨before, after, course, stood, tries⟩ := walks.tries_fell lost
    refine ⟨before, after, course, ?_, tries⟩
    rw [Simulation.follow_eq, World.tellAll_willing (Sink.silent_willing ()), stood]
    rfl

/-- The second robot moves, is held, turns and falls before its last command. -/
def Mission.relay : Mission :=
  ⟨⟨2, 2⟩,
    [⟨"A", [.heading [.right], .landing 2 2 .east, .heading [.forward]]⟩,
      ⟨"B", [.landing 1 2 .east, .heading [.forward, .forward], .landing 0 0 .north,
        .heading [.left, .forward, .right]]⟩]⟩

theorem Mission.simulate_replay_relay :
    relay.Lands ∧ Sink.collect.Willing #[] ∧
      (relay.simulate .collect #[]).1 =
        .ok [⟨"A", ⟨2, 2, .east⟩, true⟩, ⟨"B", ⟨2, 2, .north⟩, true⟩] ∧
      ∃ segment, relay.segments[1]? = some segment ∧ Segment "B" 1 2 segment ∧
        (∃ pose, segment.getLast? = some (.lost "B" pose)) ∧
        segment.countP Event.isTry = 3 := by
  have landed : relay.Lands := by decide
  have willing := Sink.collect_willing #[]
  have outcomes : relay.outcomes =
      [⟨"A", ⟨2, 2, .east⟩, true⟩, ⟨"B", ⟨2, 2, .north⟩, true⟩] := by decide +kernel
  obtain ⟨told, _, _, replay⟩ := simulate_replay relay landed
  obtain ⟨landing, found, segment, _, fallen, _⟩ :=
    replay 1 _ _ ⟨"B", ⟨2, 2, .north⟩, true⟩ rfl rfl (by rw [outcomes]; rfl)
  cases found
  exact ⟨landed, willing, by rw [told .collect #[] willing, outcomes], _, rfl, segment,
    fallen.1 rfl, by decide +kernel⟩

end ScentedGrid
