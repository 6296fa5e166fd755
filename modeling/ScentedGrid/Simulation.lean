import ScentedGrid.Mission

/-! Running missions. Robots move one after another on one grid. A robot that steps off the grid
is lost and leaves a scent at the pose it fell from; the scent holds every later robot that tries
the same step from the same pose. What happens is told to a sink, in the order in which it happens. -/

namespace ScentedGrid

/-! ## Scent -/

/-- The scent of the robots that fell: the poses from which they stepped off the grid. A pose is a
position and a direction, so the same position may be scented towards one side only. The latest fall
comes first, and no pose stands twice. -/
structure Scent where
  poses : List Pose
  nodup : poses.Nodup

namespace Scent

def empty : Scent := ⟨[], .nil⟩

def contains (scent : Scent) (pose : Pose) : Bool := decide (pose ∈ scent.poses)

def mark (scent : Scent) (pose : Pose) : Scent :=
  if fresh : pose ∈ scent.poses then scent
  else ⟨pose :: scent.poses, List.nodup_cons.mpr ⟨fresh, scent.nodup⟩⟩

def size (scent : Scent) : Nat := scent.poses.length

def isEmpty (scent : Scent) : Bool := scent.poses.isEmpty

theorem ext {first second : Scent} (same : first.poses = second.poses) : first = second := by
  cases first
  cases second
  cases same
  rfl

theorem mem_mark {scent : Scent} {pose other : Pose} :
    other ∈ (scent.mark pose).poses ↔ other = pose ∨ other ∈ scent.poses := by
  unfold mark
  split
  · next present =>
    exact ⟨.inr, fun found => found.elim (fun same => same ▸ present) id⟩
  · simp

theorem size_mark_fresh {scent : Scent} {pose : Pose} (fresh : scent.contains pose = false) :
    (scent.mark pose).size = scent.size + 1 := by
  have absent : pose ∉ scent.poses := by simpa [contains] using fresh
  simp [mark, size, absent]

end Scent

/-- Poses by `x`, then by `y`, then clockwise from north. -/
def Pose.before (first second : Pose) : Bool :=
  decide (first.x < second.x) || first.x == second.x &&
    (decide (first.y < second.y) || first.y == second.y &&
      decide (Direction.all.idxOf first.facing ≤ Direction.all.idxOf second.facing))

def Scent.sorted (scent : Scent) : List Pose := scent.poses.mergeSort Pose.before

/-! ## Events -/

/-- How a robot ended. A lost robot has the last pose it had on its feet. -/
structure Outcome where
  name : String
  pose : Pose
  lost : Bool
  deriving DecidableEq

inductive Event where
  /-- Told once, before any robot moves. -/
  | start (square : Square) (robots : List Robot)
  /-- The pose that a forward step leads to, on the grid or off it. -/
  | tryingMove (robot : String) (pose : Pose)
  /-- The pose from which the robot fell. -/
  | lost (robot : String) (pose : Pose)
  | moved (robot : String) (pose : Pose)
  /-- Told once, last. -/
  | results (outcomes : List Outcome)
  deriving DecidableEq

/-! ## Sinks -/

/-- Why a sink refused, in its own words. -/
structure SinkFault where
  text : String
  deriving DecidableEq

namespace SinkFault

def closed : SinkFault := ⟨"sink closed"⟩

def full : SinkFault := ⟨"disk full"⟩

end SinkFault

/-- A receiver of events. A sink has a state of its own and may refuse an event; what it took of the
event before it refused stays in its state. -/
structure Sink (σ : Type) where
  offer : σ → Event → σ × Option SinkFault

namespace Sink

/-- Takes every event and keeps nothing. -/
def silent : Sink Unit := ⟨fun _ _ => ((), none)⟩

def collect : Sink (Array Event) := ⟨fun kept event => (kept.push event, none)⟩

/-- Keeps the first events, as many as the limit says, and refuses every later one. -/
def collectUpTo (limit : Nat) : Sink (Array Event) :=
  ⟨fun kept event => if kept.size < limit then (kept.push event, none) else (kept, some .closed)⟩

end Sink

/-! ## Runs -/

inductive RunError where
  | missingLanding (robot : String)
  | sink (fault : SinkFault)
  deriving DecidableEq

def RunError.message : RunError → String
  | missingLanding robot => "robot " ++ robot ++ " has no landing instruction"
  | sink fault => "failed to emit event: " ++ fault.text

variable {σ : Type}

/-- What a run changes: the scent on the grid and the state of the sink. -/
structure World (σ : Type) where
  scent : Scent
  out : σ

/-- Offers an event, and gives the fault if the sink refuses it. -/
def World.tell : World σ → Sink σ → Event → World σ × Option RunError
  | ⟨scent, out⟩, sink, event =>
    let (out, fault) := sink.offer out event
    (⟨scent, out⟩, fault.map .sink)

def World.mark : World σ → Pose → World σ
  | ⟨scent, out⟩, pose => ⟨scent.mark pose, out⟩

namespace Simulation

/-- Where a forward step leaves a robot. -/
inductive Footing where
  | standing (pose : Pose)
  | fallen

/-- One forward step. A robot that falls has left its scent before the fall is told. -/
def forward (sink : Sink σ) (square : Square) (robot : String) (pose : Pose) (world : World σ) :
    Except RunError Footing × World σ :=
  match world.tell sink (.tryingMove robot pose.ahead) with
  | (world, some fault) => (.error fault, world)
  | (world, none) =>
    if square.holds pose.ahead then
      match world.tell sink (.moved robot pose.ahead) with
      | (world, some fault) => (.error fault, world)
      | (world, none) => (.ok (.standing pose.ahead), world)
    else if world.scent.contains pose then (.ok (.standing pose), world)
    else
      match (world.mark pose).tell sink (.lost robot pose) with
      | (world, some fault) => (.error fault, world)
      | (world, none) => (.ok .fallen, world)

/-- Follows commands to their end or to the robot's fall. -/
def follow (sink : Sink σ) (square : Square) (robot : String) :
    List Command → Pose → World σ → Except RunError Outcome × World σ
  | [], pose, world => (.ok ⟨robot, pose, false⟩, world)
  | .right :: rest, pose, world => follow sink square robot rest pose.turnedRight world
  | .left :: rest, pose, world => follow sink square robot rest pose.turnedLeft world
  | .forward :: rest, pose, world =>
    match forward sink square robot pose world with
    | (.error fault, world) => (.error fault, world)
    | (.ok .fallen, world) => (.ok ⟨robot, pose, true⟩, world)
    | (.ok (.standing pose), world) => follow sink square robot rest pose world

end Simulation

/-- A robot without a landing fails before anything is told. -/
def Robot.run (robot : Robot) (sink : Sink σ) (square : Square) (world : World σ) :
    Except RunError Outcome × World σ :=
  match robot.landing? with
  | none => (.error (.missingLanding robot.name), world)
  | some landing => Simulation.follow sink square robot.name landing.course landing.pose world

/-- Runs robots in order, until one fails. -/
def Simulation.runAll (sink : Sink σ) (square : Square) :
    List Robot → World σ → Except RunError (List Outcome) × World σ
  | [], world => (.ok [], world)
  | robot :: rest, world =>
    match robot.run sink square world with
    | (.error fault, world) => (.error fault, world)
    | (.ok outcome, world) =>
      match runAll sink square rest world with
      | (.error fault, world) => (.error fault, world)
      | (.ok outcomes, world) => (.ok (outcome :: outcomes), world)

/-- Runs every robot on a fresh grid. A mission with a robot that never lands is refused before
anything is told. -/
def Mission.simulate (mission : Mission) (sink : Sink σ) (out : σ) :
    Except RunError (List Outcome) × World σ :=
  match mission.robots.find? fun robot => robot.landing?.isNone with
  | some robot => (.error (.missingLanding robot.name), ⟨.empty, out⟩)
  | none =>
    match (World.mk .empty out).tell sink (.start mission.square mission.robots) with
    | (world, some fault) => (.error fault, world)
    | (world, none) =>
      match Simulation.runAll sink mission.square mission.robots world with
      | (.error fault, world) => (.error fault, world)
      | (.ok outcomes, world) =>
        match world.tell sink (.results outcomes) with
        | (world, some fault) => (.error fault, world)
        | (world, none) => (.ok outcomes, world)

end ScentedGrid
