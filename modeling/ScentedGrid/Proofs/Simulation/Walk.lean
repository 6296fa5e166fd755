import ScentedGrid.Proofs.Simulation.Telling

/-! What a robot does on its own. A forward step ends in one of three ways, and the pose and the
scent alone decide in which. The scent on the grid stays the same until the robot falls, so the
events of its whole walk and its end are a function of its commands: any sink hears these events,
up to the first that it refuses. -/

namespace ScentedGrid

variable {σ : Type}

namespace Simulation

/-- What comes of a forward step: the robot stands one step ahead, is held by a scent, or falls. -/
inductive Stride where
  | moved
  | held
  | fell
  deriving DecidableEq

def stride (square : Square) (scent : Scent) (pose : Pose) : Stride :=
  if square.holds pose.ahead then .moved else if scent.contains pose then .held else .fell

namespace Stride

def events (robot : String) (pose : Pose) : Stride → List Event
  | moved => [.tryingMove robot pose.ahead, .moved robot pose.ahead]
  | held => [.tryingMove robot pose.ahead]
  | fell => [.tryingMove robot pose.ahead, .lost robot pose]

def footing (pose : Pose) : Stride → Footing
  | moved => .standing pose.ahead
  | held => .standing pose
  | fell => .fallen

theorem standing_scent {stride : Stride} {pose next : Pose}
    (standing : stride.footing pose = .standing next) (scent : Scent) (robot : String) :
    scent.afterAll (stride.events robot pose) = scent := by
  cases stride with
  | moved => rfl
  | held => rfl
  | fell => cases standing

end Stride

variable {square : Square} {scent : Scent} {pose : Pose}

theorem stride_moved (inside : square.holds pose.ahead = true) :
    stride square scent pose = .moved := by
  simp [stride, inside]

theorem stride_held (outside : square.holds pose.ahead = false) (scented : pose ∈ scent.poses) :
    stride square scent pose = .held := by
  simp [stride, outside, Scent.contains, scented]

theorem stride_fell (outside : square.holds pose.ahead = false) (fresh : pose ∉ scent.poses) :
    stride square scent pose = .fell := by
  simp [stride, outside, Scent.contains, fresh]

/-- A step offers the events of its stride, and leaves the robot where the stride says. -/
theorem forward_eq (sink : Sink σ) (square : Square) (robot : String) (pose : Pose)
    (scent : Scent) (out : σ) :
    forward sink square robot pose ⟨scent, out⟩ =
      World.answering (.ok ((stride square scent pose).footing pose))
        ((World.mk scent out).tellAll sink ((stride square scent pose).events robot pose)) := by
  unfold forward
  cases tried : (World.mk scent out).tell sink (.tryingMove robot pose.ahead) with
  | mk world fault =>
    have first : ((World.mk scent out).happen (.tryingMove robot pose.ahead)).tell sink
        (.tryingMove robot pose.ahead) = (world, fault) := tried
    have same : world.scent = scent := congrArg (fun told => told.1.scent) tried.symm
    cases fault with
    | some fault =>
      cases stride square scent pose with
      | _ => rw [Stride.events, World.tellAll_refused first, World.answering]
    | none =>
      by_cases inside : square.holds pose.ahead = true
      · rw [stride_moved inside, Stride.events, World.tellAll_heard first,
          World.tellAll_singleton]
        simp only [inside, if_true]
        rfl
      · have outside : square.holds pose.ahead = false := by simpa using inside
        simp only [outside, Bool.false_eq_true, if_false, same]
        by_cases scented : pose ∈ scent.poses
        · rw [stride_held outside scented, Stride.events, World.tellAll_heard first]
          simp only [Scent.contains, scented, decide_true, if_true]
          rfl
        · rw [stride_fell outside scented, Stride.events, World.tellAll_heard first,
            World.tellAll_singleton]
          simp only [Scent.contains, scented, decide_false, Bool.false_eq_true, if_false]
          rfl

/-- What a robot tells on its way, and how it ends. -/
structure Walk where
  events : List Event
  outcome : Outcome

/-- The walk of a robot that follows commands from a pose. -/
def walk (square : Square) (scent : Scent) (robot : String) : List Command → Pose → Walk
  | [], pose => ⟨[], ⟨robot, pose, false⟩⟩
  | .right :: rest, pose => walk square scent robot rest pose.turnedRight
  | .left :: rest, pose => walk square scent robot rest pose.turnedLeft
  | .forward :: rest, pose =>
    let events := (stride square scent pose).events robot pose
    match (stride square scent pose).footing pose with
    | .fallen => ⟨events, ⟨robot, pose, true⟩⟩
    | .standing next =>
      let onward := walk square scent robot rest next
      ⟨events ++ onward.events, onward.outcome⟩

/-- Any sink hears of a walk what it hears of the walk's events. -/
theorem follow_eq (sink : Sink σ) (square : Square) (robot : String) (course : List Command)
    (pose : Pose) (scent : Scent) (out : σ) :
    follow sink square robot course pose ⟨scent, out⟩ =
      World.answering (.ok (walk square scent robot course pose).outcome)
        ((World.mk scent out).tellAll sink (walk square scent robot course pose).events) := by
  induction course generalizing pose out with
  | nil => rfl
  | cons command rest ih =>
    cases command with
    | right => exact ih pose.turnedRight out
    | left => exact ih pose.turnedLeft out
    | forward =>
      rw [follow, forward_eq, walk]
      cases told : (World.mk scent out).tellAll sink
          ((stride square scent pose).events robot pose) with
      | mk world fault =>
        cases footing : (stride square scent pose).footing pose with
        | fallen => cases fault <;> simp only [told, World.answering]
        | standing next =>
          simp only [World.tellAll_append, told]
          cases fault with
          | some fault => rfl
          | none =>
            have same := (World.tellAll_scent told).trans (Stride.standing_scent footing _ _)
            cases world
            cases same
            exact ih next _

/-- A robot that stands after some commands goes on from there. -/
theorem follow_append {sink : Sink σ} {square : Square} {robot : String} {before : List Command}
    {start pose : Pose} {world next : World σ}
    (stood : follow sink square robot before start world = (.ok ⟨robot, pose, false⟩, next))
    (rest : List Command) :
    follow sink square robot (before ++ rest) start world =
      follow sink square robot rest pose next := by
  induction before generalizing start world with
  | nil =>
    cases stood
    rfl
  | cons command more ih =>
    cases command with
    | right => exact ih stood
    | left => exact ih stood
    | forward =>
      rw [follow] at stood
      rw [List.cons_append, follow]
      cases stepped : forward sink square robot start world with
      | mk answer heard =>
        rw [stepped] at stood
        cases answer with
        | error fault => cases stood
        | ok footing =>
          cases footing with
          | fallen => cases stood
          | standing ahead => exact ih stood

section

variable {robot : String} {rest : List Command}

theorem walk_moved (inside : square.holds pose.ahead = true) :
    walk square scent robot (.forward :: rest) pose =
      ⟨.tryingMove robot pose.ahead :: .moved robot pose.ahead ::
          (walk square scent robot rest pose.ahead).events,
        (walk square scent robot rest pose.ahead).outcome⟩ := by
  rw [walk, stride_moved inside]
  rfl

theorem walk_held (outside : square.holds pose.ahead = false) (scented : pose ∈ scent.poses) :
    walk square scent robot (.forward :: rest) pose =
      ⟨.tryingMove robot pose.ahead :: (walk square scent robot rest pose).events,
        (walk square scent robot rest pose).outcome⟩ := by
  rw [walk, stride_held outside scented]
  rfl

theorem walk_fell (outside : square.holds pose.ahead = false) (fresh : pose ∉ scent.poses) :
    walk square scent robot (.forward :: rest) pose =
      ⟨[.tryingMove robot pose.ahead, .lost robot pose], ⟨robot, pose, true⟩⟩ := by
  rw [walk, stride_fell outside fresh]
  rfl

end

/-! What holds of a walk is proved by the ways in which it goes on, so these are listed once. -/

/-- Commands followed from a pose give a walk. -/
inductive Walks (square : Square) (scent : Scent) (robot : String) :
    List Command → Pose → Walk → Prop where
  | done (pose : Pose) : Walks square scent robot [] pose ⟨[], ⟨robot, pose, false⟩⟩
  | right {rest : List Command} {pose : Pose} {walk : Walk} :
      Walks square scent robot rest pose.turnedRight walk →
      Walks square scent robot (.right :: rest) pose walk
  | left {rest : List Command} {pose : Pose} {walk : Walk} :
      Walks square scent robot rest pose.turnedLeft walk →
      Walks square scent robot (.left :: rest) pose walk
  | moved {rest : List Command} {pose : Pose} {walk : Walk} :
      square.holds pose.ahead = true → Walks square scent robot rest pose.ahead walk →
      Walks square scent robot (.forward :: rest) pose
        ⟨.tryingMove robot pose.ahead :: .moved robot pose.ahead :: walk.events, walk.outcome⟩
  | held {rest : List Command} {pose : Pose} {walk : Walk} :
      square.holds pose.ahead = false → pose ∈ scent.poses →
      Walks square scent robot rest pose walk →
      Walks square scent robot (.forward :: rest) pose
        ⟨.tryingMove robot pose.ahead :: walk.events, walk.outcome⟩
  | fell {rest : List Command} {pose : Pose} :
      square.holds pose.ahead = false → pose ∉ scent.poses →
      Walks square scent robot (.forward :: rest) pose
        ⟨[.tryingMove robot pose.ahead, .lost robot pose], ⟨robot, pose, true⟩⟩

theorem walks_walk (square : Square) (scent : Scent) (robot : String) (course : List Command)
    (pose : Pose) : Walks square scent robot course pose (walk square scent robot course pose) := by
  induction course generalizing pose with
  | nil => exact .done pose
  | cons command rest ih =>
    cases command with
    | right => exact .right (ih pose.turnedRight)
    | left => exact .left (ih pose.turnedLeft)
    | forward =>
      by_cases inside : square.holds pose.ahead = true
      · rw [walk_moved inside]
        exact .moved inside (ih pose.ahead)
      · have outside : square.holds pose.ahead = false := by simpa using inside
        by_cases scented : pose ∈ scent.poses
        · rw [walk_held outside scented]
          exact .held outside scented (ih pose)
        · rw [walk_fell outside scented]
          exact .fell outside scented

end Simulation

/-- The scent once a robot has ended: one more if it fell. -/
def Scent.afterOutcome (scent : Scent) (outcome : Outcome) : Scent :=
  if outcome.lost then scent.mark outcome.pose else scent

theorem Scent.mem_afterOutcome {scent : Scent} {outcome : Outcome} {pose : Pose} :
    pose ∈ (scent.afterOutcome outcome).poses ↔
      (outcome.lost = true ∧ pose = outcome.pose) ∨ pose ∈ scent.poses := by
  unfold afterOutcome
  split
  · next lost => simp [Scent.mem_mark, lost]
  · next stood => simp [stood]

namespace Simulation.Walks

variable {square : Square} {scent : Scent} {robot : String} {course : List Command} {pose : Pose}
  {walk : Walk}

theorem name_eq (walks : Walks square scent robot course pose walk) :
    walk.outcome.name = robot := by
  induction walks with
  | done | fell => rfl
  | right _ ih | left _ ih | moved _ _ ih | held _ _ _ ih => exact ih

/-- A robot falls from a pose that has no scent, by a step off the grid. -/
theorem lost_fresh (walks : Walks square scent robot course pose walk)
    (lost : walk.outcome.lost = true) :
    walk.outcome.pose ∉ scent.poses ∧ square.holds walk.outcome.pose.ahead = false := by
  induction walks with
  | done => cases lost
  | right _ ih | left _ ih | moved _ _ ih | held _ _ _ ih => exact ih lost
  | fell outside fresh => exact ⟨fresh, outside⟩

/-- The end of a walk tells all that its events change, on any grid. -/
theorem afterAll_events (walks : Walks square scent robot course pose walk) (other : Scent) :
    other.afterAll walk.events = other.afterOutcome walk.outcome := by
  induction walks with
  | done | fell => rfl
  | right _ ih | left _ ih | moved _ _ ih | held _ _ _ ih => exact ih

end Simulation.Walks
end ScentedGrid
