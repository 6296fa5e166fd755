import ScentedGrid.Proofs.Simulation.Report

/-! Where robots go. A landing may stand outside the grid, and nothing is asked of the scent, so the
grid alone keeps a robot in: every move ends on it, and once a robot stands on it, it stays. A robot
that ends outside never moved at all. Coordinates stay within one step of a byte. -/

namespace ScentedGrid

theorem Square.holds_iff {square : Square} {pose : Pose} :
    square.holds pose = true ↔
      0 ≤ pose.x ∧ pose.x ≤ square.width.toNat ∧ 0 ≤ pose.y ∧ pose.y ≤ square.height.toNat := by
  simp [holds, contains, and_assoc]

namespace Pose

/-- Both coordinates are bytes, as those of a landing are. -/
def InBytes (pose : Pose) : Prop := 0 ≤ pose.x ∧ pose.x ≤ 255 ∧ 0 ≤ pose.y ∧ pose.y ≤ 255

theorem inBytes_of_holds {square : Square} {pose : Pose} (inside : square.holds pose = true) :
    pose.InBytes := by
  have bounds := Square.holds_iff.1 inside
  have wide := square.width.toNat_lt
  have high := square.height.toNat_lt
  unfold InBytes
  omega

theorem ahead_bounds {pose : Pose} (bytes : pose.InBytes) :
    -1 ≤ pose.ahead.x ∧ pose.ahead.x ≤ 256 ∧ -1 ≤ pose.ahead.y ∧ pose.ahead.y ≤ 256 := by
  unfold InBytes at bytes
  cases facing : pose.facing <;> simp only [ahead, facing, Direction.step] <;> omega

end Pose

theorem Direction.step_bounds (direction : Direction) :
    (-1 ≤ direction.step.1 ∧ direction.step.1 ≤ 1) ∧
      (-1 ≤ direction.step.2 ∧ direction.step.2 ≤ 1) := by
  cases direction <;> decide

/-- Numbers this small are added in 32 bits as they are without bounds. -/
theorem toInt_add_small {first second : Int} (left : 0 ≤ first ∧ first ≤ 255)
    (right : -1 ≤ second ∧ second ≤ 1) :
    (Int32.ofInt first + Int32.ofInt second).toInt = first + second := by
  rw [Int32.toInt_add, Int32.toInt_ofInt_of_le (by omega) (by omega),
    Int32.toInt_ofInt_of_le (by omega) (by omega), Int.bmod_eq_of_le (by omega) (by omega)]

/-- The coordinates one step ahead, added in 32 bits. -/
theorem Pose.ahead_words {pose : Pose} (bytes : pose.InBytes) :
    (Int32.ofInt pose.x + Int32.ofInt pose.facing.step.1).toInt = pose.ahead.x ∧
      (Int32.ofInt pose.y + Int32.ofInt pose.facing.step.2).toInt = pose.ahead.y := by
  obtain ⟨across, up⟩ := pose.facing.step_bounds
  exact ⟨toInt_add_small ⟨bytes.1, bytes.2.1⟩ across, toInt_add_small bytes.2.2 up⟩

theorem Landing.pose_inBytes (landing : Landing) : landing.pose.InBytes := by
  have wide := landing.x.toNat_lt
  have high := landing.y.toNat_lt
  simp only [Pose.InBytes, pose]
  omega

/-- No robot has its first landing outside the grid. -/
def Mission.LandsInside (mission : Mission) : Prop :=
  ∀ robot ∈ mission.robots, ∀ landing, robot.landing? = some landing →
    mission.square.holds landing.pose = true

theorem Mission.lands_of_inside {square : Square} {robots : List Robot}
    (landed : ∀ robot ∈ robots, ∃ landing, robot.landing? = some landing ∧
      square.holds landing.pose = true) :
    (Mission.mk square robots).Lands ∧ (Mission.mk square robots).LandsInside := by
  constructor
  · intro robot member
    obtain ⟨landing, found, _⟩ := landed robot member
    rw [Robot.Lands, found]
    rfl
  · intro robot member landing found
    obtain ⟨_, same, inside⟩ := landed robot member
    cases found.symm.trans same
    exact inside

namespace Simulation.Walks

variable {square : Square} {scent : Scent} {robot : String} {course : List Command} {pose : Pose}
  {walk : Walk}

theorem stays (walks : Walks square scent robot course pose walk)
    (inside : square.holds pose = true) : square.holds walk.outcome.pose = true := by
  induction walks with
  | done | fell => exact inside
  | right _ ih | left _ ih => exact ih inside
  | moved onto _ ih => exact ih onto
  | held _ _ _ ih => exact ih inside

/-- Commands that follow do not take a robot off the grid that the first ones left it on. -/
theorem stays_onward (walks : Walks square scent robot course pose walk)
    (inside : square.holds walk.outcome.pose = true) (rest : List Command) :
    square.holds (Simulation.walk square scent robot (course ++ rest) pose).outcome.pose =
      true := by
  induction walks with
  | done pose => exact (walks_walk square scent robot rest pose).stays inside
  | right _ ih | left _ ih => exact ih inside
  | moved onto _ ih =>
    rw [List.cons_append, walk_moved onto]
    exact ih inside
  | held outside scented _ ih =>
    rw [List.cons_append, walk_held outside scented]
    exact ih inside
  | fell outside fresh =>
    rw [List.cons_append, walk_fell outside fresh]
    exact inside

theorem ends_inBytes (walks : Walks square scent robot course pose walk) (bytes : pose.InBytes) :
    walk.outcome.pose.InBytes := by
  induction walks with
  | done | fell => exact bytes
  | right _ ih | left _ ih => exact ih bytes
  | moved onto _ ih => exact ih (Pose.inBytes_of_holds onto)
  | held _ _ _ ih => exact ih bytes

theorem tries_near (walks : Walks square scent robot course pose walk) (bytes : pose.InBytes)
    {name : String} {tried : Pose} (told : .tryingMove name tried ∈ walk.events) :
    -1 ≤ tried.x ∧ tried.x ≤ 256 ∧ -1 ≤ tried.y ∧ tried.y ≤ 256 := by
  induction walks with
  | done => cases told
  | right _ ih | left _ ih => exact ih bytes told
  | @moved _ pose _ onto _ ih =>
    simp only [List.mem_cons, Event.tryingMove.injEq, reduceCtorEq, false_or] at told
    rcases told with ⟨_, rfl⟩ | later
    · exact Pose.ahead_bounds bytes
    · exact ih (Pose.inBytes_of_holds onto) later
  | @held _ pose _ _ _ _ ih =>
    simp only [List.mem_cons, Event.tryingMove.injEq] at told
    rcases told with ⟨_, rfl⟩ | later
    · exact Pose.ahead_bounds bytes
    · exact ih bytes later
  | @fell _ pose =>
    simp only [List.mem_cons, Event.tryingMove.injEq, reduceCtorEq, List.not_mem_nil, or_false]
      at told
    rw [told.2]
    exact Pose.ahead_bounds bytes

theorem moves_inside (walks : Walks square scent robot course pose walk) {name : String}
    {reached : Pose} (told : .moved name reached ∈ walk.events) : square.holds reached = true := by
  induction walks with
  | done => cases told
  | right _ ih | left _ ih => exact ih told
  | moved onto _ ih =>
    simp only [List.mem_cons, reduceCtorEq, Event.moved.injEq, false_or] at told
    rcases told with ⟨_, rfl⟩ | later
    · exact onto
    · exact ih later
  | held _ _ _ ih => exact ih (by simpa using told)
  | fell => simp at told

/-- Whoever ends outside the grid stands where it started, and has not moved. -/
theorem outside_unmoved (walks : Walks square scent robot course pose walk)
    (outside : square.holds walk.outcome.pose = false) :
    walk.outcome.pose.x = pose.x ∧ walk.outcome.pose.y = pose.y ∧
      ∀ name reached, .moved name reached ∉ walk.events := by
  induction walks with
  | done => exact ⟨rfl, rfl, fun _ _ => List.not_mem_nil⟩
  | right _ ih | left _ ih => exact ih outside
  | moved onto walks _ =>
    rw [walks.stays onto] at outside
    cases outside
  | held _ _ _ ih =>
    obtain ⟨sameX, sameY, unmoved⟩ := ih outside
    exact ⟨sameX, sameY, by simpa using unmoved⟩
  | fell => exact ⟨rfl, rfl, by simp⟩

end Simulation.Walks

namespace Simulation

variable {σ : Type} {sink : Sink σ} {square : Square} {robot : String} {course rest : List Command}
  {pose : Pose} {scent : Scent} {out : σ} {outcome later : Outcome}

/-- Where the commands leave a robot, if the sink lets it follow them. -/
def Reaches (sink : Sink σ) (square : Square) (robot : String) (course : List Command)
    (pose : Pose) (world : World σ) (outcome : Outcome) : Prop :=
  ∃ next, follow sink square robot course pose world = (.ok outcome, next)

theorem Reaches.walk_outcome
    (reached : Reaches sink square robot course pose ⟨scent, out⟩ outcome) :
    (walk square scent robot course pose).outcome = outcome := by
  obtain ⟨next, followed⟩ := reached
  rw [follow_eq] at followed
  exact Except.ok.inj (World.answering_eq_ok followed).1

theorem Reaches.stays (early : Reaches sink square robot course pose ⟨scent, out⟩ outcome)
    (late : Reaches sink square robot (course ++ rest) pose ⟨scent, out⟩ later)
    (inside : square.holds outcome.pose = true) : square.holds later.pose = true := by
  have walks := walks_walk square scent robot course pose
  rw [← early.walk_outcome] at inside
  rw [← late.walk_outcome]
  exact walks.stays_onward inside rest

theorem Reaches.inBytes (reached : Reaches sink square robot course pose ⟨scent, out⟩ outcome)
    (bytes : pose.InBytes) : outcome.pose.InBytes := by
  rw [← reached.walk_outcome]
  exact (walks_walk square scent robot course pose).ends_inBytes bytes

end Simulation

namespace Robot

variable {σ : Type}

/-- Recording changes nothing for the run, and keeps a first part of what the robot reports. -/
theorem run_recording (robot : Robot) (sink : Sink σ) (square : Square) (scent : Scent) (out : σ) :
    (robot.run sink.recording square ⟨scent, out, []⟩).1 =
        (robot.run sink square ⟨scent, out⟩).1 ∧
      (robot.run sink.recording square ⟨scent, out, []⟩).2.out.2 <+:
        (robot.report square scent).events := by
  let events := (robot.report square scent).events
  obtain ⟨heard, initial, recorded⟩ := World.tellAll_recording sink events scent out []
  obtain ⟨kept, same⟩ := World.tellAll_follows sink.recording_follows events scent out []
  have first : kept <+: events := by
    rw [same] at recorded
    rw [show kept = heard from recorded]
    exact initial
  rw [run_eq, run_eq, same]
  cases (World.mk scent out).tellAll sink events with
  | mk world fault => cases fault <;> exact ⟨rfl, first⟩

/-- Whatever scent there is and whoever listens, a robot moves on the grid only. It tries positions
next to a byte's, where sums of 32 bits are exact, and never leaves the grid once it is there; it
ends outside only where it landed, without a move, and falls only by a step off the grid. -/
theorem run_trajectory {robot : Robot} {landing : Landing} (found : robot.landing? = some landing)
    (square : Square) (scent : Scent) (sink : Sink σ) (out : σ) :
    let offered := (robot.run sink.recording square ⟨scent, out, []⟩).2.out.2
    let reaches (course : List Command) (outcome : Outcome) :=
      Simulation.Reaches sink square robot.name course landing.pose ⟨scent, out⟩ outcome
    (∀ name pose, .tryingMove name pose ∈ offered →
      -1 ≤ pose.x ∧ pose.x ≤ 256 ∧ -1 ≤ pose.y ∧ pose.y ≤ 256) ∧
    (∀ name pose, .moved name pose ∈ offered → square.holds pose = true) ∧
    (∀ course outcome, course ++ [.forward] <+: landing.course → reaches course outcome →
      (Int32.ofInt outcome.pose.x + Int32.ofInt outcome.pose.facing.step.1).toInt =
          outcome.pose.ahead.x ∧
        (Int32.ofInt outcome.pose.y + Int32.ofInt outcome.pose.facing.step.2).toInt =
          outcome.pose.ahead.y) ∧
    (∀ course rest early late, course ++ rest <+: landing.course → reaches course early →
      reaches (course ++ rest) late → square.holds early.pose = true →
      square.holds late.pose = true) ∧
    (∀ outcome, (robot.run sink square ⟨scent, out⟩).1 = .ok outcome →
      (square.holds outcome.pose = false →
        outcome.pose.x = landing.x.toNat ∧ outcome.pose.y = landing.y.toNat ∧
          ∀ name pose, .moved name pose ∉ offered) ∧
      (outcome.lost = true → square.holds outcome.pose.ahead = false)) ∧
    (sink.Willing out → ∃ outcome, (robot.run sink square ⟨scent, out⟩).1 = .ok outcome) := by
  intro offered reaches
  have heard : offered <+: (robot.report square scent).events :=
    (robot.run_recording sink square scent out).2
  have lands : robot.Lands := by rw [Lands, found]; rfl
  obtain ⟨outcome, answer⟩ := robot.report_answer lands square scent
  obtain ⟨_, same, walks⟩ := report_walks answer
  cases found.symm.trans same
  have bytes := landing.pose_inBytes
  refine ⟨?_, ?_, ?_, ?_, ?_, ?_⟩
  · intro name pose told
    exact walks.tries_near bytes (heard.subset told)
  · intro name pose told
    exact walks.moves_inside (heard.subset told)
  · intro course ended _ reached
    exact Pose.ahead_words (reached.inBytes bytes)
  · intro course rest early late _ reached onward inside
    exact reached.stays onward inside
  · intro ended ran
    rw [run_eq] at ran
    have answered := (World.answering_eq_ok (Prod.ext ran rfl)).1
    cases answered.symm.trans answer
    refine ⟨?_, fun lost => (walks.lost_fresh lost).2⟩
    intro outside
    obtain ⟨sameX, sameY, unmoved⟩ := walks.outside_unmoved outside
    exact ⟨sameX, sameY, fun name pose told => unmoved name pose (heard.subset told)⟩
  · intro willing
    rw [run_willing willing]
    exact ⟨outcome, answer⟩

/-- Lands in the far corner of all grids, is held there by a scent and falls after a turn. -/
def castaway : Robot := ⟨"C", [.landing 255 0 .east, .heading [.forward, .right, .forward]]⟩

/-- Lands next to the grid, steps on it and falls on the other side. -/
def visitor : Robot := ⟨"V", [.landing 3 0 .west, .heading [.forward, .left, .forward]]⟩

theorem run_trajectory_castaway :
    castaway.landing? =
        some ⟨0, 255, 0, .east, [.heading [.forward, .right, .forward]]⟩ ∧
      (castaway.run .collect ⟨2, 2⟩ ⟨Scent.empty.mark ⟨255, 0, .east⟩, #[]⟩).1 =
        .ok ⟨"C", ⟨255, 0, .south⟩, true⟩ ∧
      (∀ name pose, .moved name pose ∉
        (castaway.run Sink.collect.recording ⟨2, 2⟩
          ⟨Scent.empty.mark ⟨255, 0, .east⟩, #[], []⟩).2.out.2) ∧
      (Square.mk 2 2).holds (Pose.mk 255 0 .south).ahead = false ∧
      visitor.landing? = some ⟨0, 3, 0, .west, [.heading [.forward, .left, .forward]]⟩ ∧
      (Square.mk 2 2).holds ⟨3, 0, .west⟩ = false ∧
      (Square.mk 2 2).holds ⟨2, 0, .south⟩ = true := by
  have ran : (castaway.run .collect ⟨2, 2⟩ ⟨Scent.empty.mark ⟨255, 0, .east⟩, #[]⟩).1 =
      .ok ⟨"C", ⟨255, 0, .south⟩, true⟩ := rfl
  have far : castaway.landing? = some _ := rfl
  obtain ⟨_, _, _, _, ends, _⟩ := run_trajectory far ⟨2, 2⟩
    (Scent.empty.mark ⟨255, 0, .east⟩) .collect #[]
  obtain ⟨_, _, unmoved⟩ := (ends _ ran).1 (by decide)
  have near : visitor.landing? = some _ := rfl
  obtain ⟨_, _, _, stays, _, _⟩ := run_trajectory near ⟨2, 2⟩ .empty .collect #[]
  have inside := stays [.forward] [.left, .forward] ⟨"V", ⟨2, 0, .west⟩, false⟩
    ⟨"V", ⟨2, 0, .south⟩, true⟩ (List.prefix_refl _) ⟨_, rfl⟩ ⟨_, rfl⟩ (by decide)
  exact ⟨rfl, ran, unmoved, (ends _ ran).2 rfl, rfl, by decide, inside⟩

end Robot
end ScentedGrid
