import ScentedGrid.Proofs.Simulation.Report

/-! Turns that make no difference. All that a run shows of a robot's commands is the direction it
faces at each forward step and at the end, and this direction is the net turn so far, where four
quarters are none. Commands that agree in it are one course, however they are spelled. -/

namespace ScentedGrid

variable {σ : Type}

/-- Right turns less left turns, in quarters. -/
def netTurn (commands : List Command) : Int := commands.count .right - commands.count .left

@[simp] theorem netTurn_right (rest : List Command) :
    netTurn (.right :: rest) = netTurn rest + 1 := by
  simp only [netTurn, List.count_cons_self, List.count_cons_of_ne, ne_eq, reduceCtorEq,
    not_false_eq_true]
  omega

@[simp] theorem netTurn_left (rest : List Command) :
    netTurn (.left :: rest) = netTurn rest - 1 := by
  simp only [netTurn, List.count_cons_self, List.count_cons_of_ne, ne_eq, reduceCtorEq,
    not_false_eq_true]
  omega

@[simp] theorem netTurn_forward (rest : List Command) :
    netTurn (.forward :: rest) = netTurn rest := by
  simp only [netTurn, List.count_cons_of_ne, ne_eq, reduceCtorEq, not_false_eq_true]

/-- As many forward steps, with the same net turn before each of them and at the end. -/
structure SameCourse (first second : List Command) : Prop where
  steps : first.count .forward = second.count .forward
  turns : ∀ before after before' after', first = before ++ .forward :: after →
    second = before' ++ .forward :: after' → before.count .forward = before'.count .forward →
    netTurn before % 4 = netTurn before' % 4
  ends : netTurn first % 4 = netTurn second % 4

/-- Quarter turns clockwise from north. -/
def Direction.quarters (direction : Direction) : Int := all.idxOf direction

theorem Direction.quarters_clockwise (direction : Direction) :
    direction.clockwise.quarters % 4 = (direction.quarters + 1) % 4 := by
  cases direction <;> decide

theorem Direction.quarters_counterclockwise (direction : Direction) :
    direction.counterclockwise.quarters % 4 = (direction.quarters - 1) % 4 := by
  cases direction <;> decide

theorem Direction.quarters_injective {first second : Direction}
    (same : first.quarters % 4 = second.quarters % 4) : first = second := by
  revert same
  cases first <;> cases second <;> decide

/-! ## Facings -/

/-- The directions faced at the forward steps of a course, and the one faced at its end. -/
structure Facings where
  steps : List Direction
  last : Direction
  deriving DecidableEq

def Facings.step (facing : Direction) (later : Facings) : Facings :=
  ⟨facing :: later.steps, later.last⟩

def facings (facing : Direction) : List Command → Facings
  | [] => ⟨[], facing⟩
  | .right :: rest => facings facing.clockwise rest
  | .left :: rest => facings facing.counterclockwise rest
  | .forward :: rest => (facings facing rest).step facing

theorem facings_append (facing : Direction) (first rest : List Command) :
    facings facing (first ++ rest) =
      ⟨(facings facing first).steps ++ (facings (facings facing first).last rest).steps,
        (facings (facings facing first).last rest).last⟩ := by
  induction first generalizing facing with
  | nil => rfl
  | cons command more ih =>
    cases command with
    | right => exact ih facing.clockwise
    | left => exact ih facing.counterclockwise
    | forward =>
      rw [List.cons_append, facings, facings, ih]
      rfl

theorem facings_steps_length (facing : Direction) (commands : List Command) :
    (facings facing commands).steps.length = commands.count .forward := by
  induction commands generalizing facing with
  | nil => rfl
  | cons command rest ih =>
    cases command with
    | right => simpa [facings] using ih facing.clockwise
    | left => simpa [facings] using ih facing.counterclockwise
    | forward => simpa [facings, Facings.step] using ih facing

/-- The net turn leads from the first direction to the last one. -/
theorem facings_last_quarters (facing : Direction) (commands : List Command) :
    (facings facing commands).last.quarters % 4 = (facing.quarters + netTurn commands) % 4 := by
  induction commands generalizing facing with
  | nil => simp [facings, netTurn]
  | cons command rest ih =>
    cases command with
    | right =>
      have turned := facing.quarters_clockwise
      rw [facings, ih, netTurn_right]
      omega
    | left =>
      have turned := facing.quarters_counterclockwise
      rw [facings, ih, netTurn_left]
      omega
    | forward =>
      rw [facings, netTurn_forward]
      exact ih facing

theorem facings_last_eq_iff (facing : Direction) (first second : List Command) :
    (facings facing first).last = (facings facing second).last ↔
      netTurn first % 4 = netTurn second % 4 := by
  have left := facings_last_quarters facing first
  have right := facings_last_quarters facing second
  constructor
  · intro same
    rw [same] at left
    omega
  · intro same
    apply Direction.quarters_injective
    omega

/-- At a forward step a robot faces where the commands before it left it facing. -/
theorem facings_steps_getElem? (facing : Direction) (before after : List Command) :
    (facings facing (before ++ .forward :: after)).steps[before.count .forward]? =
      some (facings facing before).last := by
  rw [facings_append, ← facings_steps_length facing before,
    List.getElem?_append_right (Nat.le_refl _), Nat.sub_self]
  rfl

theorem exists_step {commands : List Command} {index : Nat}
    (inside : index < commands.count .forward) :
    ∃ before after, commands = before ++ .forward :: after ∧ before.count .forward = index := by
  induction commands generalizing index with
  | nil => cases inside
  | cons command rest ih =>
    cases command with
    | right =>
      obtain ⟨before, after, rfl, count⟩ := ih (by simpa using inside)
      exact ⟨.right :: before, after, rfl, by simpa using count⟩
    | left =>
      obtain ⟨before, after, rfl, count⟩ := ih (by simpa using inside)
      exact ⟨.left :: before, after, rfl, by simpa using count⟩
    | forward =>
      cases index with
      | zero => exact ⟨[], rest, rfl, rfl⟩
      | succ index =>
        obtain ⟨before, after, rfl, count⟩ := ih (by simpa using inside)
        exact ⟨.forward :: before, after, rfl, by simpa using count⟩

/-- Commands are the same course exactly if they have a robot face the same directions. -/
theorem sameCourse_iff (facing : Direction) (first second : List Command) :
    SameCourse first second ↔ facings facing first = facings facing second := by
  constructor
  · intro same
    have steps : (facings facing first).steps = (facings facing second).steps := by
      apply List.ext_getElem?
      intro index
      -- Either both courses have a step of this index or neither has.
      by_cases inside : index < first.count .forward
      · obtain ⟨before, after, rfl, count⟩ := exists_step inside
        obtain ⟨before', after', rfl, count'⟩ := exists_step (same.steps ▸ inside)
        have turns := same.turns before after before' after' rfl rfl (count.trans count'.symm)
        rw [← count, facings_steps_getElem?, count, ← count', facings_steps_getElem?,
          (facings_last_eq_iff facing before before').2 turns]
      · rw [List.getElem?_eq_none, List.getElem?_eq_none]
        · rw [facings_steps_length, ← same.steps]
          exact Nat.le_of_not_lt inside
        · rw [facings_steps_length]
          exact Nat.le_of_not_lt inside
    have last := (facings_last_eq_iff facing first second).2 same.ends
    cases faced : facings facing first
    cases faced' : facings facing second
    rw [faced, faced'] at steps last
    cases steps
    cases last
    rfl
  · intro same
    refine ⟨?_, ?_, ?_⟩
    · rw [← facings_steps_length facing, same, facings_steps_length]
    · rintro before after before' after' rfl rfl count
      have here := facings_steps_getElem? facing before after
      rw [same, count, facings_steps_getElem?] at here
      exact (facings_last_eq_iff facing before before').1 (Option.some.inj here).symm
    · exact (facings_last_eq_iff facing first second).1 (congrArg Facings.last same)

instance (first second : List Command) : Decidable (SameCourse first second) :=
  decidable_of_iff' _ (sameCourse_iff .north first second)

namespace Simulation

/-- The walk of a robot that faces given directions. -/
def tread (square : Square) (scent : Scent) (robot : String) (x y : Int) (last : Direction) :
    List Direction → Walk
  | [] => ⟨[], ⟨robot, ⟨x, y, last⟩, false⟩⟩
  | facing :: rest =>
    let pose : Pose := ⟨x, y, facing⟩
    let events := (stride square scent pose).events robot pose
    match (stride square scent pose).footing pose with
    | .fallen => ⟨events, ⟨robot, pose, true⟩⟩
    | .standing next =>
      let onward := tread square scent robot next.x next.y last rest
      ⟨events ++ onward.events, onward.outcome⟩

theorem Stride.standing_facing {stride : Stride} {pose next : Pose}
    (standing : stride.footing pose = .standing next) : next.facing = pose.facing := by
  cases stride <;> cases standing <;> rfl

theorem walk_eq_tread (square : Square) (scent : Scent) (robot : String) (course : List Command)
    (pose : Pose) :
    walk square scent robot course pose =
      tread square scent robot pose.x pose.y (facings pose.facing course).last
        (facings pose.facing course).steps := by
  induction course generalizing pose with
  | nil => rfl
  | cons command rest ih =>
    cases command with
    | right => exact ih pose.turnedRight
    | left => exact ih pose.turnedLeft
    | forward =>
      rw [walk, facings, Facings.step, tread]
      cases footing : (stride square scent pose).footing pose with
      | fallen => rfl
      | standing next =>
        have facing := Stride.standing_facing footing
        simp only [ih next, facing]

theorem walk_sameCourse {first second : List Command} (same : SameCourse first second)
    (square : Square) (scent : Scent) (robot : String) (pose : Pose) :
    walk square scent robot first pose = walk square scent robot second pose := by
  rw [walk_eq_tread, walk_eq_tread, (sameCourse_iff pose.facing first second).1 same]

end Simulation

namespace Robot

/-- Robots of one name that land in one pose and follow one course cannot be told apart. -/
theorem run_sameCourse {first second : Robot} {landing landing' : Landing}
    (name : first.name = second.name) (found : first.landing? = some landing)
    (found' : second.landing? = some landing') (pose : landing.pose = landing'.pose)
    (same : SameCourse landing.course landing'.course) (sink : Sink σ) (square : Square)
    (world : World σ) : first.run sink square world = second.run sink square world := by
  obtain ⟨scent, out⟩ := world
  rw [run_landing found, run_landing found', Simulation.follow_eq, Simulation.follow_eq, name, pose,
    Simulation.walk_sameCourse same]

theorem landing_after_headings (name : String) (idle : List (List Command)) (x y : UInt8)
    (facing : Direction) (after : List Instruction) :
    (Robot.mk name (idle.map .heading ++ .landing x y facing :: after)).landing? =
      some ⟨idle.length, x, y, facing, after⟩ := by
  induction idle with
  | nil => rfl
  | cons commands rest ih =>
    have later : Landing.first? (rest.map .heading ++ .landing x y facing :: after) = _ := ih
    change (Landing.first? (rest.map .heading ++ .landing x y facing :: after)).map _ = _
    rw [later]
    rfl

/-- Nothing but the net turns between forward steps shows in a run: neither what stands before the
first landing, nor later landings, nor how the commands are parted into headings. -/
theorem run_netTurn :
    (∀ (first second : Robot) (landing landing' : Landing), first.name = second.name →
      first.landing? = some landing → second.landing? = some landing' →
      landing.pose = landing'.pose → SameCourse landing.course landing'.course →
      ∀ {σ : Type} (sink : Sink σ) (square : Square),
        (∀ world : World σ, first.run sink square world = second.run sink square world) ∧
        ∀ scent out, sink.Willing out →
          ∃ outcome, (first.run sink square ⟨scent, out⟩).1 = .ok outcome) ∧
    ∀ (name : String) (x y : UInt8) (facing : Direction) (idle idle' : List (List Command))
      (after after' : List Instruction),
      after.flatMap Instruction.commands = after'.flatMap Instruction.commands →
      ∀ {σ : Type} (sink : Sink σ) (square : Square) (world : World σ),
        (Robot.mk name (idle.map .heading ++ .landing x y facing :: after)).run sink square world =
          (Robot.mk name (idle'.map .heading ++ .landing x y facing :: after')).run sink square
            world := by
  constructor
  · intro first second landing landing' name found found' pose same σ sink square
    refine ⟨fun world => run_sameCourse name found found' pose same sink square world, ?_⟩
    intro scent out willing
    have lands : first.Lands := by rw [Lands, found]; rfl
    rw [run_willing willing]
    exact first.report_answer lands square scent
  · intro name x y facing idle idle' after after' commands σ sink square world
    have found := landing_after_headings name idle x y facing after
    have found' := landing_after_headings name idle' x y facing after'
    have same : SameCourse (after.flatMap Instruction.commands)
        (after'.flatMap Instruction.commands) := by
      rw [commands]
      exact (sameCourse_iff facing _ _).2 rfl
    refine run_sameCourse ?_ found found' rfl same sink square world
    rfl

/-- Goes north, is held in the east and turns round. -/
def plain : Robot :=
  ⟨"A", [.landing 1 1 .north, .heading [.forward, .right, .forward, .right, .right]]⟩

/-- Does the same by other turns, among instructions that do nothing. -/
def winding : Robot :=
  ⟨"A", [.heading [.left], .landing 1 1 .north, .heading [], .heading [.left, .right, .forward],
    .landing 0 0 .south, .heading [.left, .left, .left], .heading [.forward, .left, .left]]⟩

theorem run_netTurn_winding :
    SameCourse [.forward, .right, .forward, .right, .right]
        [.left, .right, .forward, .left, .left, .left, .forward, .left, .left] ∧
      (plain.run .collect ⟨1, 2⟩ ⟨Scent.empty.mark ⟨1, 2, .east⟩, #[]⟩).1 =
        .ok ⟨"A", ⟨1, 2, .west⟩, false⟩ ∧
      (winding.run .collect ⟨1, 2⟩ ⟨Scent.empty.mark ⟨1, 2, .east⟩, #[]⟩).1 =
        .ok ⟨"A", ⟨1, 2, .west⟩, false⟩ ∧
      (winding.run .collect ⟨1, 2⟩ ⟨Scent.empty.mark ⟨1, 2, .east⟩, #[]⟩).2.out =
        #[.tryingMove "A" ⟨1, 2, .north⟩, .moved "A" ⟨1, 2, .north⟩,
          .tryingMove "A" ⟨2, 2, .east⟩] := by
  have same : SameCourse [.forward, .right, .forward, .right, .right]
      [.left, .right, .forward, .left, .left, .left, .forward, .left, .left] := by decide
  have ran : (plain.run .collect ⟨1, 2⟩ ⟨Scent.empty.mark ⟨1, 2, .east⟩, #[]⟩).1 =
      .ok ⟨"A", ⟨1, 2, .west⟩, false⟩ := rfl
  have alike := (run_netTurn.1 plain winding _ _ rfl rfl rfl rfl same .collect ⟨1, 2⟩).1
    ⟨Scent.empty.mark ⟨1, 2, .east⟩, #[]⟩
  rw [← alike]
  exact ⟨same, ran, ran, rfl⟩

end Robot
end ScentedGrid
