import ScentedGrid.Proofs.Generator

/-! Missions of one seed that ask for more or for less. Robots are drawn one after another and the
commands of a robot after its landing, so a shorter mission is what a longer one begins with, and
nothing that is drawn depends on how much is still to come. -/

namespace ScentedGrid

namespace Draw

variable {limit patience : Nat} {engine : Engine}

/-- A word that was accepted is accepted as well where more rejections would have been allowed. -/
theorem firstWithin_patient {word : Engine → Nat × Engine} {modulus range zone : Nat}
    {drawn : Nat × Engine} (le : limit ≤ patience)
    (found : firstWithin word modulus range zone limit engine = some drawn) :
    firstWithin word modulus range zone patience engine = some drawn := by
  induction limit generalizing patience engine with
  | zero => cases found
  | succ limit ih =>
    cases patience with
    | zero => exact absurd le (Nat.not_succ_le_zero limit)
    | succ patience =>
      rw [firstWithin] at found ⊢
      by_cases accepted : (word engine).1 * range % modulus ≤ zone
      · simpa only [accepted, if_true] using found
      · simp only [accepted, if_false] at found ⊢
        exact ih (Nat.le_of_succ_le_succ le) found

theorem byteUpTo_patient {last : UInt8} {drawn : UInt8 × Engine} (le : limit ≤ patience)
    (found : byteUpTo limit last engine = some drawn) :
    byteUpTo patience last engine = some drawn := by
  unfold byteUpTo at found ⊢
  by_cases full : last = 255
  · simpa only [full, if_true] using found
  · simp only [full, if_false, Option.map_eq_some_iff] at found ⊢
    obtain ⟨number, first, same⟩ := found
    exact ⟨number, firstWithin_patient le first, same⟩

end Draw

namespace Sampler

variable {σ : Type} {sampler patient : Sampler σ} {state next : σ} {square : Square}

/-- Whatever the first source finds, the second finds too, and the same. -/
structure Below (sampler patient : Sampler σ) : Prop where
  byteUpTo : ∀ {last state drawn}, sampler.byteUpTo last state = some drawn →
    patient.byteUpTo last state = some drawn
  indexBelow : ∀ {range state drawn}, sampler.indexBelow range state = some drawn →
    patient.indexBelow range state = some drawn

theorem engine_below {limit patience : Nat} (le : limit ≤ patience) :
    (engine limit).Below (engine patience) :=
  ⟨Draw.byteUpTo_patient le, Draw.firstWithin_patient le⟩

namespace Below

variable (below : sampler.Below patient)
include below

theorem element {α : Type} {choices : List α} {drawn : α × σ}
    (found : sampler.element choices state = some drawn) :
    patient.element choices state = some drawn := by
  unfold Sampler.element at found ⊢
  cases index : sampler.indexBelow choices.length state with
  | none => simp only [index, reduceCtorEq] at found
  | some place => simpa only [index, below.indexBelow index] using found

theorem drawCommands {count : Nat} {drawn : List Command × σ}
    (found : sampler.drawCommands count state = some drawn) :
    patient.drawCommands count state = some drawn := by
  induction count generalizing state drawn with
  | zero => exact found
  | succ count ih =>
    simp only [Sampler.drawCommands, Option.bind_eq_bind, Option.bind_eq_some_iff] at found ⊢
    obtain ⟨first, drawnFirst, rest, drawnRest, same⟩ := found
    exact ⟨first, below.element drawnFirst, rest, ih drawnRest, same⟩

theorem drawRobot {commands index : Nat} {drawn : Robot × σ}
    (found : sampler.drawRobot square commands index state = some drawn) :
    patient.drawRobot square commands index state = some drawn := by
  simp only [Sampler.drawRobot, Option.bind_eq_bind, Option.bind_eq_some_iff] at found ⊢
  obtain ⟨x, drawnX, y, drawnY, facing, drawnFacing, course, drawnCourse, same⟩ := found
  exact ⟨x, below.byteUpTo drawnX, y, below.byteUpTo drawnY, facing, below.element drawnFacing,
    course, below.drawCommands drawnCourse, same⟩

theorem drawRobots {commands index count : Nat} {drawn : List Robot × σ}
    (found : sampler.drawRobots square commands index count state = some drawn) :
    patient.drawRobots square commands index count state = some drawn := by
  induction count generalizing index state drawn with
  | zero => exact found
  | succ count ih =>
    simp only [Sampler.drawRobots, Option.bind_eq_bind, Option.bind_eq_some_iff] at found ⊢
    obtain ⟨first, drawnFirst, rest, drawnRest, same⟩ := found
    exact ⟨first, below.drawRobot drawnFirst, rest, ih drawnRest, same⟩

theorem mission? {plan : Plan} {mission : Mission}
    (found : sampler.mission? plan state = some mission) :
    patient.mission? plan state = some mission := by
  simp only [Sampler.mission?, Option.bind_eq_bind, Option.bind_eq_some_iff] at found ⊢
  obtain ⟨robots, drawn, same⟩ := found
  exact ⟨robots, below.drawRobots drawn, same⟩

end Below

/-! ## Fewer commands and fewer robots -/

theorem drawCommands_take {few many : Nat} {course : List Command} (le : few ≤ many)
    (drawn : sampler.drawCommands many state = some (course, next)) :
    ∃ between, sampler.drawCommands few state = some (course.take few, between) := by
  induction few generalizing many state course next with
  | zero => exact ⟨state, rfl⟩
  | succ few ih =>
    cases many with
    | zero => exact absurd le (Nat.not_succ_le_zero few)
    | succ many =>
      simp only [drawCommands, Option.bind_eq_bind, Option.bind_eq_some_iff, Option.pure_def,
        Option.some.injEq, Prod.mk.injEq, Prod.exists] at drawn
      obtain ⟨first, after, drawnFirst, rest, _, drawnRest, rfl, _⟩ := drawn
      obtain ⟨between, fewer⟩ := ih (Nat.le_of_succ_le_succ le) drawnRest
      exact ⟨between, by simp [drawCommands, drawnFirst, fewer]⟩

/-- The landing is drawn before any command, so it does not depend on their count. -/
theorem drawRobot_take {few many index : Nat} {robot : Robot} (le : few ≤ many)
    (drawn : sampler.drawRobot square many index state = some (robot, next)) :
    ∃ name x y facing course between, robot = ⟨name, [.landing x y facing, .heading course]⟩ ∧
      sampler.drawRobot square few index state =
        some (⟨name, [.landing x y facing, .heading (course.take few)]⟩, between) := by
  simp only [drawRobot, Option.bind_eq_bind, Option.bind_eq_some_iff, Option.pure_def,
    Option.some.injEq, Prod.mk.injEq, Prod.exists] at drawn
  obtain ⟨x, _, drawnX, y, _, drawnY, facing, _, drawnFacing, course, _, drawnCourse, rfl, _⟩ :=
    drawn
  obtain ⟨between, fewer⟩ := drawCommands_take le drawnCourse
  exact ⟨_, x, y, facing, course, between, rfl,
    by simp [drawRobot, drawnX, drawnY, drawnFacing, fewer]⟩

theorem drawRobots_take {commands index few many : Nat} {robots : List Robot} (le : few ≤ many)
    (drawn : sampler.drawRobots square commands index many state = some (robots, next)) :
    ∃ between, sampler.drawRobots square commands index few state =
      some (robots.take few, between) := by
  induction few generalizing many index state robots next with
  | zero => exact ⟨state, rfl⟩
  | succ few ih =>
    cases many with
    | zero => exact absurd le (Nat.not_succ_le_zero few)
    | succ many =>
      simp only [drawRobots, Option.bind_eq_bind, Option.bind_eq_some_iff, Option.pure_def,
        Option.some.injEq, Prod.mk.injEq, Prod.exists] at drawn
      obtain ⟨first, after, drawnFirst, rest, _, drawnRest, rfl, _⟩ := drawn
      obtain ⟨between, fewer⟩ := ih (Nat.le_of_succ_le_succ le) drawnRest
      exact ⟨between, by simp [drawRobots, drawnFirst, fewer]⟩

theorem mission?_take {plan : Plan} {mission : Mission} {count : Nat} (le : count ≤ plan.robots)
    (drawn : sampler.mission? plan state = some mission) :
    sampler.mission? { plan with robots := count } state =
      some ⟨mission.square, mission.robots.take count⟩ := by
  simp only [mission?, Option.bind_eq_bind, Option.bind_eq_some_iff, Option.pure_def,
    Option.some.injEq, Prod.exists] at drawn
  obtain ⟨robots, _, drawn, rfl⟩ := drawn
  obtain ⟨between, fewer⟩ := drawRobots_take le drawn
  have same : { plan with robots := count }.square = plan.square := rfl
  simp [mission?, same, fewer]

/-- A mission begins with the robot that is drawn first. -/
theorem mission?_head {plan : Plan} {mission : Mission} (several : 0 < plan.robots)
    (drawn : sampler.mission? plan state = some mission) :
    ∃ first next, mission.robots.head? = some first ∧
      sampler.drawRobot plan.square (max plan.commands 1) 0 state = some (first, next) := by
  obtain ⟨count, robots⟩ := Nat.exists_eq_succ_of_ne_zero (Nat.ne_of_gt several)
  simp only [mission?, robots, drawRobots, Option.bind_eq_bind, Option.bind_eq_some_iff,
    Option.pure_def, Option.some.injEq, Prod.exists] at drawn
  obtain ⟨_, _, ⟨first, next, drawnFirst, rest, _, _, same⟩, rfl⟩ := drawn
  cases same
  exact ⟨first, next, rfl, drawnFirst⟩

theorem mission?_one (plan : Plan) {robot : Robot}
    (drawn : sampler.drawRobot plan.square (max plan.commands 1) 0 state = some (robot, next)) :
    sampler.mission? { plan with robots := 1 } state = some ⟨plan.square, [robot]⟩ := by
  have same : { plan with robots := 1 }.square = plan.square := rfl
  simp [mission?, drawRobots, same, drawn]

end Sampler

/-- A mission drawn from any source, the engine of the generator among them, begins with the mission
of fewer robots, and its first robot with the course of fewer commands. A plan that finds a mission
finds one also with fewer robots, with one robot of fewer commands, and where more rejections are
allowed. Counts of zero commands are read as one. -/
theorem Plan.mission_extends :
    (∀ (plan : Plan) limit seed, plan.mission? limit seed =
      (Sampler.engine limit).mission? plan (.ofSeed seed)) ∧
    (∀ (plan : Plan) limit patience seed mission, limit ≤ patience →
      plan.mission? limit seed = some mission → plan.mission? patience seed = some mission) ∧
    ∀ {σ : Type} (sampler : Sampler σ) (state : σ) (plan : Plan) (mission : Mission),
      sampler.mission? plan state = some mission →
      (∀ robots, robots ≤ plan.robots →
        sampler.mission? { plan with robots := robots } state =
          some ⟨mission.square, mission.robots.take robots⟩) ∧
      (0 < plan.robots → ∀ commands, commands ≤ plan.commands →
        (∃ shorter, sampler.mission? { plan with robots := 1, commands := commands } state =
          some shorter) ∧
        ∀ robots shorter, 0 < robots →
          sampler.mission? { plan with robots := robots, commands := commands } state =
            some shorter →
          ∃ name x y facing course more,
            shorter.robots.head? =
              some ⟨name, [.landing x y facing, .heading course]⟩ ∧
            mission.robots.head? =
              some ⟨name, [.landing x y facing, .heading (course ++ more)]⟩) := by
  refine ⟨fun plan limit seed => rfl, ?_, ?_⟩
  · intro plan limit patience seed mission le drawn
    exact (Sampler.engine_below le).mission? drawn
  · intro σ sampler state plan mission drawn
    refine ⟨fun robots le => Sampler.mission?_take le drawn, fun several commands le => ?_⟩
    obtain ⟨first, _, head, drawnFirst⟩ := Sampler.mission?_head several drawn
    have fewer : max commands 1 ≤ max plan.commands 1 := by omega
    obtain ⟨name, x, y, facing, course, _, rfl, drawnFewer⟩ :=
      Sampler.drawRobot_take fewer drawnFirst
    refine ⟨⟨_, Sampler.mission?_one { plan with commands := commands } drawnFewer⟩, ?_⟩
    intro robots shorter filled drawnShorter
    obtain ⟨shortened, _, headShorter, drawnAgain⟩ := Sampler.mission?_head filled drawnShorter
    have same : shortened = ⟨name, [.landing x y facing,
        .heading (course.take (max commands 1))]⟩ :=
      congrArg Prod.fst (Option.some.inj (drawnAgain.symm.trans drawnFewer))
    refine ⟨name, x, y, facing, course.take (max commands 1), course.drop (max commands 1), ?_, ?_⟩
    · rw [headShorter, same]
    · rw [head, List.take_append_drop]

/-- One word is rejected on the way. With two commands instead of three the first robot keeps its
landing, and the second, drawn from other words, lands elsewhere. -/
theorem Plan.mission_extends_rejecting :
    let plan : Plan := ⟨2, 4, 2, 3⟩
    let first : Robot := ⟨"R0", [.landing 2 1 .east, .heading [.forward, .left, .forward]]⟩
    let mission : Mission := ⟨⟨2, 4⟩,
      [first, ⟨"R1", [.landing 0 0 .east, .heading [.forward, .forward, .forward]]⟩]⟩
    let shorter : Mission := ⟨⟨2, 4⟩,
      [⟨"R0", [.landing 2 1 .east, .heading [.forward, .left]]⟩,
        ⟨"R1", [.landing 1 0 .east, .heading [.forward, .forward]]⟩]⟩
    plan.mission? 1 7 = none ∧ plan.mission? 2 7 = some mission ∧
      plan.mission? 4 7 = some mission ∧
      { plan with robots := 1 }.mission? 4 7 = some ⟨⟨2, 4⟩, [first]⟩ ∧
      { plan with commands := 2 }.mission? 4 7 = some shorter ∧
      ∃ name x y facing course more,
        shorter.robots.head? = some ⟨name, [.landing x y facing, .heading course]⟩ ∧
        mission.robots.head? =
          some ⟨name, [.landing x y facing, .heading (course ++ more)]⟩ := by
  intro plan first mission shorter
  have rejected : plan.mission? 1 7 = none := by decide +kernel
  have drawn : plan.mission? 2 7 = some mission := by decide +kernel
  have drawnShorter : { plan with commands := 2 }.mission? 4 7 = some shorter := by
    decide +kernel
  obtain ⟨engine, patient, every⟩ := mission_extends
  have again := patient plan 2 4 7 mission (by decide) drawn
  obtain ⟨fewer, commands⟩ := every (Sampler.engine 4) (.ofSeed 7) plan mission
    ((engine plan 4 7).symm.trans again)
  have single := (engine { plan with robots := 1 } 4 7).trans (fewer 1 (by decide))
  have alike := (commands (by decide) 2 (by decide)).2 2 shorter (by decide)
    ((engine { plan with commands := 2 } 4 7).symm.trans drawnShorter)
  exact ⟨rejected, drawn, again, single, drawnShorter, alike⟩

end ScentedGrid
