import ScentedGrid.Proofs.Bytecode.Canonical
import ScentedGrid.Proofs.Execution
import ScentedGrid.Proofs.Generator

/-! Generated missions through every stage. Their names are short, their headings command something
and their robots land on the grid, which is all that the printer, the codes and the simulator ask
of a mission. -/

namespace ScentedGrid

open Text

/-! ## Names -/

/-- A number below a power of the base has no more digits than the power says. -/
theorem digits_length {base number count : Nat} (small : number < Nat.pow base (count + 1)) :
    (digits base number).length ≤ count + 1 := by
  fun_induction digits base number generalizing count with
  | case1 number single => simp
  | case2 number large ih =>
    cases count with
    | zero =>
      have one : Nat.pow base 1 = base := Nat.pow_one base
      rw [Nat.zero_add, one] at small
      omega
    | succ count =>
      have fewer : number / base < Nat.pow base (count + 1) := by
        apply Nat.div_lt_of_lt_mul
        exact Nat.lt_of_lt_of_eq small Nat.pow_succ'
      have shorter := ih fewer
      rw [List.length_append, List.length_singleton]
      omega

theorem decimal_length {number : Nat} (small : number < Nat.pow 10 254) :
    (decimal number).toList.length ≤ 254 := by
  rw [decimal, String.toList_ofList, List.length_map]
  exact digits_length small

theorem decimal_spelled (number : Nat) : ∀ c ∈ (decimal number).toList, NameChar c :=
  fun c member => .inr (.inr (.inl ((decimal_numeral number).digits c member)))

/-- Numbers of fewer than 255 digits leave a byte for the letter before them. -/
theorem Robot.Generated.expressible {robot : Robot} {square : Square} {commands index : Nat}
    (generated : robot.Generated square (max commands 1) index) (small : index < Nat.pow 10 254) :
    robot.Expressible := by
  obtain ⟨x, y, facing, course, rfl, _, length⟩ := generated
  have name : ("R" ++ decimal index).toList = 'R' :: (decimal index).toList := by
    rw [String.toList_append]
    rfl
  have spelled : ∀ c ∈ ("R" ++ decimal index).toList, NameChar c := by
    rw [name]
    intro c member
    rcases List.mem_cons.1 member with rfl | digit
    · exact .inl (by decide)
    · exact decimal_spelled index c digit
  refine ⟨?_, spelled, ?_, ?_⟩
  · rw [name]
    exact List.cons_ne_nil _ _
  · have digits := decimal_length small
    rw [Utf8.encode, encodeChars_spelled spelled, List.length_map, name, List.length_cons]
    omega
  · intro member
    have empty : course = [] := by simpa using member
    rw [empty, List.length_nil] at length
    omega

theorem Mission.Generated.expressible {mission : Mission} {plan : Plan}
    (generated : mission.Generated plan) (few : plan.robots ≤ Nat.pow 10 254) : mission.Expressible := by
  intro robot member
  obtain ⟨index, taken⟩ := List.getElem?_of_mem member
  have inside := (List.getElem?_eq_some_iff.1 taken).1
  rw [generated.count] at inside
  exact (generated.robots index robot taken).expressible (Nat.lt_of_lt_of_le inside few)

theorem Plan.square_positive (plan : Plan) : plan.square.Positive := by
  have side (byte : UInt8) : 0 < (max byte 1).toNat := by
    change 0 < (if byte ≤ 1 then 1 else byte).toNat
    by_cases small : byte ≤ 1
    · rw [if_pos small]
      decide
    · rw [UInt8.le_iff_toNat_le, UInt8.toNat_one] at small
      rw [if_neg (mt UInt8.le_iff_toNat_le.1 small)]
      omega
  exact ⟨side plan.width, side plan.height⟩

/-! ## Runs -/

theorem Mission.outcomes_inside {mission : Mission} (landed : mission.Lands)
    (inside : mission.LandsInside) :
    ∀ outcome ∈ mission.outcomes, mission.square.holds outcome.pose = true := by
  intro outcome member
  obtain ⟨index, ended⟩ := List.getElem?_of_mem member
  have names : mission.outcomes.map Outcome.name = mission.robots.map Robot.name :=
    Simulation.outcomes_names landed .empty
  cases taken : mission.robots[index]? with
  | none =>
    have named := congrArg (·[index]?) names
    simp only [List.getElem?_map, ended, taken] at named
    cases named
  | some robot =>
    have answer := (Mission.outcomes_getElem?_iff landed taken).1 ended
    obtain ⟨landing, found, walks⟩ := Robot.report_walks answer
    exact walks.stays (inside robot (List.mem_of_getElem? taken) landing found)

/-! ## Every stage -/

/-- Missions drawn from any source, the engine of the generator among them, have the shape that
was asked for and pass through printing and reading, through writing and decoding, and through a
run that nothing refuses. The bound keeps names to the 255 bytes that there is room for; any count
of 64 bits is below it. -/
theorem Plan.mission_passes {plan : Plan} (few : plan.robots ≤ Nat.pow 10 254) :
    (∀ limit seed, plan.mission? limit seed =
      (Sampler.engine limit).mission? plan (.ofSeed seed)) ∧
    ∀ {σ : Type} (sampler : Sampler σ) (state : σ),
      (sampler.Finds → ∃ mission, sampler.mission? plan state = some mission) ∧
      ∀ mission, sampler.mission? plan state = some mission →
        mission.square = ⟨max plan.width 1, max plan.height 1⟩ ∧
        mission.robots.length = plan.robots ∧
        (∀ index (robot : Robot), mission.robots[index]? = some robot →
          ∃ x y facing course,
            robot = ⟨"R" ++ decimal index, [.landing x y facing, .heading course]⟩ ∧
            mission.square.holds ⟨x.toNat, y.toNat, facing⟩ = true ∧
            course.length = max plan.commands 1) ∧
        Mission.parse mission.source = .ok mission ∧
        (∃ bytes, mission.encode = .ok bytes ∧ Mission.decode bytes = .ok mission) ∧
        ∀ {κ : Type} (sink : Sink κ) (out : κ), sink.Willing out →
          ∃ outcomes, (mission.simulate sink out).1 = .ok outcomes ∧
            outcomes.map Outcome.name = mission.robots.map Robot.name ∧
            ∀ outcome ∈ outcomes, mission.square.holds outcome.pose = true := by
  refine ⟨fun limit seed => rfl,
    fun sampler state => ⟨fun finds => Sampler.mission?_found finds plan state, ?_⟩⟩
  intro mission drawn
  have generated := Sampler.mission?_generated drawn
  have expressible := generated.expressible few
  have positive : mission.square.Positive := generated.square ▸ plan.square_positive
  obtain ⟨landed, inside⟩ := generated.lands
  refine ⟨generated.square, generated.count, ?_, ?_, ⟨mission.layout, ?_, ?_⟩, ?_⟩
  · rw [generated.square]
    exact generated.robots
  · exact Source.mission_read (missionText_source positive expressible)
  · exact (mission.encode_eq_ok_iff mission.layout).2 ⟨expressible, rfl⟩
  · exact (Mission.decode_eq_ok_iff mission.layout mission).2 ⟨positive, expressible, rfl⟩
  · intro κ sink out willing
    refine ⟨mission.outcomes, ?_, Simulation.outcomes_names landed .empty,
      Mission.outcomes_inside landed inside⟩
    rw [mission.simulate_willing landed willing]

/-- A side and a heading of zero, and a side that takes whole bytes. -/
theorem Plan.mission_passes_clamped :
    let plan : Plan := ⟨0, 255, 2, 0⟩
    let mission : Mission := ⟨⟨1, 255⟩,
      [⟨"R0", [.landing 1 35 .east, .heading [.forward]]⟩,
        ⟨"R1", [.landing 1 144 .west, .heading [.forward]]⟩]⟩
    plan.robots ≤ Nat.pow 10 254 ∧ plan.mission? 4 5 = some mission ∧
      Mission.parse mission.source = .ok mission ∧
      (∃ bytes, mission.encode = .ok bytes ∧ Mission.decode bytes = .ok mission) ∧
      ∃ outcomes, (mission.simulate .collect #[]).1 = .ok outcomes ∧
        ∀ outcome ∈ outcomes, mission.square.holds outcome.pose = true := by
  intro plan mission
  have few : plan.robots ≤ Nat.pow 10 254 := by decide
  have drawn : plan.mission? 4 5 = some mission := by decide +kernel
  obtain ⟨engine, every⟩ := mission_passes few
  obtain ⟨_, _, _, parsed, coded, run⟩ :=
    (every (Sampler.engine 4) (.ofSeed 5)).2 mission ((engine 4 5).symm.trans drawn)
  obtain ⟨outcomes, ended, _, inside⟩ := run .collect #[] (Sink.collect_willing #[])
  exact ⟨few, drawn, parsed, coded, outcomes, ended, inside⟩

end ScentedGrid
