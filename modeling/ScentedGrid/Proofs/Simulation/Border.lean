import Mathlib.Data.List.Nodup
import Mathlib.Data.List.Perm.Subperm
import ScentedGrid.Proofs.Generator
import ScentedGrid.Proofs.Simulation.History
import ScentedGrid.Proofs.Simulation.Trajectory

/-! The border of the grid. Whoever falls from the grid falls from a pose that looks out of it, and
no two robots fall from the same pose. So a mission whose robots land on the grid loses no more of
them than the border has poses, and it loses as many if one robot steps off at each. -/

namespace ScentedGrid

namespace Square

variable {square : Square} {pose : Pose} {side : Direction}

/-- The poses on the grid that look out of it to one side. -/
def edge (square : Square) (side : Direction) : List Pose :=
  let columns := List.range (square.width.toNat + 1)
  let rows := List.range (square.height.toNat + 1)
  match side with
  | .north => columns.map fun x : Nat => ⟨x, square.height.toNat, .north⟩
  | .east => rows.map fun y : Nat => ⟨square.width.toNat, y, .east⟩
  | .south => columns.map fun x : Nat => ⟨x, 0, .south⟩
  | .west => rows.map fun y : Nat => ⟨0, y, .west⟩

def border (square : Square) : List Pose := Direction.all.flatMap square.edge

theorem outside_iff :
    square.holds pose = false ↔
      ¬(0 ≤ pose.x ∧ pose.x ≤ square.width.toNat ∧ 0 ≤ pose.y ∧ pose.y ≤ square.height.toNat) := by
  rw [← holds_iff, Bool.not_eq_true]

theorem mem_edge :
    pose ∈ square.edge side ↔
      pose.facing = side ∧ square.holds pose = true ∧ square.holds pose.ahead = false := by
  obtain ⟨x, y, facing⟩ := pose
  simp only [holds_iff, outside_iff, Pose.ahead]
  constructor
  · intro member
    cases side <;> simp only [edge, List.mem_map, List.mem_range, Pose.mk.injEq] at member <;>
      obtain ⟨place, bound, rfl, rfl, rfl⟩ := member <;>
      exact ⟨rfl, by omega, by simp only [Direction.step]; omega⟩
  · rintro ⟨rfl, inside, outside⟩
    cases facing <;> simp only [Direction.step] at outside <;>
      simp only [edge, List.mem_map, List.mem_range, Pose.mk.injEq, and_true]
    · exact ⟨x.toNat, by omega, by omega, by omega⟩
    · exact ⟨y.toNat, by omega, by omega, by omega⟩
    · exact ⟨x.toNat, by omega, by omega, by omega⟩
    · exact ⟨y.toNat, by omega, by omega, by omega⟩

theorem mem_border :
    pose ∈ square.border ↔ square.holds pose = true ∧ square.holds pose.ahead = false := by
  have among : pose.facing ∈ Direction.all := by cases pose.facing <;> decide
  simp only [border, List.mem_flatMap, mem_edge]
  constructor
  · rintro ⟨_, _, _, outward⟩
    exact outward
  · intro outward
    exact ⟨pose.facing, among, rfl, outward⟩

theorem edge_nodup (square : Square) (side : Direction) : (square.edge side).Nodup := by
  cases side <;> apply List.Nodup.map _ List.nodup_range <;> intro first second same <;>
    simp only [Pose.mk.injEq] at same <;> omega

theorem border_nodup (square : Square) : square.border.Nodup := by
  rw [border, List.nodup_flatMap]
  refine ⟨fun side _ => square.edge_nodup side, ?_⟩
  have distinct : Direction.all.Nodup := by decide
  refine distinct.imp ?_
  intro first second differ pose inFirst inSecond
  exact differ ((mem_edge.1 inFirst).1.symm.trans (mem_edge.1 inSecond).1)

/-- Corners count once for each of the two sides they look out of. -/
theorem border_length (square : Square) :
    square.border.length = 2 * (square.width.toNat + 1) + 2 * (square.height.toNat + 1) := by
  simp only [border, Direction.all, List.flatMap_cons, List.flatMap_nil, List.length_append,
    List.length_nil, edge, List.length_map, List.length_range]
  omega

end Square

theorem falls_length (outcomes : List Outcome) :
    (falls outcomes).length = outcomes.countP Outcome.lost := by
  rw [falls, List.length_map, List.countP_eq_length_filter]

namespace Simulation

variable {square : Square}

/-- Robots that land on the grid fall from its border. -/
theorem falls_border {robots : List Robot} (landed : ∀ robot ∈ robots, robot.Lands)
    (inside : (Mission.mk square robots).LandsInside) (scent : Scent) :
    falls (outcomes square robots scent) ⊆ square.border := by
  induction robots generalizing scent with
  | nil => exact List.nil_subset _
  | cons robot rest ih =>
    obtain ⟨lands, othersLand⟩ := List.forall_mem_cons.1 landed
    obtain ⟨within, othersInside⟩ := List.forall_mem_cons.1 inside
    obtain ⟨outcome, answer⟩ := robot.report_answer lands square scent
    obtain ⟨landing, found, walks⟩ := Robot.report_walks answer
    rw [outcomes_cons answer, falls_cons]
    refine List.append_subset.2 ⟨?_, ih othersLand othersInside _⟩
    cases lost : outcome.lost with
    | false => simp [falls, lost]
    | true =>
      have outward : outcome.pose ∈ square.border :=
        Square.mem_border.2 ⟨walks.stays (within landing found), (walks.lost_fresh lost).2⟩
      simpa [falls, lost] using outward

/-- No two robots that start on a fresh grid fall from the same pose. -/
theorem falls_nodup {robots : List Robot} (landed : ∀ robot ∈ robots, robot.Lands) :
    (falls (outcomes square robots .empty)).Nodup := by
  have poses : (scentAfter square robots .empty).poses = _ := poses_scentAfter landed .empty
  rw [show Scent.empty.poses = [] from rfl, List.append_nil] at poses
  rw [← List.nodup_reverse, ← poses]
  exact Scent.nodup _

end Simulation

/-! ## One robot at each pose of the border -/

/-- Lands at a pose and takes one step. -/
def Robot.diver (pose : Pose) : Robot :=
  ⟨"D", [.landing (UInt8.ofNat pose.x.toNat) (UInt8.ofNat pose.y.toNat) pose.facing,
    .heading [.forward]]⟩

theorem Robot.diver_landing {pose : Pose} (bytes : pose.InBytes) :
    ∃ landing, (diver pose).landing? = some landing ∧ landing.pose = pose ∧
      landing.course = [.forward] := by
  refine ⟨_, rfl, ?_, rfl⟩
  obtain ⟨x, y, facing⟩ := pose
  simp only [Pose.InBytes] at bytes
  simp only [Landing.pose, Pose.mk.injEq, and_true, UInt8.toNat_ofNat']
  omega

theorem Robot.diver_report {square : Square} {scent : Scent} {pose : Pose}
    (outward : pose ∈ square.border) (fresh : pose ∉ scent.poses) :
    (diver pose).report square scent =
      ⟨.ok ⟨"D", pose, true⟩, [.tryingMove "D" pose.ahead, .lost "D" pose]⟩ := by
  obtain ⟨inside, outside⟩ := Square.mem_border.1 outward
  obtain ⟨landing, found, there, course⟩ := diver_landing (Pose.inBytes_of_holds inside)
  rw [report_landing found, there, course, Simulation.walk_fell outside fresh]
  rfl

theorem Simulation.outcomes_divers {square : Square} {poses : List Pose} (distinct : poses.Nodup)
    (outward : poses ⊆ square.border) {scent : Scent} (fresh : poses.Disjoint scent.poses) :
    outcomes square (poses.map Robot.diver) scent = poses.map fun pose => ⟨"D", pose, true⟩ := by
  induction poses generalizing scent with
  | nil => rfl
  | cons pose rest ih =>
    obtain ⟨absent, distinct⟩ := List.nodup_cons.1 distinct
    obtain ⟨atBorder, outward⟩ := List.cons_subset.1 outward
    obtain ⟨unscented, fresh⟩ := List.disjoint_cons_left.1 fresh
    have report := Robot.diver_report atBorder unscented
    -- the mark that this robot leaves is not at the pose of a later one
    have unmarked : rest.Disjoint (scent.mark pose).poses := by
      rw [Scent.mark_fresh unscented]
      exact List.disjoint_cons_right.2 ⟨absent, fresh⟩
    have others := ih distinct outward unmarked
    rw [List.map_cons, outcomes_cons (congrArg Report.answer report), report]
    exact congrArg (_ :: ·) others

namespace Mission

/-- A result is that of robots that all land. -/
theorem simulate_eq_ok {σ : Type} {mission : Mission} {sink : Sink σ} {out : σ}
    {outcomes : List Outcome} (ran : (mission.simulate sink out).1 = .ok outcomes) :
    mission.Lands ∧ outcomes = mission.outcomes := by
  cases found : mission.robots.find? fun robot => robot.landing?.isNone with
  | some robot =>
    rw [simulate_nowhere found] at ran
    cases ran
  | none =>
    have landed := find_nowhere.1 found
    rw [simulate_eq landed] at ran
    have answered := (World.answering_eq_ok (Prod.ext ran rfl)).1
    exact ⟨landed, (Except.ok.inj answered).symm⟩

/-- No mission whose robots land on the grid loses more of them than its border has poses, whether
or not it was generated, and on every grid some mission loses as many. -/
theorem losses_le_border (square : Square) :
    let border := 2 * (square.width.toNat + 1) + 2 * (square.height.toNat + 1)
    (∀ robots, (Mission.mk square robots).LandsInside → ∀ {σ : Type} (sink : Sink σ) (out : σ),
      (∀ outcomes, ((Mission.mk square robots).simulate sink out).1 = .ok outcomes →
        outcomes.countP Outcome.lost ≤ border) ∧
      ((Mission.mk square robots).Lands → sink.Willing out →
        ∃ outcomes, ((Mission.mk square robots).simulate sink out).1 = .ok outcomes)) ∧
    (∀ plan : Plan, ∀ limit seed mission, plan.mission? limit seed = some mission →
      mission.Lands ∧ mission.LandsInside) ∧
    ∃ robots, (Mission.mk square robots).Lands ∧ (Mission.mk square robots).LandsInside ∧
      ∀ {σ : Type} (sink : Sink σ) (out : σ), sink.Willing out →
        ∃ outcomes, ((Mission.mk square robots).simulate sink out).1 = .ok outcomes ∧
          outcomes.countP Outcome.lost = border := by
  intro border
  have length : square.border.length = border := square.border_length
  refine ⟨?_, fun plan limit seed mission => Plan.mission_lands, ?_⟩
  · intro robots inside σ sink out
    constructor
    · intro outcomes ran
      obtain ⟨landed, rfl⟩ := simulate_eq_ok ran
      have distinct : (falls (Mission.mk square robots).outcomes).Nodup :=
        Simulation.falls_nodup landed
      have bound := distinct.length_le_of_subset (Simulation.falls_border landed inside .empty)
      rwa [falls_length, length] at bound
    · intro landed willing
      rw [simulate_willing landed willing]
      exact ⟨_, rfl⟩
  · have divers : ∀ robot ∈ square.border.map Robot.diver, ∃ landing,
        robot.landing? = some landing ∧ square.holds landing.pose = true := by
      intro robot member
      obtain ⟨pose, outward, rfl⟩ := List.mem_map.1 member
      obtain ⟨inside, _⟩ := Square.mem_border.1 outward
      obtain ⟨landing, found, there, _⟩ := Robot.diver_landing (Pose.inBytes_of_holds inside)
      exact ⟨landing, found, there ▸ inside⟩
    obtain ⟨landed, inside⟩ := lands_of_inside divers
    refine ⟨square.border.map Robot.diver, landed, inside, ?_⟩
    intro σ sink out willing
    refine ⟨_, congrArg Prod.fst (simulate_willing landed willing), ?_⟩
    rw [outcomes, Simulation.outcomes_divers square.border_nodup (List.Subset.refl _)
      (List.disjoint_nil_right _), ← length, List.countP_map]
    exact List.countP_eq_length.2 fun _ _ => rfl

/-- Four robots in one column: three fall from corners of it and one is held. -/
def corridor : List Robot :=
  [⟨"A", [.landing 0 1 .north, .heading [.forward]]⟩,
    ⟨"B", [.landing 0 1 .north, .heading [.forward, .right, .forward]]⟩,
    ⟨"C", [.landing 0 0 .west, .heading [.left, .forward]]⟩,
    ⟨"D", [.landing 0 0 .south, .heading [.forward]]⟩]

theorem losses_le_border_corridor :
    (Mission.mk ⟨0, 1⟩ corridor).Lands ∧ (Mission.mk ⟨0, 1⟩ corridor).LandsInside ∧
      Sink.collect.Willing #[] ∧
      (∃ outcomes, ((Mission.mk ⟨0, 1⟩ corridor).simulate .collect #[]).1 = .ok outcomes ∧
        outcomes.countP Outcome.lost = 3 ∧
        outcomes.countP Outcome.lost ≤ 2 * (0 + 1) + 2 * (1 + 1)) ∧
      ∃ mission, (Plan.mk 0 7 2 3).mission? 4 5 = some mission ∧ mission.LandsInside := by
  have landed : ∀ robot ∈ corridor, ∃ landing, robot.landing? = some landing ∧
      (Square.mk 0 1).holds landing.pose = true := by
    intro robot member
    simp only [corridor, List.mem_cons, List.not_mem_nil, or_false] at member
    rcases member with rfl | rfl | rfl | rfl <;> exact ⟨_, rfl, by decide⟩
  obtain ⟨lands, inside⟩ := lands_of_inside landed
  have willing := Sink.collect_willing #[]
  obtain ⟨bound, generated, _⟩ := losses_le_border ⟨0, 1⟩
  obtain ⟨bounded, returns⟩ := bound corridor inside .collect #[]
  obtain ⟨outcomes, ran⟩ := returns lands willing
  have three : outcomes.countP Outcome.lost = 3 := by
    rw [(simulate_eq_ok ran).2]
    decide +kernel
  have drawn : ((Plan.mk 0 7 2 3).mission? 4 5).isSome = true := by decide +kernel
  obtain ⟨mission, found⟩ := Option.isSome_iff_exists.1 drawn
  exact ⟨lands, inside, willing, ⟨outcomes, ran, three, bounded outcomes ran⟩, mission, found,
    (generated _ _ _ _ found).2⟩

end Mission
end ScentedGrid
