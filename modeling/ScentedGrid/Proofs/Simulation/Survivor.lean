import Mathlib.Data.List.InsertIdx
import ScentedGrid.Proofs.Simulation.Insertion

/-! Robots that survive. A robot that is not lost leaves the scent as it found it, and more scent
does not change its walk. So it can be taken out of a mission, or put back in at a later place, and
nobody can tell: every other robot reports what it did before, and so does the survivor. -/

namespace ScentedGrid

/-- A robot that is not lost leaves no scent. -/
theorem Robot.report_stood {robot : Robot} {square : Square} {scent : Scent} {outcome : Outcome}
    (answer : (robot.report square scent).answer = .ok outcome) (stood : outcome.lost = false) :
    scent.afterAll (robot.report square scent).events = scent := by
  obtain ⟨_, _, walks⟩ := report_walks answer
  rw [walks.afterAll_events, Scent.afterOutcome, stood]
  rfl

namespace Simulation

variable {square : Square} {robot : Robot} {base scent : Scent} {outcome : Outcome}
  {others : List Robot} {place : Nat}

/-- A robot that survives on some scent joins other robots where there is no less of it. Each of
them reports as it does without the robot, and the robot reports as it did. -/
theorem reports_insertIdx (answer : (robot.report square base).answer = .ok outcome)
    (stood : outcome.lost = false)
    (covered : base.poses ⊆ (scentAfter square (others.take place) scent).poses) :
    reports square (others.insertIdx place robot) scent =
        (reports square others scent).insertIdx place (robot.report square base) ∧
      scentAfter square (others.insertIdx place robot) scent = scentAfter square others scent := by
  induction place generalizing others scent with
  | zero =>
    have same : robot.report square scent = robot.report square base :=
      Robot.report_survives covered answer stood
    have unscented : scent.afterAll (robot.report square scent).events = scent := by
      apply Robot.report_stood _ stood
      rw [same, answer]
    rw [List.insertIdx_zero, List.insertIdx_zero, reports, scentAfter_cons, unscented, same]
    exact ⟨rfl, rfl⟩
  | succ place ih =>
    cases others with
    | nil => exact ⟨rfl, rfl⟩
    | cons first rest =>
      rw [List.take_succ_cons, scentAfter_cons] at covered
      obtain ⟨told, left⟩ := ih covered
      rw [List.insertIdx_succ_cons, reports, reports, List.insertIdx_succ_cons, scentAfter_cons,
        scentAfter_cons, told, left]
      exact ⟨rfl, rfl⟩

theorem lands_insertIdx (landed : ∀ other ∈ others, other.Lands) (lands : robot.Lands) :
    ∀ other ∈ others.insertIdx place robot, other.Lands := by
  intro other member
  rcases List.eq_or_mem_of_mem_insertIdx member with rfl | among
  · exact lands
  · exact landed other among

theorem outcomes_insertIdx (landed : ∀ other ∈ others, other.Lands) (lands : robot.Lands)
    (answer : (robot.report square base).answer = .ok outcome)
    (told : reports square (others.insertIdx place robot) scent =
      (reports square others scent).insertIdx place (robot.report square base)) :
    outcomes square (others.insertIdx place robot) scent =
      (outcomes square others scent).insertIdx place outcome := by
  have injective : Function.Injective (Except.ok : Outcome → Except RunError Outcome) :=
    fun _ _ => Except.ok.inj
  apply List.map_injective_iff.2 injective
  calc
    _ = (reports square (others.insertIdx place robot) scent).map Report.answer :=
      (reports_answers (lands_insertIdx landed lands) scent).symm
    _ = ((reports square others scent).map Report.answer).insertIdx place (.ok outcome) := by
      rw [told, List.map_insertIdx, answer]
    _ = ((outcomes square others scent).map .ok).insertIdx place (.ok outcome) := by
      rw [reports_answers landed]
    _ = _ := (List.map_insertIdx ..).symm

end Simulation

namespace Mission

/-- Robots end with the outcomes, tell the segments and leave the scent, and any sink that takes all
of it hears the segments between the start and the results. -/
structure Unfolds (mission : Mission) (outcomes : List Outcome) (segments : List (List Event))
    (scent : Scent) : Prop where
  segments_eq : mission.segments = segments
  simulate : ∀ {σ : Type} (sink : Sink σ) (out : σ), sink.Willing out →
    mission.simulate sink out = (.ok outcomes, ⟨scent, sink.takeAll out
      (.start mission.square mission.robots :: (segments.flatten ++ [.results outcomes]))⟩)

theorem Lands.unfolds {mission : Mission} (landed : mission.Lands) :
    mission.Unfolds mission.outcomes mission.segments mission.finalScent :=
  ⟨rfl, fun _ _ willing => simulate_willing landed willing⟩

variable {square : Square} {others : List Robot} {robot : Robot} {base : Scent} {outcome : Outcome}
  {place : Nat}

/-- A survivor that joins a mission adds its outcome and its segment at its place, and no scent. -/
theorem insertIdx_survivor (landed : (Mission.mk square others).Lands) (lands : robot.Lands)
    (answer : (robot.report square base).answer = .ok outcome) (stood : outcome.lost = false)
    (covered : base.poses ⊆ ((Mission.mk square others).scentBefore place).poses) :
    let joined : Mission := ⟨square, others.insertIdx place robot⟩
    joined.Lands ∧
      joined.outcomes = (Mission.mk square others).outcomes.insertIdx place outcome ∧
      joined.segments = (Mission.mk square others).segments.insertIdx place
        (robot.report square base).events ∧
      joined.finalScent = (Mission.mk square others).finalScent := by
  obtain ⟨told, left⟩ := Simulation.reports_insertIdx answer stood covered
  refine ⟨Simulation.lands_insertIdx landed lands,
    Simulation.outcomes_insertIdx landed lands answer told, ?_, left⟩
  rw [segments, reports, told, List.map_insertIdx]
  rfl

theorem robot_of_outcome {mission : Mission} (landed : mission.Lands) {index : Nat}
    (ended : mission.outcomes[index]? = some outcome) :
    ∃ robot, mission.robots[index]? = some robot := by
  have answered : mission.outcomes[index]?.map .ok = mission.robots[index]?.map fun robot =>
      (robot.report mission.square (mission.scentBefore index)).answer :=
    Simulation.outcomes_getElem? landed .empty index
  cases taken : mission.robots[index]? with
  | some robot => exact ⟨robot, rfl⟩
  | none =>
    rw [ended, taken] at answered
    cases answered

/-- The scent that a robot of a mission meets is still there for it at a later place. -/
theorem scentBefore_later {mission : Mission} {index later : Nat} (order : index ≤ later) :
    (mission.scentBefore index).poses ⊆
      ((Mission.mk mission.square (mission.robots.eraseIdx index)).scentBefore later).poses := by
  have before : (mission.robots.eraseIdx index).take index = mission.robots.take index :=
    List.take_eraseIdx_eq_take_of_le _ _ _ (Nat.le_refl index)
  rw [scentBefore, ← before]
  exact Simulation.scentAfter_take_subset _ .empty order

/-- A robot that is not lost can be taken out of a mission, or be moved to a later place in it. The
other robots end as they did and tell the same, the moved robot too, and the same scent is left. -/
theorem simulate_survivor {mission : Mission} (landed : mission.Lands) {index : Nat}
    {outcome : Outcome} (ended : mission.outcomes[index]? = some outcome)
    (stood : outcome.lost = false) :
    ∃ robot events, mission.robots[index]? = some robot ∧ mission.segments[index]? = some events ∧
      mission.Unfolds mission.outcomes mission.segments mission.finalScent ∧
      (Mission.mk mission.square (mission.robots.eraseIdx index)).Unfolds
        (mission.outcomes.eraseIdx index) (mission.segments.eraseIdx index) mission.finalScent ∧
      ∀ later, index ≤ later → later < mission.robots.length →
        (Mission.mk mission.square ((mission.robots.eraseIdx index).insertIdx later robot)).Unfolds
          ((mission.outcomes.eraseIdx index).insertIdx later outcome)
          ((mission.segments.eraseIdx index).insertIdx later events) mission.finalScent := by
  obtain ⟨robot, taken⟩ := robot_of_outcome landed ended
  have answer := (outcomes_getElem?_iff landed taken).1 ended
  have lands : robot.Lands := landed robot (List.mem_of_getElem? taken)
  let fewer : Mission := ⟨mission.square, mission.robots.eraseIdx index⟩
  have remaining : fewer.Lands := fun other member => landed other (List.mem_of_mem_eraseIdx member)
  have joins {later : Nat} (order : index ≤ later) :=
    insertIdx_survivor remaining lands answer stood (scentBefore_later order)
  -- Put back at its own place, the robot gives the mission itself.
  have whole : Mission.mk mission.square (fewer.robots.insertIdx index robot) = mission := by
    obtain ⟨inside, here⟩ := List.getElem?_eq_some_iff.1 taken
    rw [← here, List.insertIdx_eraseIdx_getElem inside]
  obtain ⟨_, outcomes, segments, scent⟩ := joins (Nat.le_refl index)
  rw [whole] at outcomes segments scent
  have others : mission.outcomes.eraseIdx index = fewer.outcomes := by
    rw [outcomes, List.eraseIdx_insertIdx_self]
  have told : mission.segments.eraseIdx index = fewer.segments := by
    rw [segments, List.eraseIdx_insertIdx_self]
  refine ⟨robot, _, taken, segments_getElem? taken, landed.unfolds, ?_, ?_⟩
  · rw [others, told, scent]
    exact remaining.unfolds
  · intro later order _
    obtain ⟨landed', outcomes', segments', scent'⟩ := joins order
    rw [others, told, scent, ← outcomes', ← segments', ← scent']
    exact landed'.unfolds

def faller : Robot := ⟨"A", [.landing 2 2 .east, .heading [.forward]]⟩

/-- Held in the corner where the faller fell, it turns round and walks away. -/
def wanderer : Robot := ⟨"B", [.landing 2 2 .east, .heading [.forward, .left, .left, .forward]]⟩

/-- Held in the same corner, it falls out of it to the other side. -/
def turner : Robot := ⟨"C", [.landing 2 2 .east, .heading [.forward, .left, .forward]]⟩

theorem simulate_survivor_wanderer :
    let mission : Mission := ⟨⟨2, 2⟩, [faller, wanderer, turner]⟩
    mission.Lands ∧ mission.outcomes[1]? = some ⟨"B", ⟨1, 2, .west⟩, false⟩ ∧
      Sink.collect.Willing #[] ∧
      ((Mission.mk ⟨2, 2⟩ [faller, turner]).simulate .collect #[]).1 =
        .ok [⟨"A", ⟨2, 2, .east⟩, true⟩, ⟨"C", ⟨2, 2, .north⟩, true⟩] ∧
      ((Mission.mk ⟨2, 2⟩ [faller, turner, wanderer]).simulate .collect #[]).1 =
        .ok [⟨"A", ⟨2, 2, .east⟩, true⟩, ⟨"C", ⟨2, 2, .north⟩, true⟩,
          ⟨"B", ⟨1, 2, .west⟩, false⟩] := by
  intro mission
  have landed : mission.Lands := by decide
  have outcomes : mission.outcomes = [⟨"A", ⟨2, 2, .east⟩, true⟩, ⟨"B", ⟨1, 2, .west⟩, false⟩,
      ⟨"C", ⟨2, 2, .north⟩, true⟩] := by decide +kernel
  have ended : mission.outcomes[1]? = some ⟨"B", ⟨1, 2, .west⟩, false⟩ := by
    rw [outcomes]
    rfl
  have willing := Sink.collect_willing #[]
  obtain ⟨robot, _, taken, _, _, without, moved⟩ := simulate_survivor landed ended rfl
  obtain rfl : robot = wanderer := (Option.some.inj taken).symm
  have last := moved 2 (by decide) (by decide)
  rw [outcomes] at without last
  exact ⟨landed, ended, willing, congrArg Prod.fst (without.simulate .collect #[] willing),
    congrArg Prod.fst (last.simulate .collect #[] willing)⟩

end Mission
end ScentedGrid
