import Mathlib.Data.List.Basic
import ScentedGrid.Proofs.Simulation.Walk

/-! The reports of robots. Each robot of a mission answers and tells what it would on its own, on
a grid with the scents of the robots before it. A whole mission is told to any sink as the start,
the reports in order and the results, up to the first event that is refused. -/

namespace ScentedGrid

variable {σ : Type}

def Robot.Lands (robot : Robot) : Prop := robot.landing?.isSome = true

instance (robot : Robot) : Decidable robot.Lands := inferInstanceAs (Decidable (_ = true))

structure Report where
  answer : Except RunError Outcome
  events : List Event

def Report.outcome? (report : Report) : Option Outcome := report.answer.toOption

theorem Report.outcome?_answer {report : Report} {outcome : Outcome}
    (answer : report.answer = .ok outcome) : report.outcome? = some outcome := by
  rw [outcome?, answer]
  rfl

namespace Robot

/-- What a robot answers and tells if nothing it tells is refused. -/
def report (robot : Robot) (square : Square) (scent : Scent) : Report :=
  let (answer, world) := robot.run .collect square ⟨scent, #[]⟩
  ⟨answer, world.out.toList⟩

variable {robot : Robot} {landing : Landing}

theorem run_landing (found : robot.landing? = some landing) (sink : Sink σ) (square : Square)
    (world : World σ) :
    robot.run sink square world =
      Simulation.follow sink square robot.name landing.course landing.pose world := by
  rw [run, found]

theorem run_nowhere (missing : robot.landing? = none) (sink : Sink σ) (square : Square)
    (world : World σ) :
    robot.run sink square world = (.error (.missingLanding robot.name), world) := by
  rw [run, missing]

theorem report_landing (found : robot.landing? = some landing) (square : Square) (scent : Scent) :
    robot.report square scent =
      let walk := Simulation.walk square scent robot.name landing.course landing.pose
      ⟨.ok walk.outcome, walk.events⟩ := by
  rw [report, run_landing found, Simulation.follow_eq,
    World.tellAll_willing (Sink.collect_willing #[])]
  simp [World.answering, Sink.collect_takeAll]

theorem report_nowhere (missing : robot.landing? = none) (square : Square) (scent : Scent) :
    robot.report square scent = ⟨.error (.missingLanding robot.name), []⟩ := by
  rw [report, run_nowhere missing]

/-- Any sink hears of a robot what it hears of the robot's report. -/
theorem run_eq (robot : Robot) (sink : Sink σ) (square : Square) (scent : Scent) (out : σ) :
    robot.run sink square ⟨scent, out⟩ =
      World.answering (robot.report square scent).answer
        ((World.mk scent out).tellAll sink (robot.report square scent).events) := by
  cases found : robot.landing? with
  | none =>
    rw [run_nowhere found, report_nowhere found]
    rfl
  | some landing => rw [run_landing found, report_landing found, Simulation.follow_eq]

theorem run_willing {sink : Sink σ} {out : σ} (willing : sink.Willing out) (robot : Robot)
    (square : Square) (scent : Scent) :
    robot.run sink square ⟨scent, out⟩ =
      ((robot.report square scent).answer,
        ⟨scent.afterAll (robot.report square scent).events,
          sink.takeAll out (robot.report square scent).events⟩) := by
  rw [run_eq, World.tellAll_willing willing]
  rfl

theorem report_answer (lands : robot.Lands) (square : Square) (scent : Scent) :
    ∃ outcome, (robot.report square scent).answer = .ok outcome := by
  obtain ⟨landing, found⟩ := Option.isSome_iff_exists.1 lands
  rw [report_landing found]
  exact ⟨_, rfl⟩

/-- A report is that of a walk from the robot's landing. -/
theorem report_walks {square : Square} {scent : Scent} {outcome : Outcome}
    (answer : (robot.report square scent).answer = .ok outcome) :
    ∃ landing, robot.landing? = some landing ∧
      Simulation.Walks square scent robot.name landing.course landing.pose
        ⟨(robot.report square scent).events, outcome⟩ := by
  cases found : robot.landing? with
  | none =>
    rw [report_nowhere found] at answer
    cases answer
  | some landing =>
    rw [report_landing found] at answer ⊢
    cases answer
    exact ⟨landing, rfl, Simulation.walks_walk ..⟩

end Robot

namespace Simulation

/-- The reports of robots that run one after another. -/
def reports (square : Square) : List Robot → Scent → List Report
  | [], _ => []
  | robot :: rest, scent =>
    robot.report square scent ::
      reports square rest (scent.afterAll (robot.report square scent).events)

/-- The scent that robots leave behind. -/
def scentAfter (square : Square) (robots : List Robot) (scent : Scent) : Scent :=
  scent.afterAll ((reports square robots scent).flatMap Report.events)

variable {square : Square}

@[simp] theorem reports_length (robots : List Robot) (scent : Scent) :
    (reports square robots scent).length = robots.length := by
  induction robots generalizing scent with
  | nil => rfl
  | cons robot rest ih => simp [reports, ih]

theorem scentAfter_cons (robot : Robot) (rest : List Robot) (scent : Scent) :
    scentAfter square (robot :: rest) scent =
      scentAfter square rest (scent.afterAll (robot.report square scent).events) := by
  rw [scentAfter, reports, List.flatMap_cons, Scent.afterAll_append]
  rfl

theorem reports_append (first rest : List Robot) (scent : Scent) :
    reports square (first ++ rest) scent =
      reports square first scent ++ reports square rest (scentAfter square first scent) := by
  induction first generalizing scent with
  | nil => rfl
  | cons robot more ih =>
    rw [List.cons_append, reports, reports, ih, scentAfter_cons, List.cons_append]

theorem scentAfter_append (first rest : List Robot) (scent : Scent) :
    scentAfter square (first ++ rest) scent =
      scentAfter square rest (scentAfter square first scent) := by
  rw [scentAfter, reports_append, List.flatMap_append, Scent.afterAll_append]
  rfl

/-- A robot reports from the scent of the robots before it. -/
theorem reports_getElem? (robots : List Robot) (scent : Scent) (index : Nat) :
    (reports square robots scent)[index]? =
      robots[index]?.map fun robot =>
        robot.report square (scentAfter square (robots.take index) scent) := by
  induction robots generalizing scent index with
  | nil => rfl
  | cons robot rest ih =>
    cases index with
    | zero => rfl
    | succ index => simpa [reports, scentAfter_cons] using ih _ index

theorem reports_take (robots : List Robot) (scent : Scent) (count : Nat) :
    reports square (robots.take count) scent = (reports square robots scent).take count := by
  induction robots generalizing scent count with
  | nil => simp [reports]
  | cons robot rest ih =>
    cases count with
    | zero => rfl
    | succ count => simp [reports, ih]

/-- How robots that run one after another end. -/
def outcomes (square : Square) (robots : List Robot) (scent : Scent) : List Outcome :=
  (reports square robots scent).filterMap Report.outcome?

theorem outcomes_cons {robot : Robot} {scent : Scent} {outcome : Outcome}
    (answer : (robot.report square scent).answer = .ok outcome) (rest : List Robot) :
    outcomes square (robot :: rest) scent =
      outcome :: outcomes square rest (scent.afterAll (robot.report square scent).events) := by
  rw [outcomes, reports, List.filterMap_cons_some (Report.outcome?_answer answer)]
  rfl

/-- Robots that land all answer with an outcome. -/
theorem reports_answers {robots : List Robot} (landed : ∀ robot ∈ robots, robot.Lands)
    (scent : Scent) :
    (reports square robots scent).map Report.answer = (outcomes square robots scent).map .ok := by
  induction robots generalizing scent with
  | nil => rfl
  | cons robot rest ih =>
    obtain ⟨lands, othersLand⟩ := List.forall_mem_cons.1 landed
    obtain ⟨outcome, answer⟩ := robot.report_answer lands square scent
    have others := ih othersLand (scent.afterAll (robot.report square scent).events)
    rw [outcomes_cons answer, reports, List.map_cons, List.map_cons, others, answer]

theorem outcomes_take {robots : List Robot} (landed : ∀ robot ∈ robots, robot.Lands)
    (scent : Scent) (count : Nat) :
    outcomes square (robots.take count) scent = (outcomes square robots scent).take count := by
  have soFar : ∀ robot ∈ robots.take count, robot.Lands :=
    fun robot member => landed robot (List.mem_of_mem_take member)
  have injective : Function.Injective (Except.ok : Outcome → Except RunError Outcome) :=
    fun _ _ => Except.ok.inj
  apply List.map_injective_iff.2 injective
  rw [← reports_answers soFar, reports_take, List.map_take, reports_answers landed, List.map_take]

theorem outcomes_getElem? {robots : List Robot} (landed : ∀ robot ∈ robots, robot.Lands)
    (scent : Scent) (index : Nat) :
    (outcomes square robots scent)[index]?.map .ok =
      robots[index]?.map fun robot =>
        (robot.report square (scentAfter square (robots.take index) scent)).answer := by
  rw [← List.getElem?_map, ← reports_answers landed, List.getElem?_map, reports_getElem?,
    Option.map_map]
  rfl

theorem outcomes_names {robots : List Robot} (landed : ∀ robot ∈ robots, robot.Lands)
    (scent : Scent) :
    (outcomes square robots scent).map Outcome.name = robots.map Robot.name := by
  induction robots generalizing scent with
  | nil => rfl
  | cons robot rest ih =>
    obtain ⟨lands, othersLand⟩ := List.forall_mem_cons.1 landed
    obtain ⟨outcome, answer⟩ := robot.report_answer lands square scent
    obtain ⟨_, _, walks⟩ := Robot.report_walks answer
    rw [outcomes_cons answer, List.map_cons, List.map_cons, ih othersLand]
    exact congrArg (· :: _) walks.name_eq

theorem runAll_eq (sink : Sink σ) {robots : List Robot} (landed : ∀ robot ∈ robots, robot.Lands)
    (scent : Scent) (out : σ) :
    runAll sink square robots ⟨scent, out⟩ =
      World.answering (.ok (outcomes square robots scent))
        ((World.mk scent out).tellAll sink
          ((reports square robots scent).flatMap Report.events)) := by
  induction robots generalizing scent out with
  | nil => rfl
  | cons robot rest ih =>
    obtain ⟨lands, othersLand⟩ := List.forall_mem_cons.1 landed
    obtain ⟨outcome, answer⟩ := robot.report_answer lands square scent
    rw [runAll, robot.run_eq, reports, List.flatMap_cons, World.tellAll_append,
      outcomes_cons answer, answer]
    cases told : (World.mk scent out).tellAll sink (robot.report square scent).events with
    | mk world fault =>
      cases fault with
      | some fault => rfl
      | none =>
        obtain ⟨heard, taken⟩ := world
        have same : heard = scent.afterAll (robot.report square scent).events :=
          World.tellAll_scent told
        subst same
        simp only [World.answering, ih othersLand]
        cases (World.mk (scent.afterAll (robot.report square scent).events) taken).tellAll sink
            ((reports square rest (scent.afterAll (robot.report square scent).events)).flatMap
              Report.events) with
        | mk world fault => cases fault <;> rfl

end Simulation

namespace Mission

def reports (mission : Mission) : List Report :=
  Simulation.reports mission.square mission.robots .empty

def outcomes (mission : Mission) : List Outcome :=
  Simulation.outcomes mission.square mission.robots .empty

/-- The own events of each robot, in the order of the robots. -/
def segments (mission : Mission) : List (List Event) := mission.reports.map Report.events

def finalScent (mission : Mission) : Scent :=
  Simulation.scentAfter mission.square mission.robots .empty

/-- All that is told of a mission if nothing is refused. -/
def script (mission : Mission) : List Event :=
  .start mission.square mission.robots :: (mission.segments.flatten ++ [.results mission.outcomes])

def Lands (mission : Mission) : Prop := ∀ robot ∈ mission.robots, robot.Lands

instance (mission : Mission) : Decidable mission.Lands :=
  inferInstanceAs (Decidable (∀ robot ∈ mission.robots, robot.Lands))

variable {mission : Mission}

theorem find_nowhere :
    (mission.robots.find? fun robot => robot.landing?.isNone) = none ↔ mission.Lands := by
  rw [List.find?_eq_none]
  exact forall₂_congr fun robot _ => by simp [Robot.Lands, Option.isSome_iff_ne_none]

/-- Any sink hears of a mission what it hears of the mission's script. -/
theorem simulate_eq (landed : mission.Lands) (sink : Sink σ) (out : σ) :
    mission.simulate sink out =
      World.answering (.ok mission.outcomes)
        ((World.mk .empty out).tellAll sink mission.script) := by
  rw [simulate, find_nowhere.2 landed]
  simp only [script]
  cases started : (World.mk .empty out).tell sink (.start mission.square mission.robots) with
  | mk world fault =>
    have first : ((World.mk .empty out).happen (.start mission.square mission.robots)).tell sink
        (.start mission.square mission.robots) = (world, fault) := started
    cases fault with
    | some fault =>
      rw [World.tellAll_refused first]
      rfl
    | none =>
      obtain ⟨heard, taken⟩ := world
      have same : heard = .empty := congrArg (fun told => told.1.scent) started.symm
      subst same
      have inOrder : mission.segments.flatten =
          (Simulation.reports mission.square mission.robots .empty).flatMap Report.events := rfl
      rw [World.tellAll_heard first, World.tellAll_append, inOrder]
      simp only [Simulation.runAll_eq sink landed]
      cases (World.mk .empty taken).tellAll sink
          ((Simulation.reports mission.square mission.robots .empty).flatMap Report.events) with
      | mk world fault =>
        cases fault with
        | some fault => rfl
        | none =>
          simp only [World.answering, World.tellAll_singleton]
          rfl

theorem scent_script (mission : Mission) :
    Scent.empty.afterAll mission.script = mission.finalScent := by
  rw [script, Scent.afterAll_cons, Scent.afterAll_append, segments, ← List.flatMap_def]
  rfl

theorem simulate_willing (landed : mission.Lands) {sink : Sink σ} {out : σ}
    (willing : sink.Willing out) :
    mission.simulate sink out =
      (.ok mission.outcomes, ⟨mission.finalScent, sink.takeAll out mission.script⟩) := by
  rw [simulate_eq landed, World.tellAll_willing willing, scent_script]
  rfl

/-- A robot that never lands keeps the whole mission from starting. -/
theorem simulate_nowhere {robot : Robot}
    (found : (mission.robots.find? fun robot => robot.landing?.isNone) = some robot)
    (sink : Sink σ) (out : σ) :
    mission.simulate sink out = (.error (.missingLanding robot.name), ⟨.empty, out⟩) := by
  rw [simulate, found]

/-- Any sink hears of a mission the same events, and the same answer comes after them. -/
theorem simulate_told (mission : Mission) :
    ∃ answer events, ∀ {σ : Type} (sink : Sink σ) (out : σ), mission.simulate sink out =
      World.answering answer ((World.mk .empty out).tellAll sink events) := by
  cases found : mission.robots.find? fun robot => robot.landing?.isNone with
  | some robot =>
    exact ⟨.error (.missingLanding robot.name), [], fun sink out => simulate_nowhere found sink out⟩
  | none =>
    exact ⟨.ok mission.outcomes, mission.script,
      fun sink out => simulate_eq (find_nowhere.1 found) sink out⟩

/-- The scent on the grid when a robot's turn comes. -/
def scentBefore (mission : Mission) (index : Nat) : Scent :=
  Simulation.scentAfter mission.square (mission.robots.take index) .empty

section

variable {index : Nat} {robot : Robot}

theorem segments_getElem? (taken : mission.robots[index]? = some robot) :
    mission.segments[index]? =
      some (robot.report mission.square (mission.scentBefore index)).events := by
  rw [segments, List.getElem?_map, reports, Simulation.reports_getElem?, taken]
  rfl

theorem outcomes_getElem?_iff (landed : mission.Lands)
    (taken : mission.robots[index]? = some robot) {outcome : Outcome} :
    mission.outcomes[index]? = some outcome ↔
      (robot.report mission.square (mission.scentBefore index)).answer = .ok outcome := by
  have ended : mission.outcomes[index]?.map .ok =
      some (robot.report mission.square (mission.scentBefore index)).answer := by
    rw [outcomes, Simulation.outcomes_getElem? landed, taken]
    rfl
  cases found : mission.outcomes[index]? with
  | none => simp [found] at ended
  | some other =>
    rw [found, Option.map_some, Option.some.injEq] at ended
    rw [← ended, Option.some.injEq, Except.ok.injEq]

/-- The segment and the outcome of a robot are those of its walk. -/
theorem robot_walks (landed : mission.Lands) {segment : List Event} {outcome : Outcome}
    (taken : mission.robots[index]? = some robot)
    (told : mission.segments[index]? = some segment)
    (ended : mission.outcomes[index]? = some outcome) :
    ∃ landing, robot.landing? = some landing ∧
      Simulation.Walks mission.square (mission.scentBefore index) robot.name landing.course
        landing.pose ⟨segment, outcome⟩ := by
  rw [segments_getElem? taken] at told
  obtain ⟨landing, found, walks⟩ :=
    Robot.report_walks ((outcomes_getElem?_iff landed taken).1 ended)
  rw [Option.some.inj told] at walks
  exact ⟨landing, found, walks⟩

end

/-- Told to a willing sink, a mission fails for its first robot that never lands, and for nothing
else. -/
theorem simulate_error_iff (mission : Mission) {sink : Sink σ} {out : σ}
    (willing : sink.Willing out) (error : RunError) :
    (mission.simulate sink out).1 = .error error ↔
      ∃ before robot after, mission.robots = before ++ robot :: after ∧
        (∀ other ∈ before, other.Lands) ∧ ¬ robot.Lands ∧
        error = .missingLanding robot.name := by
  have first (robot : Robot) :
      (mission.robots.find? fun robot => robot.landing?.isNone) = some robot ↔
        ¬ robot.Lands ∧ ∃ before after, mission.robots = before ++ robot :: after ∧
          ∀ other ∈ before, other.Lands := by
    simp [List.find?_eq_some_iff_append, Robot.Lands, Option.isSome_iff_ne_none]
  cases found : mission.robots.find? fun robot => robot.landing?.isNone with
  | none =>
    have landed := find_nowhere.1 found
    rw [simulate_willing landed willing]
    constructor
    · intro impossible
      cases impossible
    · rintro ⟨before, robot, after, split, _, nowhere, _⟩
      exact absurd (landed robot (by simp [split])) nowhere
  | some robot =>
    rw [simulate_nowhere found]
    constructor
    · intro same
      cases same
      obtain ⟨nowhere, before, after, split, landed⟩ := (first robot).1 found
      exact ⟨before, robot, after, split, landed, nowhere, rfl⟩
    · rintro ⟨before, other, after, split, landed, nowhere, rfl⟩
      have same := found.symm.trans ((first other).2 ⟨nowhere, before, after, split, landed⟩)
      cases same
      rfl

end Mission
end ScentedGrid
