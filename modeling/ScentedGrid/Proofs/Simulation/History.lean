import Mathlib.Data.List.Nodup
import ScentedGrid.Proofs.Simulation.Report

/-! The scent as the history of falls. Robots take turns on one grid, each told to a sink of its
own. After every turn the scent is exactly the poses that lost robots fell from, each once, so it
is also what decides the next step off the grid: the first robot to take it falls, every later
one is held. -/

namespace ScentedGrid

/-- Where the lost robots fell from, in the order of the outcomes. -/
def falls (outcomes : List Outcome) : List Pose := (outcomes.filter Outcome.lost).map Outcome.pose

theorem falls_cons (outcome : Outcome) (rest : List Outcome) :
    falls (outcome :: rest) = falls [outcome] ++ falls rest := by
  rw [falls, ← List.singleton_append, List.filter_append, List.map_append]
  rfl

/-! ## Reports -/

theorem Scent.mark_fresh {scent : Scent} {pose : Pose} (fresh : pose ∉ scent.poses) :
    (scent.mark pose).poses = pose :: scent.poses := by
  simp [mark, fresh]

namespace Simulation

variable {square : Square}

/-- One robot adds the pose it fell from, if it fell, and that pose had no scent before. -/
theorem poses_report {robot : Robot} {scent : Scent} {outcome : Outcome}
    (answer : (robot.report square scent).answer = .ok outcome) :
    (scent.afterAll (robot.report square scent).events).poses =
      falls [outcome] ++ scent.poses := by
  obtain ⟨landing, _, walks⟩ := Robot.report_walks answer
  rw [walks.afterAll_events]
  cases lost : outcome.lost with
  | false => simp [Scent.afterOutcome, falls, lost]
  | true =>
    have fresh := (walks.lost_fresh lost).1
    simp [Scent.afterOutcome, falls, lost, Scent.mark_fresh fresh]

/-- The scent of several robots holds their falls, the latest first. -/
theorem poses_scentAfter {robots : List Robot} (landed : ∀ robot ∈ robots, robot.Lands)
    (scent : Scent) :
    (scentAfter square robots scent).poses =
      (falls (outcomes square robots scent)).reverse ++ scent.poses := by
  induction robots generalizing scent with
  | nil => rfl
  | cons robot rest ih =>
    obtain ⟨lands, othersLand⟩ := List.forall_mem_cons.1 landed
    obtain ⟨outcome, answer⟩ := robot.report_answer lands square scent
    have others := ih othersLand (scent.afterAll (robot.report square scent).events)
    have single : (falls [outcome]).reverse = falls [outcome] := by
      cases lost : outcome.lost <;> simp [falls, lost]
    rw [scentAfter_cons, others, outcomes_cons answer, falls_cons, List.reverse_append, single,
      List.append_assoc, poses_report answer]

end Simulation

/-! ## Turns -/

/-- A robot's turn on a grid, told to a sink of its own. -/
structure Turn where
  robot : Robot
  State : Type
  sink : Sink State
  out : State

namespace Turn

/-- A robot that lands is told to a sink that refuses nothing. -/
structure Ready (turn : Turn) : Prop where
  lands : turn.robot.Lands
  willing : turn.sink.Willing turn.out

def play (turn : Turn) (square : Square) (scent : Scent) : Except RunError Outcome × Scent :=
  let (answer, world) := turn.robot.run turn.sink square ⟨scent, turn.out⟩
  (answer, world.scent)

/-- What the turns answer in order, and the scent after the last one. -/
def playAll (square : Square) : List Turn → Scent → List (Except RunError Outcome) × Scent
  | [], scent => ([], scent)
  | turn :: rest, scent =>
    let (answer, scent) := turn.play square scent
    let (answers, scent) := playAll square rest scent
    (answer :: answers, scent)

theorem playAll_ready {square : Square} {turns : List Turn} (ready : ∀ turn ∈ turns, turn.Ready)
    (scent : Scent) :
    playAll square turns scent =
      ((Simulation.reports square (turns.map Turn.robot) scent).map Report.answer,
        Simulation.scentAfter square (turns.map Turn.robot) scent) := by
  induction turns generalizing scent with
  | nil => rfl
  | cons turn rest ih =>
    obtain ⟨first, others⟩ := List.forall_mem_cons.1 ready
    have ran := Robot.run_willing first.willing turn.robot square scent
    simp only [playAll, play, ran, ih others, List.map_cons, Simulation.reports,
      Simulation.scentAfter_cons]

end Turn

namespace Simulation

variable {σ : Type} {sink : Sink σ} {square : Square} {robot : String} {rest : List Command}
  {pose : Pose} {scent : Scent} {out : σ}

/-- A held robot has only tried, and goes on from where it stands. -/
theorem follow_held (willing : sink.Willing out) (outside : square.holds pose.ahead = false)
    (scented : pose ∈ scent.poses) :
    follow sink square robot (.forward :: rest) pose ⟨scent, out⟩ =
      follow sink square robot rest pose
        ((World.mk scent out).tell sink (.tryingMove robot pose.ahead)).1 := by
  have heard : (World.mk scent out).tell sink (.tryingMove robot pose.ahead) =
      (⟨scent, sink.takeAll out [.tryingMove robot pose.ahead]⟩, none) := by
    simp only [World.tell, willing.offer, Option.map_none]
  rw [follow, forward_eq, stride_held outside scented, Stride.events, World.tellAll_singleton]
  simp only [World.happen, Scent.after, heard, World.answering, Stride.footing]

theorem follow_fell (willing : sink.Willing out) (outside : square.holds pose.ahead = false)
    (fresh : pose ∉ scent.poses) :
    (follow sink square robot (.forward :: rest) pose ⟨scent, out⟩).1 =
      .ok ⟨robot, pose, true⟩ := by
  rw [follow_eq, walk_fell outside fresh, World.tellAll_willing willing]
  rfl

/-- A robot that stands after some commands has left the scent as it was. -/
theorem follow_stood (willing : sink.Willing out) {before : List Command} {start : Pose}
    {next : World σ}
    (stood : follow sink square robot before start ⟨scent, out⟩ =
      (.ok ⟨robot, pose, false⟩, next)) :
    next.scent = scent ∧ sink.Willing next.out := by
  have walks := walks_walk square scent robot before start
  rw [follow_eq, World.tellAll_willing willing, World.answering] at stood
  obtain ⟨ended, rfl⟩ := Prod.mk.inj stood
  refine ⟨?_, willing.takeAll _⟩
  rw [walks.afterAll_events, Except.ok.inj ended]
  rfl

end Simulation

/-- At a step off the grid a robot falls if its pose has no scent. If it has one, the robot goes
on from there, and whatever comes, it does not fall from that pose. -/
theorem Robot.run_edge {σ : Type} {sink : Sink σ} {square : Square} {robot : Robot}
    {landing : Landing} {before after : List Command} {pose : Pose} {scent : Scent} {out : σ}
    {world : World σ} (willing : sink.Willing out) (found : robot.landing? = some landing)
    (course : landing.course = before ++ .forward :: after)
    (stood : Simulation.follow sink square robot.name before landing.pose ⟨scent, out⟩ =
      (.ok ⟨robot.name, pose, false⟩, world))
    (outside : square.holds pose.ahead = false) :
    ((robot.report square scent).answer = .ok ⟨robot.name, pose, true⟩ ↔ pose ∉ scent.poses) ∧
    (pose ∈ scent.poses →
      robot.run sink square ⟨scent, out⟩ =
        Simulation.follow sink square robot.name after pose
          (world.tell sink (.tryingMove robot.name pose.ahead)).1) := by
  have onward : robot.run sink square ⟨scent, out⟩ =
      Simulation.follow sink square robot.name (.forward :: after) pose world := by
    rw [run_landing found, course, Simulation.follow_append stood]
  obtain ⟨heard, taken⟩ := world
  obtain ⟨same, willing'⟩ := Simulation.follow_stood willing stood
  change heard = scent at same
  subst heard
  refine ⟨⟨?_, ?_⟩, ?_⟩
  · intro answer
    obtain ⟨_, _, walks⟩ := report_walks answer
    exact (walks.lost_fresh rfl).1
  · intro fresh
    have fell := congrArg Prod.fst (onward.symm.trans (run_willing willing robot square scent))
    rw [Simulation.follow_fell willing' outside fresh] at fell
    exact fell.symm
  · intro scented
    rw [onward, Simulation.follow_held willing' outside scented]

/-- Whatever robots take turns on a fresh grid, its scent is the history of their falls, and that
history alone says who falls at a step off the grid. -/
theorem Turn.scent_history (square : Square) (turns : List Turn)
    (ready : ∀ turn ∈ turns, turn.Ready) :
    ∃ outcomes : List Outcome, (playAll square turns .empty).1 = outcomes.map .ok ∧
      ∀ count, let scent := (playAll square (turns.take count) .empty).2
        let earlier := outcomes.take count
        (∀ pose, scent.contains pose = true ↔ pose ∈ falls earlier) ∧
        (falls earlier).Nodup ∧
        scent.size = earlier.countP Outcome.lost ∧
        ∀ turn landing before after pose world,
          turns[count]? = some turn → turn.robot.landing? = some landing →
          landing.course = before ++ .forward :: after →
          Simulation.follow turn.sink square turn.robot.name before landing.pose
            ⟨scent, turn.out⟩ = (.ok ⟨turn.robot.name, pose, false⟩, world) →
          square.holds pose.ahead = false →
          (outcomes[count]? = some ⟨turn.robot.name, pose, true⟩ ↔ pose ∉ falls earlier) ∧
          (pose ∈ falls earlier →
            turn.robot.run turn.sink square ⟨scent, turn.out⟩ =
              Simulation.follow turn.sink square turn.robot.name after pose
                (world.tell turn.sink (.tryingMove turn.robot.name pose.ahead)).1) := by
  have landed (robot : Robot) (member : robot ∈ turns.map Turn.robot) : robot.Lands := by
    obtain ⟨turn, among, rfl⟩ := List.mem_map.1 member
    exact (ready turn among).lands
  refine ⟨Simulation.outcomes square (turns.map Turn.robot) .empty, ?_, ?_⟩
  · rw [playAll_ready ready, Simulation.reports_answers landed]
  intro count scent earlier
  have soFar : ∀ turn ∈ turns.take count, turn.Ready :=
    fun turn member => ready turn (List.mem_of_mem_take member)
  have after : scent =
      Simulation.scentAfter square ((turns.map Turn.robot).take count) .empty := by
    rw [← List.map_take]
    exact congrArg Prod.snd (playAll_ready soFar .empty)
  have poses : scent.poses = (falls earlier).reverse := by
    rw [after, Simulation.poses_scentAfter fun robot member =>
      landed robot (List.mem_of_mem_take member), Simulation.outcomes_take landed]
    exact List.append_nil _
  have scented (pose : Pose) : pose ∈ scent.poses ↔ pose ∈ falls earlier := by
    rw [poses, List.mem_reverse]
  refine ⟨?_, ?_, ?_, ?_⟩
  · intro pose
    rw [Scent.contains, decide_eq_true_eq, scented]
  · rw [← List.nodup_reverse, ← poses]
    exact scent.nodup
  · rw [Scent.size, poses, List.length_reverse, falls, List.length_map, List.countP_eq_length_filter]
  · intro turn landing before rest pose world taken found course stood outside
    have willing := (ready turn (List.mem_of_getElem? taken)).willing
    have edge := Robot.run_edge willing found course stood outside
    have ended : (Simulation.outcomes square (turns.map Turn.robot) .empty)[count]?.map .ok =
        some (turn.robot.report square scent).answer := by
      rw [Simulation.outcomes_getElem? landed, ← after, List.getElem?_map, taken]
      rfl
    obtain ⟨outcome, here, answer⟩ := Option.map_eq_some_iff.1 ended
    rw [← answer, scented, Except.ok.injEq] at edge
    rw [here, Option.some.injEq]
    exact edge

/-- The second robot is held where the first one fell, turns, and falls there itself. -/
def Turn.pair : List Turn :=
  [⟨⟨"A", [.landing 2 2 .east, .heading [.forward]]⟩, Unit, .silent, ()⟩,
    ⟨⟨"B", [.landing 2 2 .east, .heading [.forward, .left, .forward]]⟩, Array Event, .collect, #[]⟩]

theorem Turn.pair_history :
    (∀ turn ∈ pair, turn.Ready) ∧
      ∃ outcomes : List Outcome, (playAll ⟨2, 2⟩ pair .empty).1 = outcomes.map .ok ∧
        falls (outcomes.take 1) = [⟨2, 2, .east⟩] ∧
        (Square.mk 2 2).holds (Pose.mk 2 2 .north).ahead = false ∧
        outcomes[1]? = some ⟨"B", ⟨2, 2, .north⟩, true⟩ := by
  have ready : ∀ turn ∈ pair, turn.Ready := by
    intro turn member
    simp only [pair, List.mem_cons, List.not_mem_nil, or_false] at member
    rcases member with rfl | rfl
    · exact ⟨by decide, Sink.silent_willing ()⟩
    · exact ⟨by decide, Sink.collect_willing #[]⟩
  obtain ⟨outcomes, answers, history⟩ := scent_history ⟨2, 2⟩ pair ready
  have outside : (Square.mk 2 2).holds (Pose.mk 2 2 .north).ahead = false := by decide
  have first : falls (outcomes.take 1) = [⟨2, 2, .east⟩] := by
    have head := congrArg (List.take 1) answers
    rw [← List.map_take] at head
    cases outcomes with
    | nil => cases head
    | cons outcome rest =>
      cases head
      rfl
  have fresh : (Pose.mk 2 2 .north) ∉ falls (outcomes.take 1) := by
    rw [first]
    decide
  obtain ⟨fell, _⟩ := (history 1).2.2.2 _ _ [.forward, .left] [] ⟨2, 2, .north⟩ _ rfl rfl rfl rfl
    outside
  exact ⟨ready, outcomes, answers, first, outside, fell.2 fresh⟩

end ScentedGrid
