import Mathlib.Data.List.NodupEquivFin
import ScentedGrid.Proofs.Simulation.Report

/-! Missions with more robots. Robots that are added anywhere only leave more scent behind. A robot
that survives on some scent takes the same walk on more of it, and where one falls, more scent
either holds it or sees it fall too; so the scent of the larger mission covers that of the smaller
one at every robot that they share. -/

namespace ScentedGrid

namespace Simulation.Walks

variable {square : Square} {scent other : Scent} {robot : String} {course : List Command}
  {pose : Pose} {walk : Walk}

/-- More scent does not change the walk of a robot that is not lost. -/
theorem survives (walks : Walks square scent robot course pose walk)
    (covered : scent.poses ⊆ other.poses) (stood : walk.outcome.lost = false) :
    Simulation.walk square other robot course pose = walk := by
  induction walks with
  | done => rfl
  | right _ ih | left _ ih => exact ih stood
  | moved inside _ ih => rw [walk_moved inside, ih stood]
  | held outside scented _ ih => rw [walk_held outside (covered scented), ih stood]
  | fell => cases stood

/-- More scent holds a robot where it was lost, or it is lost there again. -/
theorem fall_covered (walks : Walks square scent robot course pose walk)
    (covered : scent.poses ⊆ other.poses) (lost : walk.outcome.lost = true) :
    walk.outcome.pose ∈
      (other.afterOutcome (Simulation.walk square other robot course pose).outcome).poses := by
  induction walks with
  | done => cases lost
  | right _ ih | left _ ih => exact ih lost
  | moved inside _ ih =>
    rw [walk_moved inside]
    exact ih lost
  | held outside scented _ ih =>
    rw [walk_held outside (covered scented)]
    exact ih lost
  | @fell rest pose outside =>
    by_cases scented : pose ∈ other.poses
    · exact Scent.mem_afterOutcome.2 (.inr scented)
    · rw [walk_fell outside scented]
      exact Scent.mem_mark.2 (.inl rfl)

end Simulation.Walks

namespace Robot

variable {robot : Robot} {square : Square} {scent other : Scent}

theorem report_survives (covered : scent.poses ⊆ other.poses) {outcome : Outcome}
    (answer : (robot.report square scent).answer = .ok outcome) (stood : outcome.lost = false) :
    robot.report square other = robot.report square scent := by
  obtain ⟨landing, found, walks⟩ := report_walks answer
  have same := walks.survives covered stood
  rw [report_landing found, same]
  change Report.mk (.ok outcome) (robot.report square scent).events = _
  rw [← answer]

/-- What a robot leaves behind on some scent is covered by what it leaves behind on more. -/
theorem report_covered (covered : scent.poses ⊆ other.poses) :
    (scent.afterAll (robot.report square scent).events).poses ⊆
      (other.afterAll (robot.report square other).events).poses := by
  cases found : robot.landing? with
  | none =>
    rw [report_nowhere found, report_nowhere found]
    exact covered
  | some landing =>
    have walks (scent : Scent) :=
      Simulation.walks_walk square scent robot.name landing.course landing.pose
    rw [report_landing found, report_landing found]
    simp only [(walks scent).afterAll_events, (walks other).afterAll_events]
    intro pose member
    rcases Scent.mem_afterOutcome.1 member with ⟨lost, rfl⟩ | earlier
    · exact (walks scent).fall_covered covered lost
    · exact Scent.mem_afterOutcome.2 (.inr (covered earlier))

end Robot

namespace Simulation

variable {square : Square}

theorem scentAfter_take_succ {robots : List Robot} {count : Nat} (inside : count < robots.length)
    (scent : Scent) :
    scentAfter square (robots.take (count + 1)) scent =
      (scentAfter square (robots.take count) scent).afterAll
        (robots[count].report square (scentAfter square (robots.take count) scent)).events := by
  rw [← List.take_append_getElem inside, scentAfter_append, scentAfter_cons]
  rfl

theorem scentAfter_take_subset (robots : List Robot) (scent : Scent) {count other : Nat}
    (order : count ≤ other) :
    (scentAfter square (robots.take count) scent).poses ⊆
      (scentAfter square (robots.take other) scent).poses := by
  have initial : robots.take count <+: robots.take other := List.take_prefix_take_left order
  obtain ⟨rest, split⟩ := initial
  rw [← split, scentAfter_append]
  exact Scent.subset_afterAll _ _

/-- The scent that the first robots of the smaller mission leave is covered by that of the larger
one, once the places of all these robots are past. -/
theorem scentAfter_covered {first second : List Robot}
    (place : Fin first.length ↪o Fin second.length)
    (same : ∀ index, first.get index = second.get (place index)) {count other : Nat}
    (bound : count ≤ first.length)
    (past : ∀ index : Fin first.length, index < count → (place index : Nat) < other) :
    (scentAfter square (first.take count) .empty).poses ⊆
      (scentAfter square (second.take other) .empty).poses := by
  induction count generalizing other with
  | zero => exact List.nil_subset _
  | succ count ih =>
    let index : Fin first.length := ⟨count, bound⟩
    have before : ∀ earlier : Fin first.length, earlier < count → place earlier < place index :=
      fun earlier less => place.strictMono less
    have shared : first[count] = second[place index] := same index
    have covered := ih (Nat.le_of_lt bound) before
    have after : (scentAfter square (first.take (count + 1)) .empty).poses ⊆
        (scentAfter square (second.take (place index + 1)) .empty).poses := by
      rw [scentAfter_take_succ bound, scentAfter_take_succ (place index).isLt, shared]
      exact Robot.report_covered covered
    -- the robots added after this place only leave more scent
    exact List.Subset.trans after
      (scentAfter_take_subset second .empty (past index count.lt_succ_self))

end Simulation

namespace Mission

section

variable {square : Square} {first second : List Robot}
  {place : Fin first.length ↪o Fin second.length}

theorem scentBefore_covered (same : ∀ index, first.get index = second.get (place index))
    (index : Fin first.length) :
    ((Mission.mk square first).scentBefore index).poses ⊆
      ((Mission.mk square second).scentBefore (place index)).poses :=
  Simulation.scentAfter_covered place same index.isLt.le fun _ less => place.strictMono less

theorem finalScent_covered (same : ∀ index, first.get index = second.get (place index)) :
    (Mission.mk square first).finalScent.poses ⊆ (Mission.mk square second).finalScent.poses := by
  have covered : (Simulation.scentAfter square (first.take first.length) .empty).poses ⊆
      (Simulation.scentAfter square (second.take second.length) .empty).poses :=
    Simulation.scentAfter_covered place same (Nat.le_refl _) fun index _ => (place index).isLt
  rwa [List.take_length, List.take_length] at covered

theorem lands_of_same (landed : ∀ robot ∈ second, robot.Lands)
    (same : ∀ index, first.get index = second.get (place index)) :
    ∀ robot ∈ first, robot.Lands := by
  intro robot member
  obtain ⟨index, rfl⟩ := List.get_of_mem member
  rw [same index]
  exact landed _ (List.get_mem second _)

end

/-- Robots added anywhere to a mission never hurt a survivor. Whoever is not lost without them tells
the same and ends the same among them, and every scent of the smaller mission is also left in the
larger one. -/
theorem simulate_insert (square : Square) {first second : List Robot}
    (landed : ∀ robot ∈ second, robot.Lands) (place : Fin first.length ↪o Fin second.length)
    (same : ∀ index, first.get index = second.get (place index)) {σ τ : Type} {sink : Sink σ}
    {out : σ} (willing : sink.Willing out) {sink' : Sink τ} {out' : τ}
    (willing' : sink'.Willing out') :
    let smaller : Mission := ⟨square, first⟩
    let larger : Mission := ⟨square, second⟩
    smaller.simulate sink out =
        (.ok smaller.outcomes, ⟨smaller.finalScent, sink.takeAll out
          (.start square first :: (smaller.segments.flatten ++ [.results smaller.outcomes]))⟩) ∧
      larger.simulate sink' out' =
        (.ok larger.outcomes, ⟨larger.finalScent, sink'.takeAll out'
          (.start square second :: (larger.segments.flatten ++ [.results larger.outcomes]))⟩) ∧
      (∀ pose, smaller.finalScent.contains pose = true → larger.finalScent.contains pose = true) ∧
      ∀ index : Fin first.length, ∃ outcome events,
        smaller.outcomes[(index : Nat)]? = some outcome ∧
        smaller.segments[(index : Nat)]? = some events ∧
        (outcome.lost = false →
          larger.outcomes[(place index : Nat)]? = some outcome ∧
          larger.segments[(place index : Nat)]? = some events) := by
  intro smaller larger
  have landed' : larger.Lands := landed
  have landedFirst : smaller.Lands := lands_of_same landed same
  refine ⟨simulate_willing landedFirst willing, simulate_willing landed' willing', ?_, ?_⟩
  · intro pose
    rw [Scent.contains, Scent.contains, decide_eq_true_eq, decide_eq_true_eq]
    exact fun scented => finalScent_covered same scented
  · intro index
    have taken : smaller.robots[(index : Nat)]? = some (first.get index) :=
      List.getElem?_eq_getElem index.isLt
    have taken' : larger.robots[(place index : Nat)]? = some (first.get index) := by
      rw [same index]
      exact List.getElem?_eq_getElem (place index).isLt
    have lands : (first.get index).Lands := landedFirst _ (List.get_mem first index)
    obtain ⟨outcome, answer⟩ :=
      (first.get index).report_answer lands square (smaller.scentBefore index)
    refine ⟨outcome, _, (outcomes_getElem?_iff landedFirst taken).2 answer,
      segments_getElem? taken, ?_⟩
    intro stood
    have unchanged := Robot.report_survives (scentBefore_covered same index) answer stood
    constructor
    · rw [outcomes_getElem?_iff landed' taken', ← answer]
      exact congrArg Report.answer unchanged
    · rw [segments_getElem? taken']
      exact congrArg (fun report => some report.events) unchanged

/-- The first of these robots falls in the east and its scent holds the other one. -/
def pair : List Robot :=
  [⟨"B", [.landing 2 2 .east, .heading [.forward, .left, .forward]]⟩,
    ⟨"C", [.landing 2 2 .east, .heading [.forward, .right]]⟩]

/-- One added robot falls in the east first, so that the next one goes on to fall in the north. -/
def crowd : List Robot :=
  [⟨"A", [.landing 2 2 .east, .heading [.forward]]⟩,
    ⟨"B", [.landing 2 2 .east, .heading [.forward, .left, .forward]]⟩,
    ⟨"D", [.landing 0 0 .south, .heading [.forward]]⟩,
    ⟨"C", [.landing 2 2 .east, .heading [.forward, .right]]⟩]

def pairInCrowd : Fin pair.length ↪o Fin crowd.length :=
  have increasing : ∀ lower upper : Fin 2, lower < upper →
      (if lower = 0 then 1 else 3 : Fin 4) < if upper = 0 then 1 else 3 := by decide
  OrderEmbedding.ofStrictMono (fun index : Fin 2 => (if index = 0 then 1 else 3 : Fin 4)) increasing

theorem simulate_insert_crowd :
    (∀ robot ∈ crowd, robot.Lands) ∧ (∀ index, pair.get index = crowd.get (pairInCrowd index)) ∧
      Sink.silent.Willing () ∧ Sink.collect.Willing #[] ∧
      (Mission.mk ⟨2, 2⟩ pair).outcomes[0]? = some ⟨"B", ⟨2, 2, .east⟩, true⟩ ∧
      (Mission.mk ⟨2, 2⟩ crowd).outcomes[1]? = some ⟨"B", ⟨2, 2, .north⟩, true⟩ ∧
      (Mission.mk ⟨2, 2⟩ pair).outcomes[1]? = some ⟨"C", ⟨2, 2, .south⟩, false⟩ ∧
      (Mission.mk ⟨2, 2⟩ crowd).outcomes[3]? = some ⟨"C", ⟨2, 2, .south⟩, false⟩ ∧
      (Mission.mk ⟨2, 2⟩ crowd).finalScent.contains ⟨2, 2, .east⟩ = true := by
  have landed : ∀ robot ∈ crowd, robot.Lands := by decide
  have same : ∀ index, pair.get index = crowd.get (pairInCrowd index) := by decide
  have quiet := Sink.silent_willing ()
  have collects := Sink.collect_willing #[]
  have survived : (Mission.mk ⟨2, 2⟩ pair).outcomes[1]? = some ⟨"C", ⟨2, 2, .south⟩, false⟩ := by
    decide +kernel
  have scented : (Mission.mk ⟨2, 2⟩ pair).finalScent.contains ⟨2, 2, .east⟩ = true := by
    decide +kernel
  obtain ⟨_, _, covered, unchanged⟩ :=
    simulate_insert ⟨2, 2⟩ landed pairInCrowd same quiet collects
  obtain ⟨outcome, _, ended, _, stays⟩ := unchanged ⟨1, by decide⟩
  cases ended.symm.trans survived
  have among := (stays rfl).1
  exact ⟨landed, same, quiet, collects, by decide +kernel, by decide +kernel, survived, among,
    covered _ scented⟩

end Mission
end ScentedGrid
