import ScentedGrid.Proofs.Arguments
import ScentedGrid.Proofs.CommandLine
import ScentedGrid.Proofs.Pipeline

/-! Benchmarks. A round begins with the text of the mission and ends with a run on a fresh grid, so
each round adds the same bytes and the same losses as every other. On a generated mission no stage
of a round fails. -/

namespace ScentedGrid

open Text

/-- Every robot has a byte at least, the one that ends it. -/
theorem Mission.robots_le_layout (mission : Mission) :
    mission.robots.length ≤ mission.layout.length := by
  have each (robots : List Robot) : robots.length ≤ (robots.flatMap Robot.layout).length := by
    induction robots with
    | nil => exact Nat.le_refl 0
    | cons robot rest ih =>
      have filled : 1 ≤ robot.layout.length := by simp [Robot.layout]
      rw [List.flatMap_cons, List.length_append, List.length_cons]
      omega
  have bytes := each mission.robots
  rw [Mission.layout, List.length_append]
  omega

namespace CommandLine

variable {mission : Mission}

/-! ## Rounds -/

/-- What so many rounds add if each of them adds the same. -/
def Totals.times (totals : Totals) (rounds : Nat) : Totals :=
  ⟨rounds * totals.bytes, rounds * totals.lost⟩

theorem Totals.ofRounds_same {source : String} {round : Totals} (same : ofRound source = .ok round)
    (rounds : Nat) (start : Totals) :
    ofRounds source rounds start = .ok (start.add (round.times rounds)) := by
  induction rounds generalizing start with
  | zero => simp [ofRounds, times, add]
  | succ rounds ih =>
    have sum : (start.add round).add (round.times rounds) = start.add (round.times (rounds + 1)) := by
      simp only [add, times, Totals.mk.injEq]
      rw [Nat.succ_mul, Nat.succ_mul]
      omega
    rw [ofRounds, same]
    simp only [ih, sum]

/-- The bytes and the losses of one run. -/
def Totals.ofMission (mission : Mission) : Totals :=
  ⟨mission.layout.length, mission.outcomes.countP Outcome.lost⟩

theorem Totals.ofRound_source (positive : mission.square.Positive)
    (expressible : mission.Expressible) (landed : mission.Lands) :
    ofRound mission.source = .ok (ofMission mission) := by
  have read : Mission.parse mission.source = .ok mission :=
    Source.mission_read (missionText_source positive expressible)
  have ran := execute_layout positive expressible Sink.silent ()
  rw [mission.simulate_willing landed (Sink.silent_willing ())] at ran
  rw [ofRound, compile_of_parse read]
  simp only [ran, Except.mapError]
  rfl

/-- A robot is lost at most once in a run, since a mission has an outcome for each of its robots. -/
theorem Totals.lost_le_robots (landed : mission.Lands) :
    (ofMission mission).lost ≤ mission.robots.length := by
  have names : mission.outcomes.map Outcome.name = mission.robots.map Robot.name :=
    Simulation.outcomes_names landed .empty
  calc mission.outcomes.countP Outcome.lost
    _ ≤ mission.outcomes.length := List.countP_le_length
    _ = (mission.outcomes.map Outcome.name).length := by rw [List.length_map]
    _ = mission.robots.length := by rw [names, List.length_map]

/-- Each round of a benchmark is one run of the mission on a fresh grid, and the response says what
all of them come to. No sum on the way is larger than the bytes of all rounds. -/
structure Measured (plan : Plan) (mission : Mission) (rounds : Nat) (bytes : List UInt8)
    (outcomes : List Outcome) (response : Response) : Prop where
  square : mission.square = ⟨max plan.width 1, max plan.height 1⟩
  count : mission.robots.length = plan.robots
  encoded : mission.encode = .ok bytes
  ran : ∀ {σ : Type} (sink : Sink σ) (out : σ), sink.Willing out →
    (mission.simulate sink out).1 = .ok outcomes
  summed : ∀ count, Totals.ofRounds mission.source count .zero =
    .ok ⟨count * bytes.length, count * outcomes.countP Outcome.lost⟩
  room : rounds * bytes.length < UInt64.size → ∀ count, count ≤ rounds →
    count * bytes.length < UInt64.size ∧ count * outcomes.countP Outcome.lost < UInt64.size ∧
      count * mission.robots.length < UInt64.size
  reported : response = ⟨0, "", lined
    ["Benchmark results:",
      "  Iterations:        " ++ decimal rounds,
      "  Grid:              " ++ decimal mission.square.width.toNat ++ "x" ++
        decimal mission.square.height.toNat,
      "  Robots per run:    " ++ decimal mission.robots.length,
      "  Bytecode bytes:    " ++ decimal (if rounds = 0 then 0 else bytes.length),
      "  Robots lost:       " ++ decimal (rounds * outcomes.countP Outcome.lost)]⟩

theorem benchmark_measured {plan : Plan} (few : plan.robots ≤ Nat.pow 10 254)
    (generated : mission.Generated plan) (rounds : Nat) (visible : Char → Bool) :
    Measured plan mission rounds mission.layout mission.outcomes
      (benchmark visible mission rounds) := by
  have positive : mission.square.Positive := generated.square ▸ plan.square_positive
  have expressible := generated.expressible few
  have landed := generated.lands.1
  have summed (count : Nat) : Totals.ofRounds mission.source count .zero =
      .ok ((Totals.ofMission mission).times count) := by
    rw [Totals.ofRounds_same (Totals.ofRound_source positive expressible landed)]
    simp [Totals.zero, Totals.add]
  refine ⟨generated.square, generated.count,
    (mission.encode_eq_ok_iff _).2 ⟨expressible, rfl⟩, ?_, summed, ?_, ?_⟩
  · intro σ sink out willing
    rw [mission.simulate_willing landed willing]
  · intro room count le
    have robots := mission.robots_le_layout
    have lost := (Totals.lost_le_robots landed).trans robots
    have bytes := Nat.lt_of_le_of_lt (Nat.mul_le_mul_right mission.layout.length le) room
    exact ⟨bytes, Nat.lt_of_le_of_lt (Nat.mul_le_mul_left count lost) bytes,
      Nat.lt_of_le_of_lt (Nat.mul_le_mul_left count robots) bytes⟩
  · have mean : rounds * mission.layout.length / max rounds 1 =
        if rounds = 0 then 0 else mission.layout.length := by
      by_cases none : rounds = 0
      · rw [none, if_pos rfl, Nat.zero_mul, Nat.zero_div]
      · have some : 0 < rounds := Nat.pos_of_ne_zero none
        rw [if_neg none, Nat.max_eq_left some, Nat.mul_div_cancel_left _ some]
    rw [benchmark, summed]
    simp only [Totals.report, Totals.times, Totals.ofMission, mean]

/-- On any platform and with any files, a benchmark of a mission that was drawn compiles and runs it in
every round, without a failure, and every round is the same run. A mission is drawn wherever no draw
fails to find a value. -/
theorem bench_measures {arguments : List String} {plan : Plan} {seed : UInt64} {rounds : Nat}
    (asked : Invocation.parse arguments = .ok (.bench plan seed rounds))
    {σ : Type} (platform : Platform σ) :
    (platform.sampler.Finds → ∃ mission,
      platform.sampler.mission? plan (platform.sampler.ofSeed seed) = some mission) ∧
    ∀ mission, platform.sampler.mission? plan (platform.sampler.ofSeed seed) = some mission →
      ∃ bytes outcomes response,
        (∀ {m : Type → Type} [Monad m] (files : FileAccess m),
          respond platform files arguments = pure response) ∧
        Measured plan mission rounds bytes outcomes response := by
  have few : plan.robots ≤ Nat.pow 10 254 :=
    Nat.le_trans (Nat.le_of_lt (bench_words asked).1) (by decide)
  refine ⟨fun finds => Sampler.mission?_found finds plan _, fun mission drawn => ?_⟩
  have responded {m : Type → Type} [Monad m] (files : FileAccess m) :
      respond platform files arguments = pure (benchmark platform.visible mission rounds) := by
    rw [respond, asked]
    simp only [Invocation.respond, drawn]
  exact ⟨_, _, _, responded,
    benchmark_measured few (Sampler.mission?_generated drawn) rounds platform.visible⟩

/-- The first robot leaves the scent that holds the third. If the scent were still there in the next
round, the first robot would not be lost again. -/
theorem bench_measures_scented :
    let arguments := ["bench", "--seed", "6", "--width=1", "--height", "0", "--robots", "3",
      "--commands", "4", "--iterations", "+3"]
    let plan : Plan := ⟨1, 0, 3, 4⟩
    let mission : Mission := ⟨⟨1, 1⟩,
      [⟨"R0", [.landing 1 1 .east, .heading [.forward, .right, .left, .right]]⟩,
        ⟨"R1", [.landing 0 1 .west, .heading [.forward, .right, .right, .right]]⟩,
        ⟨"R2", [.landing 1 1 .east, .heading [.forward, .forward, .right, .right]]⟩]⟩
    Invocation.parse arguments = .ok (.bench plan 6 3) ∧
      plan.mission? Plan.patience 6 = some mission ∧
      Directory.perform ⟨[]⟩ .standard arguments = (⟨0, "", lined
        ["Benchmark results:", "  Iterations:        3", "  Grid:              1x1",
          "  Robots per run:    3", "  Bytecode bytes:    42", "  Robots lost:       6"]⟩, ⟨[]⟩) := by
  intro arguments plan mission
  have asked : Invocation.parse arguments = .ok (.bench plan 6 3) := by rfl
  have drawn : plan.mission? Plan.patience 6 = some mission := by decide +kernel
  obtain ⟨bytes, outcomes, response, responded, measured⟩ :=
    (bench_measures asked .standard).2 mission drawn
  have written : mission.encode = .ok mission.layout := by decide +kernel
  have ran : (mission.simulate .silent ()).1 = .ok mission.outcomes := by decide +kernel
  cases measured.encoded.symm.trans written
  cases (measured.ran .silent () (Sink.silent_willing ())).symm.trans ran
  have length : mission.layout.length = 42 := by decide +kernel
  have lost : mission.outcomes.countP Outcome.lost = 2 := by decide +kernel
  have lines := measured.reported
  rw [length, lost] at lines
  have text := lines.trans (show _ = (⟨0, "", lined
    ["Benchmark results:", "  Iterations:        3", "  Grid:              1x1",
      "  Robots per run:    3", "  Bytecode bytes:    42", "  Robots lost:       6"]⟩ : Response) by
    decide +kernel)
  refine ⟨asked, drawn, ?_⟩
  rw [Directory.perform, responded, text]
  rfl

end CommandLine
end ScentedGrid
