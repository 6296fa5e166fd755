import ScentedGrid.Execution
import ScentedGrid.Proofs.Bytecode.RoundTrip
import ScentedGrid.Proofs.Simulation.Report
import ScentedGrid.Proofs.Source.Printing

/-! From mission text to a run and back to blame. Whatever text is read as a mission has bytes, the
bytes hold that mission, and running them is running the mission; so each failure belongs to one
stage, and a mission that was compiled fails only for a robot without a landing or for its sink. -/

namespace ScentedGrid

variable {σ : Type}

theorem Mission.expressible_of_parse {source : String} {mission : Mission}
    (read : parse source = .ok mission) : mission.square.Positive ∧ mission.Expressible :=
  (Source.missionText_of_read read).expressible

theorem compile_of_parse {source : String} {mission : Mission}
    (read : Mission.parse source = .ok mission) : compile source = .ok mission.layout := by
  have written := (mission.encode_eq_ok_iff mission.layout).2
    ⟨(Mission.expressible_of_parse read).2, rfl⟩
  rw [compile, read]
  simp only [written]

theorem execute_layout {mission : Mission} (positive : mission.square.Positive)
    (expressible : mission.Expressible) (sink : Sink σ) (out : σ) :
    execute sink mission.layout out =
      ((mission.simulate sink out).1.mapError .run, (mission.simulate sink out).2.out) := by
  have decoded := Mission.decode_layout expressible
  rw [if_neg ((Square.positive_iff _).1 positive)] at decoded
  exact execute_of_decode decoded sink out

/-- Bytes of a mission fail for its first robot that never lands, if the sink refuses nothing. -/
theorem execute_error_iff {mission : Mission} (positive : mission.square.Positive)
    (expressible : mission.Expressible) {sink : Sink σ} {out : σ} (willing : sink.Willing out)
    (error : ExecuteError) :
    (execute sink mission.layout out).1 = .error error ↔
      ∃ before robot after, mission.robots = before ++ robot :: after ∧
        (∀ other ∈ before, other.Lands) ∧ ¬ robot.Lands ∧
        error = .run (.missingLanding robot.name) := by
  have ran := congrArg Prod.fst (execute_layout positive expressible sink out)
  have failed := mission.simulate_error_iff willing
  rw [ran]
  constructor
  · intro mapped
    cases answer : (mission.simulate sink out).1 with
    | error fault =>
      rw [answer] at mapped
      cases mapped
      obtain ⟨before, robot, after, split, landed, nowhere, rfl⟩ := (failed fault).1 answer
      exact ⟨before, robot, after, split, landed, nowhere, rfl⟩
    | ok outcomes =>
      rw [answer] at mapped
      cases mapped
  · rintro ⟨before, robot, after, split, landed, nowhere, rfl⟩
    rw [(failed _).2 ⟨before, robot, after, split, landed, nowhere, rfl⟩]
    rfl

/-- Nothing is lost between the text of a mission and its run. -/
theorem compile_execute (source : String) :
    ((∃ bytes, compile source = .ok bytes) ↔
      ∃ mission, Mission.parse source = .ok mission) ∧
    (∀ fault, compile source ≠ .error (.encode fault)) ∧
    ∀ mission bytes, Mission.parse source = .ok mission → compile source = .ok bytes →
      (∀ {σ : Type} (sink : Sink σ) (out : σ),
        (execute sink bytes out).1 = (mission.simulate sink out).1.mapError .run ∧
        (execute sink bytes out).2 = (mission.simulate sink out).2.out ∧
        (execute sink.recording bytes (out, [])).2.2 =
          (mission.simulate sink.recording (out, [])).2.out.2 ∧
        (∀ fault, (execute sink bytes out).1 ≠ .error (.decode fault))) ∧
      (∀ {σ : Type} (sink : Sink σ) (out : σ), sink.Willing out → ∀ error,
        (execute sink bytes out).1 = .error error ↔
          ∃ before robot after, mission.robots = before ++ robot :: after ∧
            (∀ other ∈ before, other.Lands) ∧ ¬ robot.Lands ∧
            error = .run (.missingLanding robot.name)) ∧
      (∀ {σ : Type} (sink : Sink σ) (out : σ), ¬ mission.Lands →
        (execute sink bytes out).2 = out) := by
  have written {mission : Mission} (read : Mission.parse source = .ok mission) :=
    compile_of_parse read
  have refused {error : SourceError} (unread : Mission.parse source = .error error) :
      compile source = .error (.source error) := by
    rw [compile, unread]
  refine ⟨?_, ?_, ?_⟩
  · constructor
    · rintro ⟨bytes, compiled⟩
      cases read : Mission.parse source with
      | error error => cases compiled.symm.trans (refused read)
      | ok mission => exact ⟨mission, rfl⟩
    · rintro ⟨mission, read⟩
      exact ⟨mission.layout, written read⟩
  · intro fault blamed
    cases read : Mission.parse source with
    | error error => cases blamed.symm.trans (refused read)
    | ok mission => cases blamed.symm.trans (written read)
  · intro mission bytes read compiled
    obtain ⟨positive, expressible⟩ := Mission.expressible_of_parse read
    cases compiled.symm.trans (written read)
    have ran {σ : Type} (sink : Sink σ) (out : σ) := execute_layout positive expressible sink out
    refine ⟨?_, fun sink out willing => execute_error_iff positive expressible willing, ?_⟩
    · intro σ sink out
      refine ⟨by rw [ran], by rw [ran], by rw [ran], ?_⟩
      intro fault
      rw [ran]
      cases (mission.simulate sink out).1 with
      | error error => simp [Except.mapError]
      | ok outcomes => simp [Except.mapError]
    · intro σ sink out stranded
      obtain ⟨robot, found⟩ := Option.ne_none_iff_exists'.1 (mt Mission.find_nowhere.1 stranded)
      rw [ran, Mission.simulate_nowhere found]

/-- Named like a sentence, the second robot never lands, nor does the third. -/
def Mission.stranded : Mission :=
  ⟨⟨5, 3⟩, [⟨"Move", [.landing 1 1 .north]⟩, ⟨"Rotate", [.heading [.forward]]⟩, ⟨"C", []⟩]⟩

theorem compile_execute_stranded :
    Mission.parse Mission.stranded.source = .ok Mission.stranded ∧
      compile Mission.stranded.source = .ok Mission.stranded.layout ∧
      Sink.collect.Willing #[] ∧ ¬ Mission.stranded.Lands ∧
      (execute .collect Mission.stranded.layout #[]).1 =
        .error (.run (.missingLanding "Rotate")) ∧
      (execute .collect Mission.stranded.layout #[]).2 = #[] := by
  have read : Mission.parse Mission.stranded.source = .ok Mission.stranded :=
    Source.mission_read (missionText_source (by decide) (by decide +kernel))
  have compiled := compile_of_parse read
  have willing := Sink.collect_willing #[]
  have nowhere : ¬ Mission.stranded.Lands := by decide
  obtain ⟨_, failing, silent⟩ := (compile_execute _).2.2 _ _ read compiled
  exact ⟨read, compiled, willing, nowhere,
    (failing .collect #[] willing _).2
      ⟨[_], _, [_], rfl, by decide, by decide, rfl⟩,
    silent .collect #[] nowhere⟩

end ScentedGrid
