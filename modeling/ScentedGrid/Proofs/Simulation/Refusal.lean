import ScentedGrid.Proofs.Simulation.History

/-! Sinks that have enough. A sink that takes a number of events and refuses every later one cuts a
robot's run short at that number: what it took is the first part of what the robot reports. A robot
whose fall is refused has fallen all the same, so its scent stays; a robot that is stopped anywhere
else leaves the scent as it found it, and the next robots run from there. -/

namespace ScentedGrid

variable {σ : Type}

namespace Sink

/-- Takes a number of events from here on and refuses every later one. -/
def TakesOnly (sink : Sink σ) (out : σ) (limit : Nat) : Prop :=
  ∀ events event, (sink.offer (sink.takeAll out events) event).2 = none ↔ events.length < limit

/-- Answers as the sink does, and keeps in order what it took. -/
def accepting (sink : Sink σ) : Sink (σ × List Event) :=
  ⟨fun (out, accepted) event =>
    let (out, fault) := sink.offer out event
    ((out, if fault.isNone then accepted ++ [event] else accepted), fault)⟩

namespace TakesOnly

variable {sink : Sink σ} {out : σ} {limit : Nat}

theorem next (limited : sink.TakesOnly out limit) (event : Event) :
    sink.TakesOnly (sink.takeAll out [event]) (limit - 1) := by
  intro events other
  have shifted := limited ([event] ++ events) other
  rw [takeAll_append, List.length_append, List.length_singleton] at shifted
  rw [shifted]
  omega

theorem taken (limited : sink.TakesOnly out limit) (positive : 0 < limit) (event : Event) :
    sink.offer out event = (sink.takeAll out [event], none) :=
  Prod.ext rfl ((limited [] event).2 positive)

theorem refused (limited : sink.TakesOnly out 0) (event : Event) :
    ∃ fault, sink.offer out event = (sink.takeAll out [event], some fault) := by
  have unwilling : (sink.offer out event).2 ≠ none := by
    intro taken
    exact absurd ((limited [] event).1 taken) (Nat.not_lt_zero _)
  obtain ⟨fault, full⟩ := Option.ne_none_iff_exists'.1 unwilling
  exact ⟨fault, Prod.ext rfl full⟩

end TakesOnly

theorem collectUpTo_takes (limit : Nat) (kept : Array Event) (event : Event) :
    ((collectUpTo limit).offer kept event).2 = none ↔ kept.size < limit := by
  by_cases fits : kept.size < limit <;> simp [collectUpTo, fits]

theorem collectUpTo_room (limit : Nat) (kept : Array Event) (events : List Event) :
    ((collectUpTo limit).takeAll kept events).size < limit ↔
      kept.size + events.length < limit := by
  induction events generalizing kept with
  | nil => rfl
  | cons event rest ih =>
    have onward := ih ((collectUpTo limit).offer kept event).1
    rw [takeAll, List.foldl_cons, ← takeAll, onward, List.length_cons]
    by_cases fits : kept.size < limit
    · simp only [collectUpTo, fits, if_true, Array.size_push]
      omega
    · simp only [collectUpTo, fits, if_false]
      omega

theorem collectUpTo_takesOnly (limit : Nat) : (collectUpTo limit).TakesOnly #[] limit := by
  intro events event
  rw [collectUpTo_takes, collectUpTo_room, Array.size_empty, Nat.zero_add]

section

variable {sink : Sink σ} {out : σ} {limit : Nat}

theorem accepting_takeAll_fst (sink : Sink σ) (out : σ) (accepted events : List Event) :
    (sink.accepting.takeAll (out, accepted) events).1 = sink.takeAll out events := by
  induction events generalizing out accepted with
  | nil => rfl
  | cons event rest ih => exact ih _ _

theorem accepting_takesOnly (limited : sink.TakesOnly out limit) (accepted : List Event) :
    sink.accepting.TakesOnly (out, accepted) limit := by
  intro events event
  rw [← limited events event, ← accepting_takeAll_fst sink out accepted events]
  rfl

theorem accepting_takeAll_snd (limited : sink.TakesOnly out limit) (accepted events : List Event) :
    (sink.accepting.takeAll (out, accepted) events).2 = accepted ++ events.take limit := by
  induction events generalizing out accepted limit with
  | nil => simp [takeAll]
  | cons event rest ih =>
    have onward := ih (limited.next event)
    rw [takeAll, List.foldl_cons, ← takeAll]
    change (sink.accepting.takeAll (sink.takeAll out [event], _) rest).2 = _
    rw [onward]
    cases limit with
    | zero =>
      obtain ⟨fault, refused⟩ := limited.refused event
      simp [refused]
    | succ limit => simp [limited.taken limit.succ_pos event]

theorem accepting_follows (sink : Sink σ) : sink.accepting.Follows sink :=
  fun _ _ _ => ⟨_, rfl⟩

end

end Sink

namespace World

variable {sink : Sink σ} {out : σ} {limit : Nat}

/-- Few enough events are all heard. -/
theorem tellAll_within (limited : sink.TakesOnly out limit) (scent : Scent) {events : List Event}
    (few : events.length ≤ limit) :
    (World.mk scent out).tellAll sink events =
      (⟨scent.afterAll events, sink.takeAll out events⟩, none) := by
  induction events generalizing scent out limit with
  | nil => rfl
  | cons event rest ih =>
    rw [List.length_cons] at few
    rw [tellAll_heard (happen_tell (limited.taken (by omega) event) scent)]
    exact ih (limited.next event) (scent.after event) (by omega)

/-- Of more events, the first one past the limit is refused, after it has happened. -/
theorem tellAll_beyond (limited : sink.TakesOnly out limit) (scent : Scent) {events : List Event}
    (many : limit < events.length) :
    ∃ fault, (World.mk scent out).tellAll sink events =
      (⟨scent.afterAll (events.take (limit + 1)), sink.takeAll out (events.take (limit + 1))⟩,
        some (.sink fault)) := by
  induction events generalizing scent out limit with
  | nil => cases many
  | cons event rest ih =>
    cases limit with
    | zero =>
      obtain ⟨fault, refused⟩ := limited.refused event
      exact ⟨fault, tellAll_refused (happen_tell refused scent) rest⟩
    | succ limit =>
      rw [List.length_cons] at many
      obtain ⟨fault, told⟩ := ih (limited.next event) (scent.after event) (by omega)
      rw [tellAll_heard (happen_tell (limited.taken limit.succ_pos event) scent)]
      exact ⟨fault, told⟩

variable {α : Type} {events : List Event}

theorem answering_within (limited : sink.TakesOnly out limit) (answer : Except RunError α)
    (scent : Scent) (few : events.length ≤ limit) :
    answering answer ((World.mk scent out).tellAll sink events) =
      (answer, ⟨scent.afterAll events, sink.takeAll out events⟩) := by
  rw [tellAll_within limited scent few, answering]

theorem answering_beyond (limited : sink.TakesOnly out limit) (answer : Except RunError α)
    (scent : Scent) (many : limit < events.length) :
    ∃ fault, answering answer ((World.mk scent out).tellAll sink events) =
      (.error (.sink fault), ⟨scent.afterAll (events.take (limit + 1)),
        sink.takeAll out (events.take (limit + 1))⟩) := by
  obtain ⟨fault, told⟩ := tellAll_beyond limited scent many
  exact ⟨fault, by rw [told, answering]⟩

/-- Whatever is answered in the end, the first events were taken. -/
theorem answering_accepting (limited : sink.TakesOnly out limit) (answer : Except RunError α)
    (scent : Scent) (events : List Event) :
    let plain := answering answer ((World.mk scent out).tellAll sink events)
    answering answer ((World.mk scent (out, [])).tellAll sink.accepting events) =
      (plain.1, ⟨plain.2.scent, plain.2.out, events.take limit⟩) := by
  intro plain
  have same := Sink.accepting_takesOnly limited []
  have taken :
      (answering answer ((World.mk scent (out, [])).tellAll sink.accepting events)).2.out.2 =
        events.take limit := by
    by_cases few : events.length ≤ limit
    · rw [answering_within same answer scent few]
      exact Sink.accepting_takeAll_snd limited [] events
    · have many := Nat.lt_of_not_le few
      obtain ⟨fault, answered⟩ := answering_beyond same answer scent many
      have first := Sink.accepting_takeAll_snd limited [] (events.take (limit + 1))
      rw [List.take_take, Nat.min_eq_left limit.le_succ] at first
      rw [answered]
      exact first
  obtain ⟨kept, noted⟩ := tellAll_follows sink.accepting_follows events scent out []
  rw [noted] at taken ⊢
  have unrefused : plain = answering answer ((World.mk scent out).tellAll sink events) := rfl
  cases told : (World.mk scent out).tellAll sink events with
  | mk world fault =>
    rw [told] at taken unrefused
    cases fault <;> rw [unrefused, ← taken] <;> rfl

end World

/-! ## Where the scent stays -/

theorem Scent.afterAll_steady {events : List Event} (onFoot : ∀ name pose, .lost name pose ∉ events)
    (scent : Scent) : scent.afterAll events = scent := by
  induction events with
  | nil => rfl
  | cons event rest ih =>
    have others := ih fun name pose member => onFoot name pose (List.mem_cons_of_mem event member)
    cases event with
    | lost name pose => exact absurd List.mem_cons_self (onFoot name pose)
    | _ => exact others

/-- Nothing is told of a robot after its fall. -/
theorem Simulation.Walks.lost_ends {square : Square} {scent : Scent} {robot : String}
    {course : List Command} {pose : Pose} {walk : Walk}
    (walks : Walks square scent robot course pose walk) {index : Nat} {name : String}
    {fallen : Pose} (told : walk.events[index]? = some (.lost name fallen)) :
    walk.events.length = index + 1 := by
  induction walks generalizing index with
  | done => simp at told
  | right _ ih | left _ ih => exact ih told
  | moved _ _ ih =>
    match index with
    | 0 | 1 => simp at told
    | index + 2 => exact congrArg (· + 2) (ih told)
  | held _ _ _ ih =>
    match index with
    | 0 => simp at told
    | index + 1 => exact congrArg (· + 1) (ih told)
  | fell =>
    match index with
    | 0 => simp at told
    | 1 => rfl
    | index + 2 => simp at told

namespace Robot

variable {robot : Robot} {square : Square} {scent : Scent} {index : Nat}

theorem report_lost_ends {name : String} {fallen : Pose}
    (told : (robot.report square scent).events[index]? = some (.lost name fallen)) :
    (robot.report square scent).events.length = index + 1 := by
  cases found : robot.landing? with
  | none => simp [report_nowhere found] at told
  | some landing =>
    rw [report_landing found] at told ⊢
    exact (Simulation.walks_walk ..).lost_ends told

/-- A report that is cut before the robot's fall has left no scent. -/
theorem report_steady (inside : index < (robot.report square scent).events.length)
    (onFoot : ∀ name fallen,
      (robot.report square scent).events[index]? ≠ some (.lost name fallen)) :
    scent.afterAll ((robot.report square scent).events.take (index + 1)) = scent := by
  apply Scent.afterAll_steady
  intro name fallen member
  obtain ⟨place, early, told⟩ := List.mem_take_iff_getElem.1 member
  have told : (robot.report square scent).events[place]? = some (.lost name fallen) := by
    rw [← told]
    exact List.getElem?_eq_getElem _
  have last := report_lost_ends told
  have same : place = index := by omega
  exact onFoot name fallen (same ▸ told)

variable {σ : Type} {sink : Sink σ} {out : σ} {limit : Nat}

theorem run_accepting (limited : sink.TakesOnly out limit) (robot : Robot) (square : Square)
    (scent : Scent) :
    let plain := robot.run sink square ⟨scent, out⟩
    robot.run sink.accepting square ⟨scent, out, []⟩ =
      (plain.1, ⟨plain.2.scent, plain.2.out, (robot.report square scent).events.take limit⟩) := by
  rw [run_eq, run_eq, World.answering_accepting limited]

theorem run_within (limited : sink.TakesOnly out limit)
    (few : (robot.report square scent).events.length ≤ limit) :
    robot.run sink square ⟨scent, out⟩ = ((robot.report square scent).answer,
      ⟨scent.afterAll (robot.report square scent).events,
        sink.takeAll out (robot.report square scent).events⟩) := by
  rw [run_eq, World.answering_within limited _ scent few]

theorem run_beyond (limited : sink.TakesOnly out limit)
    (many : limit < (robot.report square scent).events.length) :
    ∃ fault, (robot.run sink square ⟨scent, out⟩).1 = .error (.sink fault) ∧
      (robot.run sink square ⟨scent, out⟩).2.scent =
        scent.afterAll ((robot.report square scent).events.take (limit + 1)) := by
  obtain ⟨fault, cut⟩ := World.answering_beyond limited
    (robot.report square scent).answer scent many
  rw [run_eq, cut]
  exact ⟨fault, rfl, rfl⟩

end Robot

namespace Turn

theorem playAll_answer (square : Square) (turns : List Turn) (scent : Scent) (index : Nat) :
    (playAll square turns scent).1[index]? = turns[index]?.map fun turn =>
      (turn.play square (playAll square (turns.take index) scent).2).1 := by
  induction turns generalizing scent index with
  | nil => rfl
  | cons turn rest ih =>
    cases index with
    | zero => rfl
    | succ index => exact ih (turn.play square scent).2 index

theorem playAll_scent {square : Square} {turns : List Turn} {turn : Turn} {index : Nat}
    (here : turns[index]? = some turn) (scent : Scent) :
    (playAll square (turns.take (index + 1)) scent).2 =
      (turn.play square (playAll square (turns.take index) scent).2).2 := by
  induction turns generalizing scent index with
  | nil => cases here
  | cons first rest ih =>
    cases index with
    | zero =>
      cases here
      rfl
    | succ index => exact ih here (first.play square scent).2

/-- However robots take turns and whichever of them fail, a turn whose sink takes only so many
events is the unrefused turn cut off there. It leaves the scent of the unrefused turn if it ran to
its end or to a fall, and the scent it found if not. -/
theorem play_limited (square : Square) (turns : List Turn) (initial : Scent) {index limit : Nat}
    {turn : Turn} (here : turns[index]? = some turn)
    (limited : turn.sink.TakesOnly turn.out limit) :
    let scent := (playAll square (turns.take index) initial).2
    let after := (playAll square (turns.take (index + 1)) initial).2
    let unrefused := turn.robot.run .collect square ⟨scent, #[]⟩
    let events := unrefused.2.out.toList
    ∃ answer, (playAll square turns initial).1[index]? = some answer ∧
      (∃ out, turn.robot.run turn.sink.accepting square ⟨scent, turn.out, []⟩ =
        (answer, ⟨after, out, events.take limit⟩)) ∧
      (events.length ≤ limit → answer = unrefused.1 ∧ after = unrefused.2.scent) ∧
      (limit < events.length →
        (∃ fault, answer = .error (.sink fault)) ∧
        ((∃ name pose, events[limit]? = some (.lost name pose)) → after = unrefused.2.scent) ∧
        ((∀ name pose, events[limit]? ≠ some (.lost name pose)) → after = scent)) ∧
      (turn.robot.landing? = none →
        answer = .error (.missingLanding turn.robot.name) ∧ events = [] ∧
        (turn.robot.run turn.sink.recording square ⟨scent, turn.out, []⟩).2.out = (turn.out, []) ∧
        after = scent) := by
  intro scent after unrefused events
  have answered := playAll_answer square turns initial index
  rw [here, Option.map_some] at answered
  have left : after = (turn.robot.run turn.sink square ⟨scent, turn.out⟩).2.scent :=
    playAll_scent here initial
  have whole : unrefused = _ := turn.robot.run_willing (Sink.collect_willing #[]) square scent
  refine ⟨_, answered, ?_, ?_, ?_, ?_⟩
  · rw [left]
    exact ⟨_, Robot.run_accepting limited turn.robot square scent⟩
  · intro few
    have ran := Robot.run_within limited few
    rw [left, whole, ran]
    exact ⟨congrArg Prod.fst ran, rfl⟩
  · intro many
    obtain ⟨fault, failed, marked⟩ := Robot.run_beyond limited many
    rw [left, whole, marked]
    refine ⟨⟨fault, failed⟩, ?_, fun onFoot => Robot.report_steady many onFoot⟩
    rintro ⟨name, fallen, told⟩
    have last := Robot.report_lost_ends told
    exact congrArg scent.afterAll (List.take_of_length_le (Nat.le_of_eq last))
  · intro missing
    have ran := Robot.run_nowhere missing turn.sink square ⟨scent, turn.out⟩
    have silent : events = [] := congrArg Report.events (Robot.report_nowhere missing square scent)
    rw [left, ran, Robot.run_nowhere missing]
    exact ⟨congrArg Prod.fst ran, silent, rfl, rfl⟩

/-- The fall of the first robot is refused and still holds the third one, whose next step is
refused; the last robot is told to its end. -/
def outages : List Turn :=
  [⟨⟨"A", [.landing 2 2 .east, .heading [.forward]]⟩, Array Event, .collectUpTo 1, #[]⟩,
    ⟨⟨"B", [.heading [.forward]]⟩, Array Event, .collectUpTo 0, #[]⟩,
    ⟨⟨"C", [.landing 2 2 .east, .heading [.forward, .left, .forward]]⟩, Array Event,
      .collectUpTo 1, #[]⟩,
    ⟨⟨"D", [.landing 2 2 .east, .heading [.forward, .left, .forward]]⟩, Array Event,
      .collectUpTo 3, #[]⟩]

theorem play_limited_outages :
    ((Sink.collectUpTo 1).TakesOnly #[] 1 ∧ (Sink.collectUpTo 0).TakesOnly #[] 0 ∧
      (Sink.collectUpTo 3).TakesOnly #[] 3) ∧
    (∃ fault, (playAll ⟨2, 2⟩ outages .empty).1[0]? = some (.error (.sink fault))) ∧
    (playAll ⟨2, 2⟩ (outages.take 1) .empty).2.poses = [⟨2, 2, .east⟩] ∧
    (playAll ⟨2, 2⟩ outages .empty).1[1]? = some (.error (.missingLanding "B")) ∧
    (∃ fault, (playAll ⟨2, 2⟩ outages .empty).1[2]? = some (.error (.sink fault))) ∧
    (playAll ⟨2, 2⟩ (outages.take 3) .empty).2 = (playAll ⟨2, 2⟩ (outages.take 2) .empty).2 ∧
    (playAll ⟨2, 2⟩ outages .empty).1[3]? = some (.ok ⟨"D", ⟨2, 2, .north⟩, true⟩) := by
  have takes := Sink.collectUpTo_takesOnly
  have falling : outages[0]? = some _ := rfl
  obtain ⟨_, first, _, _, cut, _⟩ := play_limited ⟨2, 2⟩ outages .empty falling (takes 1)
  obtain ⟨⟨fault, failed⟩, fell, _⟩ := cut (by decide)
  have adrift : outages[1]? = some _ := rfl
  obtain ⟨_, second, _, _, _, nowhere⟩ := play_limited ⟨2, 2⟩ outages .empty adrift (takes 0)
  have stepping : outages[2]? = some _ := rfl
  obtain ⟨_, third, _, _, cut, _⟩ := play_limited ⟨2, 2⟩ outages .empty stepping (takes 1)
  obtain ⟨⟨late, stopped⟩, _, steady⟩ := cut (by decide)
  have lasting : outages[3]? = some _ := rfl
  obtain ⟨_, fourth, _, whole, _⟩ := play_limited ⟨2, 2⟩ outages .empty lasting (takes 3)
  refine ⟨⟨takes 1, takes 0, takes 3⟩, ⟨fault, failed ▸ first⟩, ?_, ?_, ⟨late, stopped ▸ third⟩,
    ?_, ?_⟩
  · exact congrArg Scent.poses (fell ⟨"A", ⟨2, 2, .east⟩, rfl⟩)
  · rw [second, (nowhere rfl).1]
  · apply steady
    intro name fallen
    change some (Event.tryingMove "C" ⟨2, 3, .north⟩) ≠ _
    simp
  · rw [fourth, (whole (by decide)).1]
    rfl

end Turn
end ScentedGrid
