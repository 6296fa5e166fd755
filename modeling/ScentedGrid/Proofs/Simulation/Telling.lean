import ScentedGrid.Simulation

/-! Events told in a row. A run offers its events one after another and ends at the first that is
refused, so all a sink can do to a run is to cut it short; a sink that refuses nothing hears every
event, whatever else it does with it. -/

namespace ScentedGrid

variable {σ α : Type}

/-- A fall leaves a scent, nothing else does. -/
def Scent.after (scent : Scent) : Event → Scent
  | .lost _ pose => scent.mark pose
  | _ => scent

def Scent.afterAll (scent : Scent) (events : List Event) : Scent := events.foldl Scent.after scent

@[simp] theorem Scent.afterAll_nil (scent : Scent) : scent.afterAll [] = scent := rfl

@[simp] theorem Scent.afterAll_cons (scent : Scent) (event : Event) (rest : List Event) :
    scent.afterAll (event :: rest) = (scent.after event).afterAll rest := rfl

@[simp] theorem Scent.afterAll_append (scent : Scent) (first rest : List Event) :
    scent.afterAll (first ++ rest) = (scent.afterAll first).afterAll rest := List.foldl_append

theorem Scent.subset_after (scent : Scent) (event : Event) :
    scent.poses ⊆ (scent.after event).poses := by
  intro pose member
  cases event with
  | lost robot fallen => exact Scent.mem_mark.2 (.inr member)
  | _ => exact member

theorem Scent.subset_afterAll (scent : Scent) (events : List Event) :
    scent.poses ⊆ (scent.afterAll events).poses := by
  induction events generalizing scent with
  | nil => exact List.Subset.refl _
  | cons event rest ih => exact List.Subset.trans (scent.subset_after event) (ih _)

namespace Sink

/-- The state of a sink that was offered all of the events. -/
def takeAll (sink : Sink σ) (out : σ) (events : List Event) : σ :=
  events.foldl (fun out event => (sink.offer out event).1) out

/-- Never refuses an event from here on. -/
def Willing (sink : Sink σ) (out : σ) : Prop :=
  ∀ events event, (sink.offer (sink.takeAll out events) event).2 = none

theorem takeAll_append (sink : Sink σ) (out : σ) (first rest : List Event) :
    sink.takeAll out (first ++ rest) = sink.takeAll (sink.takeAll out first) rest :=
  List.foldl_append

variable {sink : Sink σ} {out : σ}

theorem Willing.offer (willing : sink.Willing out) (event : Event) :
    sink.offer out event = (sink.takeAll out [event], none) := Prod.ext rfl (willing [] event)

theorem Willing.takeAll (willing : sink.Willing out) (events : List Event) :
    sink.Willing (sink.takeAll out events) := by
  intro later event
  rw [← takeAll_append]
  exact willing (events ++ later) event

theorem silent_willing (out : Unit) : silent.Willing out := fun _ _ => rfl

theorem collect_willing (kept : Array Event) : collect.Willing kept := fun _ _ => rfl

theorem collect_takeAll (kept : Array Event) (events : List Event) :
    collect.takeAll kept events = kept ++ events := by
  induction events generalizing kept with
  | nil => simp [Sink.takeAll]
  | cons event rest ih =>
    have pushed := ih (kept.push event)
    simpa [Sink.takeAll, collect] using pushed

/-- Answers as the sink does, and keeps in order what it was offered, taken or refused. -/
def recording (sink : Sink σ) : Sink (σ × List Event) :=
  ⟨fun (out, offered) event =>
    let (out, fault) := sink.offer out event
    ((out, offered ++ [event]), fault)⟩

/-- Does as the sink does, whatever it keeps beside it. -/
def Follows {κ : Type} (beside : Sink (σ × κ)) (sink : Sink σ) : Prop :=
  ∀ out kept event, ∃ after, beside.offer (out, kept) event =
    (((sink.offer out event).1, after), (sink.offer out event).2)

theorem recording_follows (sink : Sink σ) : sink.recording.Follows sink :=
  fun _ offered event => ⟨offered ++ [event], rfl⟩

end Sink

namespace World

/-- The scent of an event is on the grid before the event is told. -/
def happen (world : World σ) (event : Event) : World σ := ⟨world.scent.after event, world.out⟩

/-- Tells events in order, up to the first that is refused. -/
def tellAll (sink : Sink σ) : List Event → World σ → World σ × Option RunError
  | [], world => (world, none)
  | event :: rest, world =>
    match (world.happen event).tell sink event with
    | (world, some fault) => (world, some fault)
    | (world, none) => tellAll sink rest world

/-- An answer counts only if nothing was refused on the way to it. -/
def answering (answer : Except RunError α) :
    World σ × Option RunError → Except RunError α × World σ
  | (world, some fault) => (.error fault, world)
  | (world, none) => (answer, world)

section

variable {sink : Sink σ} {event : Event} {world next : World σ}

theorem tellAll_heard (heard : (world.happen event).tell sink event = (next, none))
    (rest : List Event) : world.tellAll sink (event :: rest) = next.tellAll sink rest := by
  rw [tellAll, heard]

theorem tellAll_refused {fault : RunError}
    (refused : (world.happen event).tell sink event = (next, some fault)) (rest : List Event) :
    world.tellAll sink (event :: rest) = (next, some fault) := by
  rw [tellAll, refused]

end

theorem happen_tell {sink : Sink σ} {out next : σ} {event : Event} {fault : Option SinkFault}
    (offered : sink.offer out event = (next, fault)) (scent : Scent) :
    ((World.mk scent out).happen event).tell sink event =
      (⟨scent.after event, next⟩, fault.map .sink) := by
  simp only [happen, tell, offered]

theorem tellAll_singleton (sink : Sink σ) (event : Event) (world : World σ) :
    world.tellAll sink [event] = (world.happen event).tell sink event := by
  cases told : (world.happen event).tell sink event with
  | mk next fault =>
    cases fault with
    | some fault => exact tellAll_refused told []
    | none => exact tellAll_heard told []

theorem tellAll_append (sink : Sink σ) (first rest : List Event) (world : World σ) :
    world.tellAll sink (first ++ rest) =
      match world.tellAll sink first with
      | (world, some fault) => (world, some fault)
      | (world, none) => world.tellAll sink rest := by
  induction first generalizing world with
  | nil => rfl
  | cons event more ih =>
    cases told : (world.happen event).tell sink event with
    | mk next fault =>
      cases fault with
      | some fault =>
        rw [tellAll_refused told, List.cons_append, tellAll_refused told]
      | none =>
        rw [tellAll_heard told, List.cons_append, tellAll_heard told]
        exact ih next

theorem tellAll_scent {sink : Sink σ} {events : List Event} {world next : World σ}
    (told : world.tellAll sink events = (next, none)) :
    next.scent = world.scent.afterAll events := by
  induction events generalizing world with
  | nil =>
    cases told
    rfl
  | cons event rest ih =>
    cases first : (world.happen event).tell sink event with
    | mk heard fault =>
      have same : heard.scent = world.scent.after event :=
        congrArg (fun answer => answer.1.scent) first.symm
      cases fault with
      | some fault =>
        rw [tellAll_refused first] at told
        cases told
      | none =>
        rw [tellAll_heard first] at told
        rw [ih told, same, Scent.afterAll_cons]

/-- A willing sink hears every event, and the scent is that of all of them. -/
theorem tellAll_willing {sink : Sink σ} {out : σ} (willing : sink.Willing out) (scent : Scent)
    (events : List Event) :
    (World.mk scent out).tellAll sink events =
      (⟨scent.afterAll events, sink.takeAll out events⟩, none) := by
  induction events generalizing scent out with
  | nil => rfl
  | cons event rest ih =>
    rw [tellAll_heard (happen_tell (willing.offer event) scent)]
    exact ih (willing.takeAll [event]) (scent.after event)

/-- What is kept beside a sink changes nothing for it. -/
theorem tellAll_follows {κ : Type} {beside : Sink (σ × κ)} {sink : Sink σ}
    (follows : beside.Follows sink) (events : List Event) (scent : Scent) (out : σ) (kept : κ) :
    ∃ after, (World.mk scent (out, kept)).tellAll beside events =
      (⟨((World.mk scent out).tellAll sink events).1.scent,
        ((World.mk scent out).tellAll sink events).1.out, after⟩,
        ((World.mk scent out).tellAll sink events).2) := by
  induction events generalizing scent out kept with
  | nil => exact ⟨kept, rfl⟩
  | cons event rest ih =>
    obtain ⟨after, same⟩ := follows out kept event
    cases told : sink.offer out event with
    | mk next fault =>
      rw [told] at same
      have heard := happen_tell told scent
      have noted := happen_tell same scent
      cases fault with
      | some fault =>
        rw [tellAll_refused heard, tellAll_refused noted]
        exact ⟨after, rfl⟩
      | none =>
        rw [tellAll_heard heard, tellAll_heard noted]
        exact ih (scent.after event) next after

/-- What is recorded is the events up to the first that is refused. -/
theorem tellAll_recording (sink : Sink σ) (events : List Event) (scent : Scent) (out : σ)
    (offered : List Event) :
    ∃ heard, heard <+: events ∧
      ((World.mk scent (out, offered)).tellAll sink.recording events).1.out.2 =
        offered ++ heard := by
  induction events generalizing scent out offered with
  | nil => exact ⟨[], List.nil_prefix, offered.append_nil.symm⟩
  | cons event rest ih =>
    cases told : sink.offer out event with
    | mk next fault =>
      have offer : sink.recording.offer (out, offered) event =
          ((next, offered ++ [event]), fault) := by
        simp only [Sink.recording, told]
      have recorded := happen_tell offer scent
      cases fault with
      | some fault =>
        rw [tellAll_refused recorded]
        exact ⟨[event], ⟨rest, rfl⟩, rfl⟩
      | none =>
        rw [tellAll_heard recorded]
        obtain ⟨others, initial, same⟩ := ih (scent.after event) next (offered ++ [event])
        refine ⟨event :: others, List.cons_prefix_cons.2 ⟨rfl, initial⟩, ?_⟩
        rw [same, List.append_assoc]
        rfl

theorem answering_eq_ok {answer : Except RunError α} {told : World σ × Option RunError}
    {value : α} {world : World σ} (answered : answering answer told = (.ok value, world)) :
    answer = .ok value ∧ told = (world, none) := by
  obtain ⟨heard, fault⟩ := told
  cases fault with
  | some fault => cases answered
  | none =>
    cases answered
    exact ⟨rfl, rfl⟩

end World
end ScentedGrid
