import ScentedGrid.Execution
import ScentedGrid.Proofs.Simulation.Refusal
import ScentedGrid.Trace

/-! Traces cut short. However a run ends, it tells its events in one order, so a sink that has
enough took the first of them. A writer that runs out of room took the first bytes of the trace,
wherever in a line it runs out and into whatever pieces the lines were cut on their way. -/

namespace ScentedGrid

open Text

namespace Writer

/-- Writes pieces in order, up to the first that there is no room for. -/
def writeAll : Writer → List (List UInt8) → Writer × Option SinkFault
  | writer, [] => (writer, none)
  | writer, piece :: rest =>
    match writer.write piece with
    | (writer, some fault) => (writer, some fault)
    | (writer, none) => writer.writeAll rest

section

variable {writer : Writer} {bytes : List UInt8}

theorem write_fits (fits : writer.taken.size + bytes.length ≤ writer.room) :
    writer.write bytes = (⟨writer.taken ++ bytes.toArray, writer.room⟩, none) := by
  rw [write, if_pos fits]

theorem write_full (full : writer.room < writer.taken.size + bytes.length) :
    writer.write bytes =
      (⟨writer.taken ++ (bytes.take (writer.room - writer.taken.size)).toArray, writer.room⟩,
        some .full) := by
  rw [write, if_neg (Nat.not_le_of_lt full)]

/-- After a write with nothing left over there is no more taken than there was room for. -/
theorem size_le_room {next : Writer} (written : writer.write bytes = (next, none)) :
    next.taken.size ≤ next.room := by
  by_cases fits : writer.taken.size + bytes.length ≤ writer.room
  · rw [write_fits fits] at written
    cases written
    simpa using fits
  · rw [write_full (Nat.lt_of_not_le fits)] at written
    cases written

end

theorem write_append (writer : Writer) (first rest : List UInt8) :
    writer.write (first ++ rest) =
      match writer.write first with
      | (writer, some fault) => (writer, some fault)
      | (writer, none) => writer.write rest := by
  obtain ⟨taken, room⟩ := writer
  have whole : (first ++ rest).length = first.length + rest.length := List.length_append
  have after : (taken ++ first.toArray).size = taken.size + first.length := by simp
  by_cases fits : taken.size + first.length ≤ room
  · have start : write ⟨taken, room⟩ first = _ := write_fits fits
    rw [start]
    change _ = write ⟨taken ++ first.toArray, room⟩ rest
    by_cases all : taken.size + (first ++ rest).length ≤ room
    · rw [write_fits all, write_fits (by simp only [after]; omega)]
      simp
    · have full := Nat.lt_of_not_le all
      have more : room - taken.size = first.length + (room - (taken ++ first.toArray).size) := by
        omega
      rw [write_full full, write_full (by simp only [after]; omega)]
      simp only [more, List.take_length_add_append]
      simp
  · have short : room - taken.size ≤ first.length := by omega
    have start : write ⟨taken, room⟩ first = _ := write_full (Nat.lt_of_not_le fits)
    rw [start, write_full (by simp only [whole]; omega)]
    simp only [List.take_append_of_le_length short]

/-- Pieces that are written one by one are written like the whole. -/
theorem writeAll_eq (writer : Writer) {pieces : List (List UInt8)} (filled : pieces ≠ []) :
    writer.writeAll pieces = writer.write pieces.flatten := by
  induction pieces generalizing writer with
  | nil => exact absurd rfl filled
  | cons piece rest ih =>
    cases rest with
    | nil =>
      rw [List.flatten_cons, List.flatten_nil, List.append_nil, writeAll]
      cases writer.write piece with
      | mk next fault => cases fault <;> rfl
    | cons other more =>
      rw [List.flatten_cons, write_append, writeAll]
      simp only [ih _ (List.cons_ne_nil other more)]

/-- What fits into an empty writer. -/
theorem write_withRoom (room : Nat) (bytes : List UInt8) :
    (withRoom room).write bytes =
      (⟨(bytes.take room).toArray, room⟩, if bytes.length ≤ room then none else some .full) := by
  by_cases fits : bytes.length ≤ room
  · rw [write_fits (by simpa [withRoom] using fits), if_pos fits, List.take_of_length_le fits]
    simp [withRoom]
  · rw [write_full (by simpa [withRoom] using fits), if_neg fits]
    simp [withRoom]

end Writer

namespace Sink

/-- Writes the JSON of each event in pieces, and the line feed after them. -/
def jsonPieces (pieces : Event → List (List UInt8)) : Sink Writer :=
  ⟨fun writer event => writer.writeAll (pieces event ++ [Utf8.encode "\n"])⟩

/-- It does not matter how the lines are cut into pieces. -/
theorem jsonPieces_eq {pieces : Event → List (List UInt8)}
    (whole : ∀ event, (pieces event).flatten = Utf8.encode event.json.render) :
    jsonPieces pieces = jsonBytes := by
  have line (event : Event) :
      (pieces event ++ [Utf8.encode "\n"]).flatten = Utf8.encode event.line := by
    rw [List.flatten_append, whole, List.flatten_singleton, ← Utf8.encode_append]
    rfl
  simp only [jsonPieces, jsonBytes, Writer.writeAll_eq _ (List.concat_ne_nil _ _), line]

theorem jsonText_willing (text : String) : jsonText.Willing text := fun _ _ => rfl

theorem jsonText_takeAll (text : String) (events : List Event) :
    jsonText.takeAll text events = text ++ traceText events := by
  induction events generalizing text with
  | nil => simp [takeAll, traceText]
  | cons event rest ih =>
    rw [traceText_cons, ← String.append_assoc]
    exact ih (text ++ event.line)

end Sink

namespace World

/-- Bytes of lines are written like the bytes of their whole text. -/
theorem tellAll_jsonBytes (scent : Scent) {writer : Writer}
    (sound : writer.taken.size ≤ writer.room) (events : List Event) :
    ∃ after, (World.mk scent writer).tellAll .jsonBytes events =
      (⟨after, (writer.write (Utf8.encode (traceText events))).1⟩,
        (writer.write (Utf8.encode (traceText events))).2.map .sink) := by
  induction events generalizing scent writer with
  | nil =>
    refine ⟨scent, ?_⟩
    rw [show Utf8.encode (traceText []) = [] from rfl, Writer.write_fits (by simpa using sound)]
    simp [tellAll]
  | cons event rest ih =>
    rw [traceText_cons, Utf8.encode_append, Writer.write_append]
    cases written : writer.write (Utf8.encode event.line) with
    | mk next fault =>
      have told : Sink.jsonBytes.offer writer event = (next, fault) := written
      have told := happen_tell told scent
      cases fault with
      | some fault => exact ⟨_, tellAll_refused told rest⟩
      | none =>
        rw [tellAll_heard told]
        exact ih (scent.after event) (Writer.size_le_room written)

theorem answering_jsonBytes {α : Type} (answer : Except RunError α) (scent : Scent) (room : Nat)
    (events : List Event) :
    let bytes := Utf8.encode (traceText events)
    let cut := answering answer ((World.mk scent (.withRoom room)).tellAll .jsonBytes events)
    cut.1 = (if bytes.length ≤ room then answer else .error (.sink .full)) ∧
      cut.2.out.taken.toList = bytes.take room := by
  intro bytes cut
  have sound : (Writer.withRoom room).taken.size ≤ (Writer.withRoom room).room := Nat.zero_le room
  obtain ⟨after, told⟩ := tellAll_jsonBytes scent sound events
  have ended : cut = answering answer _ := congrArg (answering answer) told
  rw [ended, Writer.write_withRoom]
  by_cases fits : bytes.length ≤ room
  · rw [if_pos fits, if_pos fits]
    exact ⟨rfl, rfl⟩
  · rw [if_neg fits, if_neg fits]
    exact ⟨rfl, rfl⟩

end World

theorem Mission.simulate_cut {σ : Type} {sink : Sink σ} {out : σ} {limit : Nat}
    (limited : sink.TakesOnly out limit) (mission : Mission) :
    let uncut := mission.simulate .collect #[]
    let events := uncut.2.out.toList
    let cut := mission.simulate sink.accepting (out, [])
    cut.1 = (mission.simulate sink out).1 ∧ cut.2.out.2 = events.take limit ∧
      (events.length ≤ limit → cut.1 = uncut.1) ∧
      (limit < events.length → ∃ fault, cut.1 = .error (.sink fault)) := by
  intro uncut events cut
  obtain ⟨answer, script, told⟩ := mission.simulate_told
  have whole : uncut = (answer, ⟨Scent.empty.afterAll script, script.toArray⟩) := by
    rw [show uncut = _ from told .collect #[],
      World.tellAll_willing (Sink.collect_willing #[])]
    simp [World.answering, Sink.collect_takeAll]
  have listed : events = script := by rw [show events = uncut.2.out.toList from rfl, whole]
  have noted : cut = _ := (told sink.accepting (out, [])).trans
    (World.answering_accepting limited answer .empty script)
  rw [← told sink out] at noted
  rw [noted, whole, listed]
  refine ⟨rfl, rfl, ?_, ?_⟩
  · intro few
    rw [told sink out, World.answering_within limited answer .empty few]
  · intro many
    obtain ⟨fault, refused⟩ := World.answering_beyond limited answer .empty many
    exact ⟨fault, by rw [told sink out, refused]⟩

theorem execute_jsonBytes (bytes : List UInt8) (room : Nat) :
    let uncut := execute .jsonText bytes ""
    let trace := Utf8.encode uncut.2
    let cut := execute .jsonBytes bytes (.withRoom room)
    cut.2.taken.toList = trace.take room ∧
      (trace.length ≤ room → cut.1 = uncut.1) ∧
      (room < trace.length → ∃ fault, cut.1 = .error (.run (.sink fault))) := by
  intro uncut trace cut
  cases decoded : Mission.decode bytes with
  | error error =>
    have whole : uncut = _ := execute_of_refused decoded .jsonText ""
    have short : cut = _ := execute_of_refused decoded .jsonBytes (.withRoom room)
    have silent : trace = [] := by rw [show trace = Utf8.encode uncut.2 from rfl, whole]; rfl
    rw [short, whole, silent]
    exact ⟨List.take_nil.symm, fun _ => rfl, fun many => absurd many (Nat.not_lt_zero room)⟩
  | ok mission =>
    obtain ⟨answer, script, told⟩ := mission.simulate_told
    have whole : uncut = (answer.mapError .run, traceText script) := by
      rw [show uncut = _ from execute_of_decode decoded .jsonText "", told,
        World.tellAll_willing (Sink.jsonText_willing "")]
      simp [World.answering, Sink.jsonText_takeAll]
    have short : cut = _ := execute_of_decode decoded .jsonBytes (.withRoom room)
    have written : trace = Utf8.encode (traceText script) := by
      rw [show trace = Utf8.encode uncut.2 from rfl, whole]
    obtain ⟨ended, taken⟩ := World.answering_jsonBytes answer .empty room script
    rw [← told] at ended taken
    rw [short, whole, written]
    refine ⟨taken, ?_, ?_⟩
    · intro fits
      rw [ended, if_pos fits]
    · intro many
      rw [ended, if_neg (Nat.not_le_of_lt many)]
      exact ⟨.full, rfl⟩

/-- A run is cut short where its sink has enough, and nowhere else. A sink that takes a number of
events took the first of them, and a writer with room for a number of bytes took the first bytes of
the trace, however its lines are cut into pieces; if all of it fits, the answer is that of the uncut
run. -/
theorem execute_cut :
    (∀ (mission : Mission) {σ : Type} (sink : Sink σ) (out : σ) (limit : Nat),
      sink.TakesOnly out limit →
      let uncut := mission.simulate .collect #[]
      let events := uncut.2.out.toList
      let cut := mission.simulate sink.accepting (out, [])
      cut.1 = (mission.simulate sink out).1 ∧ cut.2.out.2 = events.take limit ∧
        (events.length ≤ limit → cut.1 = uncut.1) ∧
        (limit < events.length → ∃ fault, cut.1 = .error (.sink fault))) ∧
    (∀ (bytes : List UInt8) (room : Nat),
      let uncut := execute .jsonText bytes ""
      let trace := Utf8.encode uncut.2
      let cut := execute .jsonBytes bytes (.withRoom room)
      cut.2.taken.toList = trace.take room ∧
        (trace.length ≤ room → cut.1 = uncut.1) ∧
        (room < trace.length → ∃ fault, cut.1 = .error (.run (.sink fault)))) ∧
    ∀ pieces : Event → List (List UInt8),
      (∀ event, (pieces event).flatten = Utf8.encode event.json.render) →
      Sink.jsonPieces pieces = .jsonBytes := by
  refine ⟨?_, ?_, ?_⟩
  · intro mission σ sink out limit limited
    exact mission.simulate_cut limited
  · intro bytes room
    exact execute_jsonBytes bytes room
  · intro pieces whole
    exact Sink.jsonPieces_eq whole

/-- A robot that falls at its first step. -/
def Mission.plunge : Mission := ⟨⟨2, 2⟩, [⟨"A", [.landing 2 2 .east, .heading [.forward]]⟩]⟩

/-- The fall is told in four events, of which two are taken. A trace that is cut before its first
line feed holds one whole object. -/
theorem execute_cut_plunge :
    (Sink.collectUpTo 2).TakesOnly #[] 2 ∧
    (∃ fault, (Mission.plunge.simulate (Sink.collectUpTo 2).accepting (#[], [])).1 =
      .error (.sink fault)) ∧
    (Mission.plunge.simulate (Sink.collectUpTo 2).accepting (#[], [])).2.out.2 =
      [.start Mission.plunge.square Mission.plunge.robots, .tryingMove "A" ⟨3, 2, .east⟩] ∧
    (∃ fault, (execute .jsonBytes [1, 2, 2] (.withRoom 52)).1 = .error (.run (.sink fault))) ∧
    (execute .jsonBytes [1, 2, 2] (.withRoom 52)).2.taken.toList =
      Utf8.encode "\x7b\"event\":\"start\",\"square\":\x7b\"w\":2,\"h\":2\x7d,\"robots\":[]\x7d" ∧
    Sink.jsonPieces (fun event => (Utf8.encode event.json.render).map ([·])) = .jsonBytes := by
  obtain ⟨told, written, cutting⟩ := execute_cut
  have limited := Sink.collectUpTo_takesOnly 2
  obtain ⟨_, taken, _, beyond⟩ := told Mission.plunge (.collectUpTo 2) #[] 2 limited
  obtain ⟨kept, _, full⟩ := written [1, 2, 2] 52
  refine ⟨limited, beyond (by decide), ?_, full (by decide +kernel), ?_, ?_⟩
  · rw [taken]
    rfl
  · rw [kept]
    decide +kernel
  · apply cutting
    intro event
    rw [← List.flatMap_def]
    exact List.flatMap_singleton' _

end ScentedGrid
