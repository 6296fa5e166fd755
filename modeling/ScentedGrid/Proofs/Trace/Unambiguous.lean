import ScentedGrid.Proofs.Run
import ScentedGrid.Proofs.Trace.Cut
import ScentedGrid.Proofs.Trace.Reading

/-! Events read back from a trace. A line holds an event if it is what is written for the event, and
a trace holds the events of its lines. -/

namespace ScentedGrid

open Text

/-! ## Events -/

def Direction.ofJson? : Json → Option Direction
  | .text value => value.toList.head?.bind ofLetter?
  | _ => none

def Command.ofJson? : Json → Option Command
  | .text value => value.toList.head?.bind ofLetter?
  | _ => none

def Square.ofJson? : Json → Option Square
  | .record [(_, .number width), (_, .number height)] =>
    some ⟨UInt8.ofNat width.toNat, UInt8.ofNat height.toNat⟩
  | _ => none

def Instruction.ofJson? : Json → Option Instruction
  | .record [(_, .record [(_, .number x), (_, .number y), (_, facing)])] =>
    (Direction.ofJson? facing).map (.landing (UInt8.ofNat x.toNat) (UInt8.ofNat y.toNat))
  | .record [(_, .list commands)] => (commands.mapM Command.ofJson?).map .heading
  | _ => none

def Robot.ofJson? : Json → Option Robot
  | .record [(_, .text name), (_, .list instructions)] =>
    (instructions.mapM Instruction.ofJson?).map (⟨name, ·⟩)
  | _ => none

def Outcome.ofJson? : Json → Option Outcome
  | .record [(_, .text name), (_, .number x), (_, .number y), (_, facing), (_, .flag lost)] =>
    (Direction.ofJson? facing).map fun facing => ⟨name, ⟨x, y, facing⟩, lost⟩
  | _ => none

namespace Event

/-- What an event of one robot is called. -/
def ofKind? (kind robot : String) (pose : Pose) : Option Event :=
  if kind = "trying_move" then some (tryingMove robot pose)
  else if kind = "lost" then some (lost robot pose)
  else if kind = "moved" then some (moved robot pose)
  else none

def ofJson? : Json → Option Event
  | .record [_, (_, square), (_, .list robots)] =>
    (Square.ofJson? square).bind fun square => (robots.mapM Robot.ofJson?).map (start square)
  | .record [(_, .text kind), (_, .text robot), (_, .record [(_, .number x), (_, .number y)]),
      (_, facing)] =>
    (Direction.ofJson? facing).bind fun facing => ofKind? kind robot ⟨x, y, facing⟩
  | .record [_, (_, .list outcomes)] => (outcomes.mapM Outcome.ofJson?).map results
  | _ => none

/-- The event of a line. Fields are found by their places, and their names are right if the event
is written as the line. -/
def read? (line : List Char) : Option Event :=
  ((Json.read? line).bind ofJson?).filter fun event => event.json.render.toList = line

end Event

/-- The events of the lines of a text. -/
def readTrace? (text : String) : Option (List Event) :=
  (lines? text.toList).bind fun lines => lines.mapM Event.read?

theorem Direction.ofJson_json (direction : Direction) : ofJson? direction.json = some direction := by
  cases direction <;> rfl

theorem Command.ofJson_json (command : Command) : ofJson? command.json = some command := by
  cases command <;> rfl

theorem Square.ofJson_json (square : Square) : ofJson? square.json = some square := by
  simp only [json, ofJson?, Int.toNat_natCast, UInt8.ofNat_toNat]

theorem Instruction.ofJson_json (instruction : Instruction) :
    ofJson? instruction.json = some instruction := by
  cases instruction with
  | landing x y facing =>
    simp only [json, ofJson?, Direction.ofJson_json, Int.toNat_natCast, UInt8.ofNat_toNat,
      Option.map_some]
  | heading commands =>
    simp only [json, ofJson?, mapM_written Command.ofJson_json, Option.map_some]

theorem Robot.ofJson_json (robot : Robot) : ofJson? robot.json = some robot := by
  simp only [json, ofJson?, mapM_written Instruction.ofJson_json, Option.map_some]

theorem Outcome.ofJson_json (outcome : Outcome) : ofJson? outcome.json = some outcome := by
  simp only [json, ofJson?, Direction.ofJson_json, Option.map_some]

theorem Event.ofJson_json (event : Event) : ofJson? event.json = some event := by
  cases event with
  | start square robots =>
    simp only [json, ofJson?, Square.ofJson_json, mapM_written Robot.ofJson_json, Option.bind_some,
      Option.map_some]
  | tryingMove robot pose =>
    simp only [json, poseJson, ofJson?, Direction.ofJson_json, Option.bind_some]
    rfl
  | lost robot pose =>
    simp only [json, poseJson, ofJson?, Direction.ofJson_json, Option.bind_some]
    rfl
  | moved robot pose =>
    simp only [json, poseJson, ofJson?, Direction.ofJson_json, Option.bind_some]
    rfl
  | results outcomes =>
    simp only [json, ofJson?, mapM_written Outcome.ofJson_json, Option.map_some]

/-- A line is read as an event exactly if it is what is written for the event. -/
theorem Event.read_eq_some_iff (line : List Char) (event : Event) :
    read? line = some event ↔ event.json.render.toList = line := by
  rw [read?, Option.filter_eq_some_iff, decide_eq_true_iff]
  constructor
  · exact fun found => found.2
  · rintro rfl
    rw [Json.read_render, Option.bind_some, ofJson_json]
    exact ⟨rfl, rfl⟩

/-! ## Lines of events -/

namespace Json

theorem oneLine_escaped (c : Char) : OneLine (escaped c) := by
  unfold escaped
  split
  · decide
  · decide
  · decide
  · decide
  · decide
  · decide
  · decide
  · next other _ _ =>
    split
    · exact OneLine.append (by decide) (oneLine_hexSmall _ _)
    · exact oneLine_singleton other

theorem oneLine_quotedText (text : String) : OneLine (quotedText text) :=
  oneLine_quotation oneLine_escaped text

theorem oneLine_render (json : Json) : OneLine json.render := by
  induction json using induction with
  | number value =>
    rw [render]
    exact oneLine_signed value
  | text value =>
    rw [render]
    exact oneLine_quotedText value
  | flag value => cases value <;> decide
  | list values each =>
    have items : ∀ text ∈ values.map render, OneLine text := by simpa using each
    rw [render, renderValues_eq]
    exact ((by decide : OneLine "[").append (OneLine.intercalate (by decide) items)).append
      (by decide)
  | record fields each =>
    have items : ∀ text ∈ fields.map renderField, OneLine text := by
      intro text member
      obtain ⟨field, among, rfl⟩ := List.mem_map.1 member
      exact ((oneLine_quotedText field.1).append (by decide)).append (each field among)
    rw [render, renderFields_eq]
    exact ((by decide : OneLine "\x7b").append (OneLine.intercalate (by decide) items)).append
      (by decide)

end Json

theorem count_traceText (events : List Event) :
    (traceText events).toList.count '\n' = events.length := by
  induction events with
  | nil => rfl
  | cons event rest ih =>
    have body : event.json.render.toList.count '\n' = 0 :=
      List.count_eq_zero.2 (Json.oneLine_render event.json)
    have feed : "\n".toList.count '\n' = 1 := by decide
    rw [traceText_cons, Event.line, String.toList_append, String.toList_append, List.count_append,
      List.count_append, body, feed, ih, List.length_cons]
    omega

theorem toList_traceText (events : List Event) :
    (traceText events).toList =
      (events.map fun event => event.json.render.toList).flatMap (· ++ ['\n']) := by
  rw [traceText, String.toList_join, List.flatMap_map, List.flatMap_map]
  simp only [Event.line, String.toList_append]
  rfl

theorem mapM_read_eq_some_iff (lines : List (List Char)) (events : List Event) :
    lines.mapM Event.read? = some events ↔
      events.map (fun event => event.json.render.toList) = lines := by
  constructor
  · intro read
    induction lines generalizing events with
    | nil =>
      cases read
      rfl
    | cons line rest ih =>
      rw [List.mapM_cons] at read
      simp only [Option.bind_eq_bind, Option.bind_eq_some_iff, Option.pure_def,
        Option.some.injEq] at read
      obtain ⟨event, first, more, others, rfl⟩ := read
      rw [List.map_cons, (Event.read_eq_some_iff line event).1 first, ih more others]
  · rintro rfl
    exact mapM_written (fun event => (Event.read_eq_some_iff _ event).2 rfl) events

theorem readTrace_eq_some_iff (text : String) (events : List Event) :
    readTrace? text = some events ↔ traceText events = text := by
  rw [readTrace?, Option.bind_eq_some_iff]
  constructor
  · rintro ⟨lines, split, read⟩
    apply String.toList_inj.1
    rw [toList_traceText, (mapM_read_eq_some_iff lines events).1 read, ended_of_lines split]
  · rintro rfl
    refine ⟨_, ?_, (mapM_read_eq_some_iff _ events).2 rfl⟩
    rw [toList_traceText]
    apply lines_ended
    intro line member
    obtain ⟨event, _, rfl⟩ := List.mem_map.1 member
    exact Json.oneLine_render event.json

theorem traceText_injective : Function.Injective traceText := by
  intro events others same
  have read := (readTrace_eq_some_iff (traceText events) events).2 rfl
  rw [same, (readTrace_eq_some_iff (traceText others) others).2 rfl] at read
  exact (Option.some.inj read).symm

theorem Text.Utf8.encode_injective : Function.Injective Utf8.encode := by
  intro text other same
  apply String.toByteArray_inj.1
  have bytes (text : String) : text.toByteArray = (Utf8.encode text).toByteArray := by
    have spelled := String.toByteArray_ofList (l := text.toList)
    rw [String.ofList_toList] at spelled
    exact spelled
  rw [bytes, bytes, same]

/-- A trace tells its events apart: it has one line for each, and what is read line by line is what
was told. So other events have another text, and other bytes. -/
theorem trace_unambiguous :
    (∀ text events, Sink.jsonText.takeAll text events = text ++ traceText events) ∧
    (∀ event : Event, ∃ body, OneLine body ∧ event.line = body ++ "\n") ∧
    (∀ events, (traceText events).toList.count '\n' = events.length) ∧
    (∀ text events, readTrace? text = some events ↔ traceText events = text) ∧
    Function.Injective traceText ∧
    Function.Injective fun events => Utf8.encode (traceText events) :=
  ⟨Sink.jsonText_takeAll, fun event => ⟨_, Json.oneLine_render event.json, rfl⟩, count_traceText,
    readTrace_eq_some_iff, traceText_injective,
    Utf8.encode_injective.comp traceText_injective⟩

/-- The name of a robot that holds what JSON is written with, and a line feed. -/
def Event.garbled : Event := .lost "\"\x7d,\\\n\x01é" ⟨-1, 12, .west⟩

theorem trace_unambiguous_garbled :
    traceText [.garbled] =
        "\x7b\"event\":\"lost\",\"robot\":\"\\\"\x7d,\\\\\\n\\u0001é\"," ++
          "\"position\":\x7b\"x\":-1,\"y\":12\x7d,\"direction\":\"W\"\x7d\n" ∧
      readTrace? (traceText [.garbled, .results []]) = some [.garbled, .results []] ∧
      (traceText [.garbled, .results []]).toList.count '\n' = 2 ∧
      traceText [.garbled] ≠ traceText [.results []] := by
  obtain ⟨_, _, feeds, read, injective, _⟩ := trace_unambiguous
  refine ⟨by decide +kernel, (read _ _).2 rfl, feeds _, ?_⟩
  intro same
  exact absurd (injective same) (by decide)

end ScentedGrid
