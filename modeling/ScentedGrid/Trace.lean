import ScentedGrid.Simulation
import ScentedGrid.Text.Utf8

/-! The trace of a run: each event as JSON, on a line of its own, written into a text without end or
to a place that has room for some bytes only. The names and the order of the fields are fixed, since
other programs read the lines. -/

namespace ScentedGrid

open Text

/-! ## JSON -/

/-- Values and their compact text: no blanks, the fields of a record in the order given. -/
inductive Json where
  | number (value : Int)
  | text (value : String)
  | flag (value : Bool)
  | list (values : List Json)
  | record (fields : List (String × Json))

namespace Json

/-- A character inside a quoted text. Only quotes, backslashes and control characters below the
space are escaped. -/
def escaped (c : Char) : String :=
  match c with
  | '"' => "\\\""
  | '\\' => "\\\\"
  | '\x08' => "\\b"
  | '\x0c' => "\\f"
  | '\n' => "\\n"
  | '\r' => "\\r"
  | '\t' => "\\t"
  | c => if c.toNat < 0x20 then "\\u" ++ hexSmall 4 c.toNat else String.singleton c

def quotedText (text : String) : String := "\"" ++ String.join (text.toList.map escaped) ++ "\""

mutual

def render : Json → String
  | number value => signed value
  | text value => quotedText value
  | flag value => if value then "true" else "false"
  | list values => "[" ++ ",".intercalate (renderValues values) ++ "]"
  | record fields => "\x7b" ++ ",".intercalate (renderFields fields) ++ "\x7d"

def renderValues : List Json → List String
  | [] => []
  | value :: rest => render value :: renderValues rest

def renderFields : List (String × Json) → List String
  | [] => []
  | (name, value) :: rest => (quotedText name ++ ":" ++ render value) :: renderFields rest

end

end Json

/-! ## Lines -/

def Direction.json (direction : Direction) : Json := .text (String.singleton direction.letter)

def Command.json (command : Command) : Json := .text (String.singleton command.letter)

def Square.json (square : Square) : Json :=
  .record [("w", .number square.width.toNat), ("h", .number square.height.toNat)]

def Instruction.json : Instruction → Json
  | landing x y facing =>
    .record [("move", .record [("l", .number x.toNat), ("r", .number y.toNat),
      ("d", facing.json)])]
  | heading commands => .record [("rotate", .list (commands.map Command.json))]

def Robot.json (robot : Robot) : Json :=
  .record [("name", .text robot.name),
    ("instructions", .list (robot.instructions.map Instruction.json))]

def Outcome.json (outcome : Outcome) : Json :=
  .record [("name", .text outcome.name), ("x", .number outcome.pose.x),
    ("y", .number outcome.pose.y), ("direction", outcome.pose.facing.json),
    ("lost", .flag outcome.lost)]

namespace Event

/-- An event of one robot at one pose. -/
def poseJson (kind robot : String) (pose : Pose) : Json :=
  .record [("event", .text kind), ("robot", .text robot),
    ("position", .record [("x", .number pose.x), ("y", .number pose.y)]),
    ("direction", pose.facing.json)]

def json : Event → Json
  | start square robots =>
    .record [("event", .text "start"), ("square", square.json),
      ("robots", .list (robots.map Robot.json))]
  | tryingMove robot pose => poseJson "trying_move" robot pose
  | lost robot pose => poseJson "lost" robot pose
  | moved robot pose => poseJson "moved" robot pose
  | results outcomes =>
    .record [("event", .text "results"), ("results", .list (outcomes.map Outcome.json))]

def line (event : Event) : String := event.json.render ++ "\n"

end Event

/-- The whole text of a list of events. -/
def traceText (events : List Event) : String := String.join (events.map Event.line)

theorem traceText_cons (event : Event) (rest : List Event) :
    traceText (event :: rest) = event.line ++ traceText rest := by
  rw [traceText, List.map_cons, String.join_cons]
  rfl

/-! ## Writing -/

/-- A place that has room for some bytes only: the bytes taken so far, and how many there is room for in
all. -/
structure Writer where
  taken : Array UInt8
  room : Nat

namespace Writer

def withRoom (room : Nat) : Writer := ⟨#[], room⟩

/-- Takes as many of the bytes as there is room for, and is full when some are left over. -/
def write : Writer → List UInt8 → Writer × Option SinkFault
  | ⟨taken, room⟩, bytes =>
    if taken.size + bytes.length ≤ room then (⟨taken ++ bytes.toArray, room⟩, none)
    else (⟨taken ++ (bytes.take (room - taken.size)).toArray, room⟩, some .full)

def text (writer : Writer) : String := Utf8.repair writer.taken.toList

end Writer

namespace Sink

/-- Adds each event's line to a text. -/
def jsonText : Sink String := ⟨fun text event => (text ++ event.line, none)⟩

/-- Writes the bytes of each event's line. -/
def jsonBytes : Sink Writer := ⟨fun writer event => writer.write (Utf8.encode event.line)⟩

end Sink

end ScentedGrid
