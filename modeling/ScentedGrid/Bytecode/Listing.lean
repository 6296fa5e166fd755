import ScentedGrid.Bytecode.Encoding

/-! A listing of any bytes, record by record. Listing is laxer than decoding: names, sides and
empty headings are shown as they are, and from the first byte that begins no whole record every
byte stands on a line of its own. -/

namespace ScentedGrid

open Text

namespace Bytecode

inductive Record where
  | square (width height : UInt8)
  | robot (name : List UInt8)
  | landing (x y : UInt8) (facing : Direction)
  | heading (commands : List Command)
  | endOfRobot
  | trailing (byte : UInt8)
  deriving DecidableEq

namespace Record

/-- The bytes that a record stands for. -/
def bytes : Record → List UInt8
  | square width height => [Opcode.square, width, height]
  | robot name => UInt8.ofNat name.length :: name
  | landing x y facing => [Opcode.landing, x, y, facing.code]
  | heading commands => Opcode.heading :: commands.map Command.code
  | endOfRobot => [Opcode.endOfRobot]
  | trailing byte => [byte]

/-- The record at the head of the bytes between robots. -/
def betweenRobots? : List UInt8 → Option (Record × List UInt8)
  | [] => none
  | length :: rest =>
    if (rest.take length.toNat).length < length.toNat then none
    else some (robot (rest.take length.toNat), rest.drop length.toNat)

/-- The record at the head of the bytes inside a robot. -/
def insideRobot? : List UInt8 → Option (Record × List UInt8)
  | [] => none
  | opcode :: rest =>
    if opcode = Opcode.endOfRobot then some (endOfRobot, rest)
    else if opcode = Opcode.landing then
      match rest with
      | x :: y :: code :: rest =>
        (Direction.ofCode? code).map fun facing => (landing x y facing, rest)
      | _ => none
    else if opcode = Opcode.heading then
      some (heading (commandRun rest).1, (commandRun rest).2)
    else none

theorem betweenRobots_shorter {bytes rest : List UInt8} {found : Record}
    (read : betweenRobots? bytes = some (found, rest)) : rest.length < bytes.length := by
  cases bytes with
  | nil => cases read
  | cons length bytes =>
    simp only [betweenRobots?, Option.ite_none_left_eq_some, Option.some.injEq,
      Prod.mk.injEq] at read
    obtain ⟨_, _, rfl⟩ := read
    simp only [List.length_drop, List.length_cons]
    omega

theorem insideRobot_shorter {bytes rest : List UInt8} {found : Record}
    (read : insideRobot? bytes = some (found, rest)) : rest.length < bytes.length := by
  unfold insideRobot? at read
  split at read
  · cases read
  · split at read
    · cases read
      simp
    · split at read
      · split at read
        · simp only [Option.map_eq_some_iff, Prod.mk.injEq] at read
          obtain ⟨_, _, _, rfl⟩ := read
          simp only [List.length_cons]
          omega
        · cases read
      · split at read
        · cases read
          exact Nat.lt_succ_of_le (List.dropWhile_suffix _).length_le
        · cases read

end Record

/-- The records of a robot and of those after it, from inside the robot. -/
def recordsFrom (insideRobot : Bool) (bytes : List UInt8) : List Record :=
  if insideRobot then
    match _ : Record.insideRobot? bytes with
    | none => bytes.map .trailing
    | some (.endOfRobot, rest) => .endOfRobot :: recordsFrom false rest
    | some (record, rest) => record :: recordsFrom true rest
  else
    match _ : Record.betweenRobots? bytes with
    | none => bytes.map .trailing
    | some (record, rest) => record :: recordsFrom true rest
termination_by bytes.length
decreasing_by
  · exact Record.insideRobot_shorter (by assumption)
  · exact Record.insideRobot_shorter (by assumption)
  · exact Record.betweenRobots_shorter (by assumption)

def records : List UInt8 → List Record
  | opcode :: width :: height :: rest =>
    if opcode = Opcode.square then .square width height :: recordsFrom false rest
    else (opcode :: width :: height :: rest).map .trailing
  | bytes => bytes.map .trailing

/-- The hexadecimal bytes of a line, which have a column of 24 characters where a meaning
follows. -/
def hexBytes (bytes : List UInt8) : String :=
  " ".intercalate (bytes.map fun byte => hexCapital 2 byte.toNat)

variable (visible : Char → Bool)

/-- What a record says. A name is shown in quotes, since it may hold any character. -/
def Record.meaning : Record → String
  | square width height => "SQUARE " ++ decimal width.toNat ++ "x" ++ decimal height.toNat
  | robot name => "ROBOT " ++ quoted visible (Utf8.repair name)
  | landing x y facing =>
    "LAND " ++ decimal x.toNat ++ " " ++ decimal y.toNat ++ " " ++ String.singleton facing.letter
  | heading commands => "HEAD " ++ String.ofList (commands.map Command.letter)
  | endOfRobot => "END"
  | trailing _ => "(trailing)"

/-- A record's line, which begins with the offset of its first byte. -/
def Record.line (offset : Nat) (record : Record) : String :=
  hexCapital 4 offset ++ ": " ++
    (match record with
      | trailing byte => hexBytes [byte] ++ "     "
      | _ => column 24 (hexBytes record.bytes) ++ " ") ++
    record.meaning visible ++ "\n"

def linesFrom (offset : Nat) : List Record → List String
  | [] => []
  | record :: rest => record.line visible offset :: linesFrom (offset + record.bytes.length) rest

def listing (bytes : List UInt8) : String := String.join (linesFrom visible 0 (records bytes))

end Bytecode
end ScentedGrid
