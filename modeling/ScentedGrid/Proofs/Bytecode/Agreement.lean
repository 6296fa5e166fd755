import ScentedGrid.Proofs.Bytecode.Canonical
import ScentedGrid.Proofs.Bytecode.Records

/-! The listing of bytes and their reading. Bytes that hold a mission are listed as its records, and
where the reading of other bytes fails, the listing shows the fault: it lists the record at fault, or
from the first byte of that record on it has a line for every byte. -/

namespace ScentedGrid

open Text Bytecode

namespace Bytecode

/-! ## What a listing shows -/

/-- Records that stand at the cursor, and the cursor behind them. -/
structure Passes (cursor : Cursor) (records : List Record) (rest : Cursor) : Prop where
  whole : ∀ record ∈ records, record.IsWhole
  bytes : cursor.bytes = records.flatMap Record.bytes ++ rest.bytes
  offset : rest.offset = cursor.offset + (records.flatMap Record.bytes).length

/-- From the cursor on, whole records are listed up to the offset, and there each remaining byte
has a line of its own. -/
def Trails (cursor : Cursor) (found : List Record) (offset : Nat) (rest : List UInt8) : Prop :=
  ∃ records, Passes cursor records ⟨offset, rest⟩ ∧ found = records ++ rest.map .trailing

/-- From the cursor on, whole records are listed up to the offset, and there the record. -/
def Lists (cursor : Cursor) (found : List Record) (offset : Nat) (record : Record) : Prop :=
  ∃ before after rest, Passes cursor before ⟨offset, rest⟩ ∧ found = before ++ record :: after

/-- What is listed from the cursor on shows the fault of a robot's bytes. -/
def Blames (cursor : Cursor) (found : List Record) : DecodeError → Prop
  | .unknownOpcode offset byte => ∃ rest, Trails cursor found offset (byte :: rest)
  | .invalidDirection offset byte => ∃ start x y rest, offset = start + 3 ∧
      Trails cursor found start (Opcode.landing :: x :: y :: byte :: rest)
  | .unexpectedEnd _ .name => ∃ start length rest, rest.length < length.toNat ∧
      Trails cursor found start (length :: rest)
  | .unexpectedEnd _ .landingX => ∃ start, Trails cursor found start [Opcode.landing]
  | .unexpectedEnd _ .landingY => ∃ start x, Trails cursor found start [Opcode.landing, x]
  | .unexpectedEnd _ .landingDirection =>
      ∃ start x y, Trails cursor found start [Opcode.landing, x, y]
  | .unexpectedEnd stop .opcode => Trails cursor found stop []
  | .invalidName offset => ∃ name, isNameBytes name = false ∧
      Lists cursor found offset (.robot name)
  | .emptyHeading offset => Lists cursor found offset (.heading [])
  | _ => False

section

variable {cursor rest : Cursor} {records found : List Record}

theorem Passes.here (cursor : Cursor) : Passes cursor [] cursor :=
  ⟨fun _ member => absurd member List.not_mem_nil, rfl, rfl⟩

theorem Passes.one {record : Record} (whole : record.IsWhole)
    (bytes : cursor.bytes = record.bytes ++ rest.bytes)
    (offset : rest.offset = cursor.offset + record.bytes.length) :
    Passes cursor [record] rest := by
  refine ⟨?_, ?_, ?_⟩
  · intro other member
    rw [List.mem_singleton.1 member]
    exact whole
  · rw [List.flatMap_singleton, bytes]
  · rw [List.flatMap_singleton, offset]

theorem Passes.append (passes : Passes cursor records rest) {more : List Record} {last : Cursor}
    (further : Passes rest more last) : Passes cursor (records ++ more) last := by
  refine ⟨?_, ?_, ?_⟩
  · intro record member
    rcases List.mem_append.1 member with first | later
    · exact passes.whole record first
    · exact further.whole record later
  · rw [passes.bytes, further.bytes, List.flatMap_append, List.append_assoc]
  · rw [further.offset, passes.offset, List.flatMap_append, List.length_append, Nat.add_assoc]

theorem Trails.here (cursor : Cursor) :
    Trails cursor (cursor.bytes.map .trailing) cursor.offset cursor.bytes :=
  ⟨[], Passes.here cursor, rfl⟩

theorem Trails.unlisted (unlisted : Record.insideRobot? cursor.bytes = none) :
    Trails cursor (recordsFrom true cursor.bytes) cursor.offset cursor.bytes := by
  rw [recordsFrom_nowhere unlisted]
  exact Trails.here cursor

theorem Lists.here (cursor : Cursor) (record : Record) (after : List Record) :
    Lists cursor (record :: after) cursor.offset record :=
  ⟨[], after, cursor.bytes, Passes.here cursor, rfl⟩

theorem Trails.behind (passes : Passes cursor records rest) {offset : Nat} {last : List UInt8}
    (trails : Trails rest found offset last) : Trails cursor (records ++ found) offset last := by
  obtain ⟨more, further, rfl⟩ := trails
  exact ⟨records ++ more, passes.append further, (List.append_assoc ..).symm⟩

theorem Lists.behind (passes : Passes cursor records rest) {offset : Nat} {record : Record}
    (lists : Lists rest found offset record) : Lists cursor (records ++ found) offset record := by
  obtain ⟨before, after, last, further, rfl⟩ := lists
  exact ⟨records ++ before, after, last, passes.append further, (List.append_assoc ..).symm⟩

/-- A fault behind listed records is shown in the listing of all of it. -/
theorem Blames.behind (passes : Passes cursor records rest) {error : DecodeError}
    (blames : Blames rest found error) : Blames cursor (records ++ found) error := by
  cases error with
  | missingSquare | invalidSquare => cases blames
  | unknownOpcode offset byte =>
    obtain ⟨last, trails⟩ := blames
    exact ⟨last, trails.behind passes⟩
  | invalidDirection offset byte =>
    obtain ⟨start, x, y, last, behind, trails⟩ := blames
    exact ⟨start, x, y, last, behind, trails.behind passes⟩
  | emptyHeading offset => exact Lists.behind passes blames
  | invalidName offset =>
    obtain ⟨name, unnamed, lists⟩ := blames
    exact ⟨name, unnamed, lists.behind passes⟩
  | unexpectedEnd offset expected =>
    cases expected with
    | squareWidth | squareHeight | nameLength => cases blames
    | name =>
      obtain ⟨start, length, last, short, trails⟩ := blames
      exact ⟨start, length, last, short, trails.behind passes⟩
    | opcode => exact Trails.behind passes blames
    | landingX =>
      obtain ⟨start, trails⟩ := blames
      exact ⟨start, trails.behind passes⟩
    | landingY =>
      obtain ⟨start, x, trails⟩ := blames
      exact ⟨start, x, trails.behind passes⟩
    | landingDirection =>
      obtain ⟨start, x, y, trails⟩ := blames
      exact ⟨start, x, y, trails.behind passes⟩

end

/-! ## Step by step -/

def Step.record : Step → Record
  | endOfRobot _ => .endOfRobot
  | instruction found _ => found.record

section

variable {cursor rest : Cursor}

theorem insideRobot_landing (x y code : UInt8) (rest : List UInt8) :
    Record.insideRobot? (Opcode.landing :: x :: y :: code :: rest) =
      (Direction.ofCode? code).map fun facing => (.landing x y facing, rest) := rfl

theorem insideRobot_heading (rest : List UInt8) :
    Record.insideRobot? (Opcode.heading :: rest) =
      some (.heading (commandRun rest).1, (commandRun rest).2) := rfl

/-- Where a step is read, the listing has its record. -/
theorem insideRobot_of_step {found : Step} (read : step cursor = .ok found) :
    Record.insideRobot? cursor.bytes = some (found.record, found.rest.bytes) := by
  unfold step at read
  split at read
  · cases read
  · next opcode bytes nonempty =>
    split at read
    · next ending =>
      cases read
      rw [Step.rest, Cursor.skip, nonempty, ending]
      rfl
    · split at read
      · next landing =>
        split at read
        · cases read
        · cases read
        · cases read
        · next x y code after =>
          split at read
          · cases read
          · next facing direction =>
            cases read
            rw [Step.rest, Cursor.skip, nonempty, landing, insideRobot_landing, direction]
            rfl
      · split at read
        · next heading =>
          simp only at read
          split at read
          · cases read
          · cases read
            rw [Step.rest, Cursor.skip, nonempty, heading, insideRobot_heading, Nat.add_comm 1,
              List.drop_succ_cons, drop_commandRun]
            rfl
        · cases read

theorem step_passes {found : Step} (read : step cursor = .ok found) :
    Passes cursor [found.record] found.rest := by
  obtain ⟨bytes, offset, _⟩ := layout_of_step read
  cases found with
  | endOfRobot => exact Passes.one (fun _ => Record.noConfusion) bytes offset
  | instruction found =>
    rw [Step.layout, ← found.record_bytes] at bytes offset
    exact Passes.one (record_whole found) bytes offset

/-- Where no step is read, the listing shows why. -/
theorem blames_of_step {error : DecodeError} (failed : step cursor = .error error) :
    Blames cursor (recordsFrom true cursor.bytes) error := by
  obtain ⟨offset, bytes⟩ := cursor
  unfold step at failed
  dsimp only at failed ⊢
  split at failed
  · cases failed
    exact Trails.unlisted rfl
  · next opcode rest =>
    split at failed
    · cases failed
    · next going =>
      split at failed
      · next landing =>
        subst landing
        split at failed
        · cases failed
          exact ⟨_, Trails.unlisted rfl⟩
        · cases failed
          exact ⟨_, _, Trails.unlisted rfl⟩
        · cases failed
          exact ⟨_, _, _, Trails.unlisted rfl⟩
        · next x y code after =>
          split at failed
          · next direction =>
            cases failed
            have unlisted :
                Record.insideRobot? (Opcode.landing :: x :: y :: code :: after) = none := by
              rw [insideRobot_landing, direction]
              rfl
            exact ⟨_, _, _, _, rfl, Trails.unlisted unlisted⟩
          · cases failed
      · next other =>
        split at failed
        · next heading =>
          subst heading
          split at failed
          · next empty =>
            -- The listing is laxer here: it has a record where the reading stops.
            cases failed
            rw [recordsFrom_inside (insideRobot_heading rest) Record.noConfusion, List.isEmpty_iff.1 empty]
            exact Lists.here ⟨offset, Opcode.heading :: rest⟩ (.heading []) _
          · cases failed
        · next unknown =>
          cases failed
          have unlisted : Record.insideRobot? (opcode :: rest) = none := by
            simp [Record.insideRobot?, going, other, unknown]
          exact ⟨_, Trails.unlisted unlisted⟩

/-! ## Robot by robot -/

/-- Instructions that are read are listed as they are, up to the end of their robot. -/
theorem recordsFrom_of_instructions {found : List Instruction}
    (read : instructions cursor = .ok (found, rest)) :
    recordsFrom true cursor.bytes =
        found.map Instruction.record ++ .endOfRobot :: recordsFrom false rest.bytes ∧
      Passes cursor (found.map Instruction.record ++ [.endOfRobot]) rest := by
  fun_induction instructions cursor generalizing found rest with
  | case1 => cases read
  | case2 cursor _ ending =>
    cases read
    exact ⟨recordsFrom_end (insideRobot_of_step ending), step_passes ending⟩
  | case3 => cases read
  | case4 cursor first after one more _ deeper ih =>
    cases read
    obtain ⟨listed, passes⟩ := ih deeper
    -- Only the end of a robot has the listing go on between robots.
    have inside : first.record ≠ .endOfRobot := record_inside first
    refine ⟨?_, (step_passes one).append passes⟩
    rw [recordsFrom_inside (insideRobot_of_step one) inside, Step.rest, listed]
    rfl

theorem blames_of_instructions {error : DecodeError} (failed : instructions cursor = .error error) :
    Blames cursor (recordsFrom true cursor.bytes) error := by
  fun_induction instructions cursor with
  | case1 cursor _ fault =>
    cases failed
    exact blames_of_step fault
  | case2 => cases failed
  | case3 cursor first after one fault deeper ih =>
    cases failed
    have inside : first.record ≠ .endOfRobot := record_inside first
    rw [recordsFrom_inside (insideRobot_of_step one) inside]
    exact (ih deeper).behind (step_passes one)
  | case4 => cases failed

theorem skip_name {length : UInt8} {bytes : List UInt8}
    (nonempty : cursor.bytes = length :: bytes) :
    cursor.skip (1 + length.toNat) =
      ⟨cursor.offset + (1 + length.toNat), bytes.drop length.toNat⟩ := by
  rw [Cursor.skip, nonempty, Nat.add_comm 1, List.drop_succ_cons]

theorem betweenRobots_named {length : UInt8} {bytes : List UInt8}
    (nonempty : cursor.bytes = length :: bytes)
    (enough : ¬ (bytes.take length.toNat).length < length.toNat) :
    Record.betweenRobots? cursor.bytes =
      some (.robot (bytes.take length.toNat), (cursor.skip (1 + length.toNat)).bytes) := by
  rw [nonempty, skip_name nonempty]
  exact if_neg enough

/-- The length byte and the name of a robot. -/
theorem name_passes {length : UInt8} {bytes : List UInt8}
    (nonempty : cursor.bytes = length :: bytes)
    (enough : ¬ (bytes.take length.toNat).length < length.toNat) :
    Passes cursor [.robot (bytes.take length.toNat)] (cursor.skip (1 + length.toNat)) := by
  have size := take_enough enough
  have layout : (Record.robot (bytes.take length.toNat)).bytes =
      length :: bytes.take length.toNat := by
    rw [Record.bytes, size, UInt8.ofNat_toNat]
  rw [skip_name nonempty]
  refine Passes.one ?_ ?_ ?_
  · exact fun _ => Record.noConfusion
  · rw [nonempty, layout, List.cons_append, List.take_append_drop]
  · rw [layout, List.length_cons, size, Nat.add_comm 1]

theorem recordsFrom_of_robot {found : Robot} (read : robot cursor = .ok (found, rest)) :
    recordsFrom false cursor.bytes = found.records ++ recordsFrom false rest.bytes ∧
      Passes cursor found.records rest := by
  unfold robot at read
  split at read
  · cases read
  · next length bytes nonempty =>
    split at read
    · cases read
    · next enough =>
      split at read
      · cases read
      · next named =>
        split at read
        · cases read
        · next inside after body =>
          cases read
          have named : isNameBytes (bytes.take length.toNat) = true := by simpa using named
          obtain ⟨listed, passes⟩ := recordsFrom_of_instructions body
          rw [Robot.records, encode_name named]
          refine ⟨?_, (name_passes nonempty enough).append passes⟩
          rw [recordsFrom_between (betweenRobots_named nonempty enough), listed]
          simp only [List.cons_append, List.append_assoc, List.nil_append]

theorem blames_of_robot {error : DecodeError} (filled : cursor.bytes ≠ [])
    (failed : robot cursor = .error error) :
    Blames cursor (recordsFrom false cursor.bytes) error := by
  unfold robot at failed
  split at failed
  · next ended => exact absurd ended filled
  · next length bytes nonempty =>
    split at failed
    · next short =>
      cases failed
      have unnamed : Record.betweenRobots? cursor.bytes = none := by
        rw [nonempty]
        exact if_pos short
      refine ⟨cursor.offset, length, bytes, ?_, ?_⟩
      · rw [List.length_take] at short
        omega
      · rw [recordsFrom_unnamed unnamed, ← nonempty]
        exact Trails.here cursor
    · next enough =>
      rw [recordsFrom_between (betweenRobots_named nonempty enough)]
      split at failed
      · next unnamed =>
        cases failed
        exact ⟨bytes.take length.toNat, by simpa using unnamed, Lists.here cursor _ _⟩
      · split at failed
        · next fault =>
          cases failed
          exact (blames_of_instructions fault).behind (name_passes nonempty enough)
        · cases failed

theorem recordsFrom_of_robots {found : List Robot} (read : robots cursor = .ok found) :
    recordsFrom false cursor.bytes = found.flatMap Robot.records ∧
      ∀ record ∈ found.flatMap Robot.records, record.IsWhole := by
  fun_induction robots cursor generalizing found with
  | case1 cursor ended =>
    cases read
    rw [List.isEmpty_iff.1 ended]
    exact ⟨recordsFrom_unnamed rfl, fun _ member => absurd member List.not_mem_nil⟩
  | case2 => cases read
  | case3 => cases read
  | case4 cursor _ first rest head more deeper ih =>
    cases read
    obtain ⟨listed, passes⟩ := recordsFrom_of_robot head
    obtain ⟨others, whole⟩ := ih deeper
    rw [listed, others, List.flatMap_cons]
    refine ⟨rfl, ?_⟩
    intro record member
    rcases List.mem_append.1 member with here | later
    · exact passes.whole record here
    · exact whole record later

theorem blames_of_robots {error : DecodeError} (failed : robots cursor = .error error) :
    Blames cursor (recordsFrom false cursor.bytes) error := by
  fun_induction robots cursor with
  | case1 => cases failed
  | case2 cursor filled _ fault =>
    cases failed
    exact blames_of_robot (fun ended => filled (List.isEmpty_iff.2 ended)) fault
  | case3 cursor _ first rest head fault deeper ih =>
    cases failed
    obtain ⟨listed, passes⟩ := recordsFrom_of_robot head
    rw [listed]
    exact (ih deeper).behind passes
  | case4 => cases failed

end

/-! ## All of the bytes -/

/-- What the listing of bytes shows where they are not read. -/
def Shows (bytes : List UInt8) : DecodeError → Prop
  | .missingSquare found =>
      bytes.head? = found ∧ Trails ⟨0, bytes⟩ (records bytes) 0 bytes
  | .unexpectedEnd _ .squareWidth => Trails ⟨0, bytes⟩ (records bytes) 0 bytes
  | .unexpectedEnd _ .squareHeight => Trails ⟨0, bytes⟩ (records bytes) 0 bytes
  | .invalidSquare width height =>
      Lists ⟨0, bytes⟩ (records bytes) 0 (.square width height)
  | error => Blames ⟨0, bytes⟩ (records bytes) error

theorem Shows.of_blames {bytes : List UInt8} {error : DecodeError}
    (blames : Blames ⟨0, bytes⟩ (records bytes) error) : Shows bytes error := by
  cases error with
  | missingSquare | invalidSquare => cases blames
  | unexpectedEnd offset expected =>
    cases expected with
    | squareWidth | squareHeight => cases blames
    | _ => exact blames
  | _ => exact blames

theorem records_square (width height : UInt8) (rest : List UInt8) :
    records (Opcode.square :: width :: height :: rest) =
      .square width height :: recordsFrom false rest := rfl

theorem records_other {first : UInt8} (other : first ≠ Opcode.square) (rest : List UInt8) :
    records (first :: rest) = (first :: rest).map .trailing := by
  rcases rest with _ | ⟨width, _ | ⟨height, rest⟩⟩
  · rfl
  · rfl
  · exact if_neg other

theorem square_passes (width height : UInt8) (rest : List UInt8) :
    Passes ⟨0, Opcode.square :: width :: height :: rest⟩ [.square width height] ⟨3, rest⟩ :=
  Passes.one (fun _ => Record.noConfusion) rfl rfl

end Bytecode

theorem Mission.records_of_decode {bytes : List UInt8} {mission : Mission}
    (read : decode bytes = .ok mission) :
    Bytecode.records bytes = mission.records ∧ ∀ record ∈ mission.records, record.IsWhole := by
  unfold decode at read
  split at read
  · cases read
  · split at read
    · cases read
    · next opening =>
      obtain rfl := Classical.not_not.1 opening
      split at read
      · cases read
      · cases read
      · next width height rest =>
        split at read
        · cases read
        · split at read
          · cases read
          · next found robots =>
            cases read
            obtain ⟨listed, whole⟩ := recordsFrom_of_robots robots
            dsimp only at listed
            refine ⟨by rw [records_square, listed]; rfl, ?_⟩
            intro record member
            rcases List.mem_cons.1 member with rfl | later
            · exact fun _ => Record.noConfusion
            · exact whole record later

theorem Mission.shows_of_decode {bytes : List UInt8} {error : DecodeError}
    (failed : decode bytes = .error error) : Shows bytes error := by
  unfold decode at failed
  split at failed
  · cases failed
    exact ⟨rfl, Trails.here ⟨0, []⟩⟩
  · next first rest =>
    split at failed
    · next other =>
      cases failed
      rw [Shows, records_other other]
      exact ⟨rfl, Trails.here ⟨0, _⟩⟩
    · next opening =>
      obtain rfl := Classical.not_not.1 opening
      split at failed
      · cases failed
        exact Trails.here ⟨0, _⟩
      · cases failed
        exact Trails.here ⟨0, _⟩
      · next width height rest =>
        split at failed
        · cases failed
          exact Lists.here ⟨0, _⟩ (.square width height) _
        · split at failed
          · next fault =>
            cases failed
            exact Shows.of_blames
              ((blames_of_robots fault).behind (square_passes width height rest))
          · cases failed

/-- Reading and listing agree. Bytes of a mission are listed as its records, each at its offset in
the bytes, and the listing of other bytes shows why they are not read. Which characters are shown as
they are makes no difference to that. -/
theorem Mission.listing_decode (visible : Char → Bool) (bytes : List UInt8) :
    (∀ mission, decode bytes = .ok mission →
      Bytecode.records bytes = mission.records ∧ (∀ record ∈ mission.records, record.IsWhole) ∧
      mission.encode = .ok bytes ∧ bytes = mission.records.flatMap Record.bytes ∧
      ∀ robot ∈ mission.robots,
        (Record.robot (Utf8.encode robot.name)).meaning visible = "ROBOT \"" ++ robot.name ++ "\"") ∧
    (∀ error, decode bytes = .error error → Shows bytes error) ∧
    (∀ before record after, Bytecode.records bytes = before ++ record :: after →
      listing visible bytes =
        String.join (linesFrom visible 0 before) ++
          (record.line visible (before.flatMap Record.bytes).length ++
            String.join (linesFrom visible
              ((before.flatMap Record.bytes).length + record.bytes.length) after))) ∧
    ∀ line ∈ linesFrom visible 0 (Bytecode.records bytes), ∃ body, OneLine body ∧ line = body ++ "\n" := by
  refine ⟨?_, fun _ failed => shows_of_decode failed, fun _ _ _ => listing_split visible,
    lines_end visible⟩
  intro mission read
  obtain ⟨listed, whole⟩ := records_of_decode read
  obtain ⟨_, expressible, layout⟩ := (decode_eq_ok_iff bytes mission).1 read
  refine ⟨listed, whole, ?_, ?_, ?_⟩
  · exact (encode_eq_ok_iff mission bytes).2 ⟨expressible, layout⟩
  · rw [mission.records_bytes, layout]
  · intro robot member
    exact meaning_name visible (expressible robot member).spelled

/-- A mission's bytes, and bytes that end in a direction that is none. -/
theorem Mission.listing_decode_landing :
    decode [1, 5, 3, 1, 66, 2, 1, 1, 5, 3, 8, 9, 0x80] =
        .ok ⟨⟨5, 3⟩, [⟨"B", [.landing 1 1 .east, .heading [.right, .forward]]⟩]⟩ ∧
      Bytecode.records [1, 5, 3, 1, 66, 2, 1, 1, 5, 3, 8, 9, 0x80] =
        [.square 5 3, .robot [66], .landing 1 1 .east, .heading [.right, .forward], .endOfRobot] ∧
      (Record.landing 1 1 .east).line isVisible 5 = "0005: 02 01 01 05              LAND 1 1 E\n" ∧
      decode [1, 5, 3, 1, 66, 2, 1, 1, 9] = .error (.invalidDirection 8 9) ∧
      Shows [1, 5, 3, 1, 66, 2, 1, 1, 9] (.invalidDirection 8 9) := by
  have read : decode [1, 5, 3, 1, 66, 2, 1, 1, 5, 3, 8, 9, 0x80] =
      .ok ⟨⟨5, 3⟩, [⟨"B", [.landing 1 1 .east, .heading [.right, .forward]]⟩]⟩ :=
    (decode_eq_ok_iff _ _).2 ⟨by decide, by decide +kernel, by decide +kernel⟩
  have failed : decode [1, 5, 3, 1, 66, 2, 1, 1, 9] = .error (.invalidDirection 8 9) := by
    have undirected : instructions ⟨5, [2, 1, 1, 9]⟩ = .error (.invalidDirection 8 9) :=
      instructions_failed rfl
    have start : (⟨3, [1, 66, 2, 1, 1, 9]⟩ : Cursor).skip (1 + UInt8.toNat 1) =
        ⟨5, [2, 1, 1, 9]⟩ := rfl
    have failed : robot ⟨3, [1, 66, 2, 1, 1, 9]⟩ = .error (.invalidDirection 8 9) := by
      simp only [robot]
      rw [start, undirected]
      rfl
    have failed := robots_failed (List.cons_ne_nil _ _) failed
    simp only [decode]
    rw [failed]
    rfl
  refine ⟨read, ?_, by decide +kernel, failed, ?_⟩
  · exact ((listing_decode isVisible _).1 _ read).1.trans (by decide +kernel)
  · exact (listing_decode isVisible _).2.1 _ failed

end ScentedGrid
