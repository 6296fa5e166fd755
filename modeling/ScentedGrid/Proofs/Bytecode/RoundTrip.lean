import ScentedGrid.Bytecode.Decoding
import ScentedGrid.Bytecode.Encoding
import ScentedGrid.Proofs.Expressible
import ScentedGrid.Proofs.Run

/-! Bytes written and read back. What is laid out for a robot is read back as that robot wherever
it stands and whatever follows it, so a stream is read back robot by robot. -/

namespace ScentedGrid

open Text

theorem Square.positive_iff (square : Square) :
    square.Positive ↔ ¬ (square.width = 0 ∨ square.height = 0) := by
  have width : square.width = 0 ↔ square.width.toNat = 0 := UInt8.toNat_inj.symm
  have height : square.height = 0 ↔ square.height.toNat = 0 := UInt8.toNat_inj.symm
  rw [Positive, width, height]
  omega

theorem isEmptyHeading_iff (instruction : Instruction) :
    instruction.isEmptyHeading = true ↔ instruction = .heading [] := by
  unfold Instruction.isEmptyHeading
  split <;> simp_all

/-! ## Writing -/

theorem Robot.encodeFault_eq_none_iff (robot : Robot) :
    robot.encodeFault? = none ↔ robot.Expressible := by
  have commanding : robot.instructions.any Instruction.isEmptyHeading = true ↔
      Instruction.heading [] ∈ robot.instructions := by
    simp [List.any_eq_true, isEmptyHeading_iff]
  have named := isName_iff robot.name.toList
  constructor
  · intro faultless
    unfold encodeFault? at faultless
    split at faultless
    · cases faultless
    · next valid =>
      have valid := named.1 (by simpa using valid)
      split at faultless
      · cases faultless
      · next short =>
        split at faultless
        · cases faultless
        · next filled =>
          exact ⟨valid.1, valid.2, Nat.le_of_not_lt short, fun empty => filled (commanding.2 empty)⟩
  · intro expressible
    have valid := named.2 ⟨expressible.named, expressible.spelled⟩
    have short := Nat.not_lt_of_le expressible.short
    have filled := mt commanding.1 expressible.commanding
    rw [encodeFault?, valid, if_neg (by decide), if_neg short, if_neg filled]

/-- A mission has bytes exactly if it is expressible, and then they are its layout. -/
theorem Mission.encode_eq_ok_iff (mission : Mission) (bytes : List UInt8) :
    mission.encode = .ok bytes ↔ mission.Expressible ∧ bytes = mission.layout := by
  have faultless : mission.robots.findSome? Robot.encodeFault? = none ↔ mission.Expressible := by
    rw [List.findSome?_eq_none_iff]
    exact forall₂_congr fun robot _ => robot.encodeFault_eq_none_iff
  unfold encode
  cases found : mission.robots.findSome? Robot.encodeFault? with
  | some fault =>
    have refused : ¬ mission.Expressible := by
      rw [← faultless, found]
      exact Option.some_ne_none fault
    simp [refused]
  | none =>
    have expressible := faultless.1 found
    simp [expressible, eq_comm]

/-- The bytes of a robot before its instructions. -/
def Robot.nameLayout (robot : Robot) : List UInt8 :=
  UInt8.ofNat (Utf8.encode robot.name).length :: Utf8.encode robot.name

theorem Robot.layout_eq (robot : Robot) :
    robot.layout = robot.nameLayout ++
      (robot.instructions.flatMap Instruction.layout ++ [Opcode.endOfRobot]) :=
  List.append_assoc _ _ _

/-- The length of a name that may be written fits into its byte. -/
theorem Robot.nameLength (robot : Robot) (expressible : robot.Expressible) :
    (UInt8.ofNat (Utf8.encode robot.name).length).toNat = (Utf8.encode robot.name).length := by
  rw [UInt8.toNat_ofNat']
  exact Nat.mod_eq_of_lt (Nat.lt_succ_of_le expressible.short)

/-! ## Reading -/

namespace Bytecode

theorem instructions_end {cursor rest : Cursor} (read : step cursor = .ok (.endOfRobot rest)) :
    instructions cursor = .ok ([], rest) := by
  rw [instructions]
  split
  · next other => cases read.symm.trans other
  · next other =>
    cases read.symm.trans other
    rfl
  · next other => cases read.symm.trans other

theorem instructions_cons {cursor rest : Cursor} {found : Instruction}
    (read : step cursor = .ok (.instruction found rest)) :
    instructions cursor = (instructions rest).map fun more => (found :: more.1, more.2) := by
  rw [instructions]
  split
  · next other => cases read.symm.trans other
  · next other => cases read.symm.trans other
  · next other =>
    cases read.symm.trans other
    cases instructions rest with
    | error fault => rfl
    | ok more => rfl

theorem instructions_failed {cursor : Cursor} {fault : DecodeError}
    (failed : step cursor = .error fault) : instructions cursor = .error fault := by
  rw [instructions]
  split
  · next other => cases failed.symm.trans other; rfl
  · next other => cases failed.symm.trans other
  · next other => cases failed.symm.trans other

theorem robots_nil (offset : Nat) : robots ⟨offset, []⟩ = .ok [] := by
  rw [robots]
  rfl

theorem robots_cons {cursor rest : Cursor} {first : Robot}
    (read : robot cursor = .ok (first, rest)) :
    robots cursor = (robots rest).map (first :: ·) := by
  have nonempty : ¬ cursor.bytes.isEmpty = true := by
    intro ended
    have shorter := robot_shorter read
    rw [List.isEmpty_iff.1 ended] at shorter
    cases shorter
  rw [robots, if_neg nonempty]
  split
  · next other => cases read.symm.trans other
  · next other =>
    cases read.symm.trans other
    cases robots rest with
    | error fault => rfl
    | ok more => rfl

theorem robots_failed {cursor : Cursor} {fault : DecodeError} (filled : cursor.bytes ≠ [])
    (failed : robot cursor = .error fault) : robots cursor = .error fault := by
  rw [robots, if_neg fun ended => filled (List.isEmpty_iff.1 ended)]
  split
  · next other => cases failed.symm.trans other; rfl
  · next other => cases failed.symm.trans other

theorem isCode_code (command : Command) : Command.isCode command.code = true := by
  rw [Command.isCode, Command.ofCode_code]
  rfl

theorem commandRun_codes (commands : List Command) {rest : List UInt8}
    (stops : Stops Command.isCode rest) :
    commandRun (commands.map Command.code ++ rest) = (commands, rest) := by
  have codes : ∀ byte ∈ commands.map Command.code, Command.isCode byte = true := by
    intro byte member
    obtain ⟨command, _, rfl⟩ := List.mem_map.1 member
    exact isCode_code command
  have read := filterMap_written Command.ofCode_code commands
  rw [commandRun, takeWhile_run codes stops, dropWhile_run codes stops, read]

/-- No record begins with a byte that a command may be, so a heading ends where the next begins. -/
theorem stops_instructions (found : List Instruction) {rest : List UInt8}
    (stops : Stops Command.isCode rest) :
    Stops Command.isCode (found.flatMap Instruction.layout ++ rest) := by
  cases found with
  | nil => exact stops
  | cons first more =>
    cases first with
    | landing x y facing => exact stops_cons rfl
    | heading commands => exact stops_cons rfl

/-- Nothing of `rest` would be read as a part of the instruction. Only headings have no length. -/
def EndsBefore (rest : List UInt8) : Instruction → Prop
  | .landing _ _ _ => True
  | .heading _ => Stops Command.isCode rest

theorem endsBefore_of_stops (found : Instruction) {rest : List UInt8}
    (stops : Stops Command.isCode rest) : EndsBefore rest found := by
  cases found with
  | landing => trivial
  | heading => exact stops

theorem step_layout {found : Instruction} (commanding : found ≠ .heading []) {rest : List UInt8}
    (ends : EndsBefore rest found) (offset : Nat) :
    step ⟨offset, found.layout ++ rest⟩ =
      .ok (.instruction found ⟨offset + found.layout.length, rest⟩) := by
  cases found with
  | landing x y facing =>
    simp only [step, Instruction.layout, List.cons_append, List.nil_append]
    rw [if_neg (by decide), if_pos trivial, Direction.ofCode_code]
    rfl
  | heading commands =>
    have filled : commands.isEmpty = false := by
      apply List.isEmpty_eq_false_iff.2
      rintro rfl
      exact commanding rfl
    simp only [step, Instruction.layout, List.cons_append]
    rw [if_neg (by decide), if_neg (by decide), if_pos trivial, commandRun_codes commands ends]
    simp only [filled, Cursor.skip, List.length_cons, List.length_map]
    rw [if_neg Bool.false_ne_true, Nat.add_comm 1, List.drop_succ_cons,
      List.drop_left' (List.length_map _)]

theorem step_endOfRobot (offset : Nat) (rest : List UInt8) :
    step ⟨offset, Opcode.endOfRobot :: rest⟩ = .ok (.endOfRobot ⟨offset + 1, rest⟩) := rfl

/-- The instructions of a layout are read back, and reading goes on after them. -/
theorem instructions_append {found : List Instruction} (commanding : .heading [] ∉ found)
    {rest : List UInt8} (stops : Stops Command.isCode rest) (offset : Nat) :
    instructions ⟨offset, found.flatMap Instruction.layout ++ rest⟩ =
      (instructions ⟨offset + (found.flatMap Instruction.layout).length, rest⟩).map fun more =>
        (found ++ more.1, more.2) := by
  induction found generalizing offset with
  | nil =>
    simp only [List.flatMap_nil, List.nil_append, List.length_nil, Nat.add_zero]
    cases instructions ⟨offset, rest⟩ with
    | error fault => rfl
    | ok more => rfl
  | cons first more ih =>
    have filled : first ≠ .heading [] := fun empty => commanding (empty ▸ List.mem_cons_self)
    have others := ih (fun member => commanding (List.mem_cons_of_mem first member))
      (offset + first.layout.length)
    have ends := endsBefore_of_stops first (stops_instructions more stops)
    rw [List.flatMap_cons, List.append_assoc, instructions_cons (step_layout filled ends offset),
      others, List.length_append, ← Nat.add_assoc]
    cases instructions
        ⟨offset + first.layout.length + (more.flatMap Instruction.layout).length, rest⟩ with
    | error fault => rfl
    | ok last => rfl

theorem instructions_layout {found : List Instruction} (commanding : .heading [] ∉ found)
    (offset : Nat) (rest : List UInt8) :
    instructions ⟨offset, found.flatMap Instruction.layout ++ Opcode.endOfRobot :: rest⟩ =
      .ok (found, ⟨offset + (found.flatMap Instruction.layout).length + 1, rest⟩) := by
  rw [instructions_append commanding (stops_cons rfl), instructions_end (step_endOfRobot _ rest)]
  simp only [Except.map, List.append_nil]

/-- Behind the name of a robot its instructions are read. -/
theorem robot_named {found : Robot} (expressible : found.Expressible) (offset : Nat)
    (body : List UInt8) :
    robot ⟨offset, found.nameLayout ++ body⟩ =
      (instructions ⟨offset + found.nameLayout.length, body⟩).map fun more =>
        (⟨found.name, more.1⟩, more.2) := by
  have length := found.nameLength expressible
  have named : isNameBytes (Utf8.encode found.name) = true := by
    rw [isNameBytes_encode]
    exact (isName_iff _).2 ⟨expressible.named, expressible.spelled⟩
  have past : (UInt8.ofNat (Utf8.encode found.name).length :: (Utf8.encode found.name ++ body)).drop
      (1 + (Utf8.encode found.name).length) = body := by
    rw [Nat.add_comm 1, List.drop_succ_cons, List.drop_left' rfl]
  have size : found.nameLayout.length = 1 + (Utf8.encode found.name).length := Nat.add_comm _ 1
  rw [size]
  simp only [Robot.nameLayout, List.cons_append, robot, Cursor.skip]
  rw [length, List.take_left' rfl, if_neg (Nat.lt_irrefl _), named, past,
    name_encode expressible.spelled]
  cases instructions ⟨offset + (1 + (Utf8.encode found.name).length), body⟩ with
  | error fault => rfl
  | ok more => rfl

/-- A robot is read back wherever it stands and whatever follows it. -/
theorem robot_layout {found : Robot} (expressible : found.Expressible) (offset : Nat)
    (rest : List UInt8) :
    robot ⟨offset, found.layout ++ rest⟩ = .ok (found, ⟨offset + found.layout.length, rest⟩) := by
  have total : found.layout.length =
      found.nameLayout.length + (found.instructions.flatMap Instruction.layout).length + 1 := by
    rw [found.layout_eq]
    simp only [List.length_append, List.length_singleton, Nat.add_assoc]
  rw [found.layout_eq, List.append_assoc, List.append_assoc, List.singleton_append,
    robot_named expressible, instructions_layout expressible.commanding, ← found.layout_eq, total]
  simp only [Except.map, Nat.add_assoc]

/-- The robots of a layout are read back, and reading goes on after them. -/
theorem robots_layout {found : List Robot} (expressible : ∀ robot ∈ found, robot.Expressible)
    (offset : Nat) (rest : List UInt8) :
    robots ⟨offset, found.flatMap Robot.layout ++ rest⟩ =
      (robots ⟨offset + (found.flatMap Robot.layout).length, rest⟩).map (found ++ ·) := by
  induction found generalizing offset with
  | nil =>
    simp only [List.flatMap_nil, List.nil_append, List.length_nil, Nat.add_zero]
    cases robots ⟨offset, rest⟩ with
    | error fault => rfl
    | ok more => rfl
  | cons first more ih =>
    have others := ih (fun robot member => expressible robot (List.mem_cons_of_mem first member))
      (offset + first.layout.length)
    have read := robot_layout (expressible first List.mem_cons_self) offset
      (more.flatMap Robot.layout ++ rest)
    rw [List.flatMap_cons, List.append_assoc, robots_cons read, others, List.length_append,
      Nat.add_assoc]
    cases robots ⟨offset + (first.layout.length + (more.flatMap Robot.layout).length), rest⟩ with
    | error fault => rfl
    | ok last => rfl

end Bytecode

/-- Only the sides of the square decide whether the layout of a mission is read back. -/
theorem Mission.decode_layout {mission : Mission} (expressible : mission.Expressible) :
    decode mission.layout =
      if mission.square.width = 0 ∨ mission.square.height = 0 then
        .error (.invalidSquare mission.square.width mission.square.height)
      else .ok mission := by
  have read := Bytecode.robots_layout expressible 3 []
  rw [Bytecode.robots_nil, List.append_nil] at read
  simp only [layout, Square.layout, List.cons_append, List.nil_append, decode]
  rw [if_neg (by decide), read]
  simp only [Except.map, List.append_nil]

/-- Writing succeeds on the expressible missions alone. What it writes is read back as the same
mission, or refused for a side of zero and nothing else. -/
theorem Mission.decode_encode (mission : Mission) :
    ((∃ bytes, mission.encode = .ok bytes) ↔ mission.Expressible) ∧
    (∀ bytes, mission.encode = .ok bytes →
      (mission.square.Positive → decode bytes = .ok mission) ∧
      (¬ mission.square.Positive →
        decode bytes = .error (.invalidSquare mission.square.width mission.square.height))) ∧
    ((∃ bytes, mission.encode = .ok bytes ∧ decode bytes = .ok mission) ↔
      mission.square.Positive ∧ mission.Expressible) := by
  have positive := mission.square.positive_iff
  have written : (∃ bytes, mission.encode = .ok bytes) ↔ mission.Expressible := by
    simp only [encode_eq_ok_iff, exists_and_left, exists_eq, and_true]
  have back : ∀ bytes, mission.encode = .ok bytes →
      (mission.square.Positive → decode bytes = .ok mission) ∧
      (¬ mission.square.Positive →
        decode bytes = .error (.invalidSquare mission.square.width mission.square.height)) := by
    intro bytes encoded
    obtain ⟨expressible, rfl⟩ := (mission.encode_eq_ok_iff bytes).1 encoded
    rw [decode_layout expressible, positive]
    exact ⟨fun sides => if_neg sides, fun sides => if_pos (Classical.not_not.1 sides)⟩
  refine ⟨written, back, ?_⟩
  constructor
  · rintro ⟨bytes, encoded, decoded⟩
    refine ⟨?_, written.1 ⟨bytes, encoded⟩⟩
    apply Classical.byContradiction
    intro flat
    rw [(back bytes encoded).2 flat] at decoded
    cases decoded
  · rintro ⟨sides, expressible⟩
    obtain ⟨bytes, encoded⟩ := written.2 expressible
    exact ⟨bytes, encoded, (back bytes encoded).1 sides⟩

/-- The length of the first name is the byte that ends a robot, and the coordinates of its landing
are bytes that begin records. -/
def Mission.misleading : Mission :=
  ⟨⟨5, 3⟩, [⟨String.ofList (List.replicate 128 'A'),
      [.landing 0x80 0x03 .north, .heading [.right], .heading [.forward, .left]]⟩, ⟨"B", []⟩]⟩

theorem Mission.decode_encode_misleading :
    misleading.square.Positive ∧ misleading.Expressible ∧
      ∃ bytes, misleading.encode = .ok bytes ∧ decode bytes = .ok misleading := by
  have sides : misleading.square.Positive := by decide
  have expressible : misleading.Expressible := by decide +kernel
  exact ⟨sides, expressible, misleading.decode_encode.2.2.2 ⟨sides, expressible⟩⟩

end ScentedGrid
