import ScentedGrid.Proofs.Bytecode.Canonical

/-! Bytes that break off. What is left of the bytes of a mission is the bytes of its first robots,
or it is refused, and then the fault lies where the bytes end. Only a heading that lost all of its
commands is a fault of its own. -/

namespace ScentedGrid

open Text

/-- Joined pieces that break off are whole pieces and a part of the next one. -/
theorem cut_flatMap {α β : Type} {write : α → List β} {items : List α} {kept missing : List β}
    (whole : kept ++ missing = items.flatMap write) (short : missing ≠ []) :
    ∃ before item after part rest, items = before ++ item :: after ∧
      kept = before.flatMap write ++ part ∧ part ++ rest = write item ∧ rest ≠ [] := by
  induction items generalizing kept with
  | nil => exact absurd (List.append_eq_nil_iff.1 whole).2 short
  | cons first more ih =>
    have later (part : List β) (behind : kept = write first ++ part)
        (others : part ++ missing = more.flatMap write) :
        ∃ before item after part rest, first :: more = before ++ item :: after ∧
          kept = before.flatMap write ++ part ∧ part ++ rest = write item ∧ rest ≠ [] := by
      obtain ⟨before, item, after, part, rest, rfl, rfl, last, filled⟩ := ih others
      refine ⟨first :: before, item, after, part, rest, rfl, ?_, last, filled⟩
      rw [behind, List.flatMap_cons, List.append_assoc]
    rw [List.flatMap_cons] at whole
    rcases List.append_eq_append_iff.1 whole with ⟨rest, inside, others⟩ | ⟨part, behind, others⟩
    · by_cases filled : rest = []
      · subst filled
        rw [List.append_nil] at inside
        exact later [] (by rw [inside, List.append_nil]) others
      · exact ⟨[], first, more, kept, rest, rfl, rfl, inside.symm, filled⟩
    · exact later part behind others.symm

namespace Bytecode

/-- The bytes end where they should go on. -/
def Ends {α : Type} (read : Cursor → Except DecodeError α) (kept : List UInt8) : Prop :=
  ∀ offset, ∃ field, read ⟨offset, kept⟩ = .error (.unexpectedEnd (offset + kept.length) field)

theorem instructions_ends {kept : List UInt8}
    (failed : ∀ offset, ∃ field,
      step ⟨offset, kept⟩ = .error (.unexpectedEnd (offset + kept.length) field)) :
    Ends instructions kept := by
  intro offset
  obtain ⟨field, fault⟩ := failed offset
  exact ⟨field, instructions_failed fault⟩

theorem instructions_ends_nil : Ends instructions [] :=
  instructions_ends fun _ => ⟨.opcode, rfl⟩

/-- Whole instructions in front move the fault, and nothing else. -/
theorem instructions_ends_append {found : List Instruction} (commanding : .heading [] ∉ found)
    {rest : List UInt8} (stops : Stops Command.isCode rest) (ends : Ends instructions rest) :
    Ends instructions (found.flatMap Instruction.layout ++ rest) := by
  intro offset
  obtain ⟨field, failed⟩ := ends (offset + (found.flatMap Instruction.layout).length)
  refine ⟨field, ?_⟩
  rw [instructions_append commanding stops, failed, List.length_append, Nat.add_assoc]
  rfl

/-- An instruction that breaks off ends the reading there, but for a heading without commands. -/
theorem instruction_cut {found : Instruction} {kept missing : List UInt8}
    (whole : kept ++ missing = found.layout) (short : missing ≠ []) :
    ((∃ commands, found = .heading commands) ∧ kept = [Opcode.heading]) ∨
      Ends instructions kept := by
  cases kept with
  | nil => exact .inr instructions_ends_nil
  | cons opcode kept =>
    cases found with
    | landing x y facing =>
      right
      apply instructions_ends
      intro offset
      obtain ⟨rfl, payload⟩ := List.cons.inj whole
      match kept, payload with
      | [], _ => exact ⟨.landingX, rfl⟩
      | [_], _ => exact ⟨.landingY, rfl⟩
      | [_, _], _ => exact ⟨.landingDirection, rfl⟩
      | _ :: _ :: _ :: _, payload => simp_all
    | heading commands =>
      obtain ⟨rfl, codes⟩ := List.cons.inj whole
      obtain ⟨read, _, _, same, _⟩ := List.map_eq_append_iff.1 codes.symm
      cases read with
      | nil => exact .inl ⟨⟨commands, rfl⟩, by rw [← same]; rfl⟩
      | cons first more =>
        right
        have commanding : Instruction.heading [] ∉ [Instruction.heading (first :: more)] := by simp
        have ends := instructions_ends_append commanding stops_nil instructions_ends_nil
        rw [← same]
        simpa [Instruction.layout] using ends

/-- Instructions that break off, before their end of the robot at the latest. -/
theorem instructions_cut {found : List Instruction} (commanding : .heading [] ∉ found)
    {kept missing : List UInt8}
    (whole : kept ++ missing = found.flatMap Instruction.layout ++ [Opcode.endOfRobot])
    (short : missing ≠ []) :
    (∃ before commands after, found = before ++ .heading commands :: after ∧
        kept = before.flatMap Instruction.layout ++ [Opcode.heading]) ∨
      Ends instructions kept := by
  have complete (same : kept = found.flatMap Instruction.layout) : Ends instructions kept := by
    have ends := instructions_ends_append commanding stops_nil instructions_ends_nil
    rwa [List.append_nil, ← same] at ends
  rcases List.append_eq_append_iff.1 whole with ⟨cut, inside, _⟩ | ⟨more, behind, ending⟩
  · by_cases filled : cut = []
    · rw [filled, List.append_nil] at inside
      exact .inr (complete inside.symm)
    · obtain ⟨before, broken, after, part, rest, rfl, rfl, pieces, unread⟩ :=
        cut_flatMap inside.symm filled
      have first : .heading [] ∉ before := fun member => commanding (List.mem_append_left _ member)
      have stops : Stops Command.isCode part := by
        have layout := stops_instructions [broken] stops_nil
        rw [List.flatMap_singleton, List.append_nil, ← pieces] at layout
        exact layout.of_append
      rcases instruction_cut pieces unread with ⟨⟨commands, rfl⟩, rfl⟩ | ends
      · exact .inl ⟨before, commands, after, rfl, rfl⟩
      · exact .inr (instructions_ends_append first stops ends)
  · have none : more = [] := by
      rcases List.append_eq_singleton_iff.1 ending.symm with ⟨none, _⟩ | ⟨_, none⟩
      · exact none
      · exact absurd none short
    rw [none, List.append_nil] at behind
    exact .inr (complete behind)

end Bytecode

/-- The bytes of a robot up to the opcode of a heading, without its commands. -/
def Robot.EndsAtHeading (robot : Robot) (kept : List UInt8) : Prop :=
  ∃ before commands after, robot.instructions = before ++ .heading commands :: after ∧
    kept = robot.nameLayout ++ (before.flatMap Instruction.layout ++ [Opcode.heading])

/-- The bytes of a mission up to the opcode of a heading, without its commands. -/
def Mission.EndsAtHeading (mission : Mission) (kept : List UInt8) : Prop :=
  ∃ before robot after inside, mission.robots = before ++ robot :: after ∧
    robot.EndsAtHeading inside ∧ kept = (Mission.mk mission.square before).layout ++ inside

/-- What is left of the reading of a mission when its bytes break off. -/
inductive Mission.Remains (mission : Mission) (kept : List UInt8) :
    Except DecodeError Mission → Prop where
  | nothing : kept = [] → mission.Remains kept (.error (.missingSquare none))
  | robots {before : List Robot} : before <+: mission.robots →
      kept = (Mission.mk mission.square before).layout →
      mission.Remains kept (.ok ⟨mission.square, before⟩)
  | heading : mission.EndsAtHeading kept →
      mission.Remains kept (.error (.emptyHeading (kept.length - 1)))
  | inside (field : Field) : mission.Remains kept (.error (.unexpectedEnd kept.length field))

namespace Bytecode

theorem robot_ends_name {found : Robot} (expressible : found.Expressible) {kept missing : List UInt8}
    (whole : kept ++ missing = found.nameLayout) (filled : kept ≠ []) (short : missing ≠ []) :
    Ends robot kept := by
  intro offset
  cases kept with
  | nil => exact absurd rfl filled
  | cons length part =>
    obtain ⟨rfl, others⟩ := List.cons.inj whole
    have name : part ++ missing = Utf8.encode found.name := others
    have size := congrArg List.length name
    have some : 0 < missing.length := List.length_pos_iff.2 short
    rw [List.length_append] at size
    have less : (part.take (Utf8.encode found.name).length).length <
        (Utf8.encode found.name).length := by
      rw [List.length_take]
      omega
    refine ⟨.name, ?_⟩
    simp only [robot]
    rw [found.nameLength expressible, if_pos less]

theorem robot_cut {found : Robot} (expressible : found.Expressible) {kept missing : List UInt8}
    (whole : kept ++ missing = found.layout) (filled : kept ≠ []) (short : missing ≠ []) :
    found.EndsAtHeading kept ∨ Ends robot kept := by
  have inside (body : List UInt8) (behind : kept = found.nameLayout ++ body)
      (others : body ++ missing =
        found.instructions.flatMap Instruction.layout ++ [Opcode.endOfRobot]) :
      found.EndsAtHeading kept ∨ Ends robot kept := by
    rcases instructions_cut expressible.commanding others short with
      ⟨before, commands, after, split, same⟩ | ends
    · exact .inl ⟨before, commands, after, split, by rw [behind, same]⟩
    · right
      intro offset
      obtain ⟨field, failed⟩ := ends (offset + found.nameLayout.length)
      refine ⟨field, ?_⟩
      rw [behind, robot_named expressible, failed, List.length_append, Nat.add_assoc]
      rfl
  rw [found.layout_eq] at whole
  rcases List.append_eq_append_iff.1 whole with ⟨cut, name, others⟩ | ⟨body, behind, others⟩
  · by_cases complete : cut = []
    · rw [complete] at name others
      exact inside [] (by rw [name, List.append_nil, List.append_nil]) others
    · exact .inr (robot_ends_name expressible name.symm filled complete)
  · exact inside body behind others.symm

end Bytecode

namespace Mission

theorem decode_square {square : Square} (positive : square.Positive) (rest : List UInt8) :
    decode (square.layout ++ rest) =
      (Bytecode.robots ⟨3, rest⟩).map fun found => ⟨square, found⟩ := by
  simp only [Square.layout, List.cons_append, List.nil_append, decode]
  rw [if_neg (by decide), if_neg (square.positive_iff.1 positive)]
  cases Bytecode.robots ⟨3, rest⟩ with
  | error fault => rfl
  | ok found => rfl

theorem Expressible.split {mission : Mission} (expressible : mission.Expressible)
    {before after : List Robot} {robot : Robot} (split : mission.robots = before ++ robot :: after) :
    (∀ other ∈ before, other.Expressible) ∧ robot.Expressible := by
  rw [Mission.Expressible, split, List.forall_mem_append, List.forall_mem_cons] at expressible
  exact ⟨expressible.1, expressible.2.1⟩

/-- A fault behind whole robots is the fault of the whole. -/
theorem decode_failed {square : Square} (positive : square.Positive) {before : List Robot}
    (expressible : ∀ robot ∈ before, robot.Expressible) {inside : List UInt8}
    (filled : inside ≠ []) {fault : DecodeError}
    (failed : Bytecode.robot ⟨(Mission.mk square before).layout.length, inside⟩ = .error fault) :
    decode ((Mission.mk square before).layout ++ inside) = .error fault := by
  have start : (Mission.mk square before).layout.length =
      3 + (before.flatMap Robot.layout).length := List.length_append
  rw [start] at failed
  rw [layout, List.append_assoc, decode_square positive, Bytecode.robots_layout expressible,
    Bytecode.robots_failed filled failed]
  rfl

variable {mission : Mission} {kept missing : List UInt8}

theorem decode_endsAtHeading (positive : mission.square.Positive)
    (expressible : mission.Expressible) (ends : mission.EndsAtHeading kept) :
    decode kept = .error (.emptyHeading (kept.length - 1)) := by
  obtain ⟨before, robot, after, inside, split, ⟨earlier, commands, later, sentences, rfl⟩, rfl⟩ :=
    ends
  obtain ⟨first, here⟩ := expressible.split split
  have commanding : .heading [] ∉ earlier := by
    intro member
    apply here.commanding
    rw [sentences]
    exact List.mem_append_left _ member
  have stops : Stops Command.isCode [Opcode.heading] := stops_cons rfl
  apply decode_failed positive first (by simp [Robot.nameLayout])
  rw [Bytecode.robot_named here, Bytecode.instructions_append commanding stops,
    Bytecode.instructions_failed rfl]
  simp only [Except.map, List.length_append, List.length_singleton, ← Nat.add_assoc,
    Nat.add_sub_cancel]

theorem decode_robots (positive : mission.square.Positive) (expressible : mission.Expressible)
    {before : List Robot} (among : before <+: mission.robots)
    (same : kept = (Mission.mk mission.square before).layout) :
    decode kept = .ok ⟨mission.square, before⟩ :=
  (decode_eq_ok_iff _ _).2
    ⟨positive, fun robot member => expressible robot (among.subset member), same⟩

/-- Where the bytes of a mission can break off, and what is read there. -/
theorem decode_remains (positive : mission.square.Positive) (expressible : mission.Expressible)
    (whole : kept ++ missing = mission.layout) (short : missing ≠ []) :
    mission.Remains kept (decode kept) := by
  match kept, whole with
  | [], _ => exact .nothing rfl
  | [_], whole =>
    obtain ⟨rfl, _⟩ := List.cons.inj whole
    exact .inside .squareWidth
  | [_, _], whole =>
    obtain ⟨rfl, _⟩ := List.cons.inj whole
    exact .inside .squareHeight
  | _ :: _ :: _ :: part, whole =>
    obtain ⟨rfl, sides⟩ := List.cons.inj whole
    obtain ⟨rfl, height⟩ := List.cons.inj sides
    obtain ⟨rfl, others⟩ := List.cons.inj height
    obtain ⟨before, robot, after, inside, rest, split, rfl, broken, unread⟩ :=
      cut_flatMap others short
    by_cases filled : inside = []
    · have among : before <+: mission.robots := ⟨robot :: after, split.symm⟩
      rw [filled, List.append_nil]
      change mission.Remains (Mission.mk mission.square before).layout
        (decode (Mission.mk mission.square before).layout)
      rw [decode_robots positive expressible among rfl]
      exact .robots among rfl
    · obtain ⟨first, here⟩ := expressible.split split
      rcases Bytecode.robot_cut here broken filled unread with ends | ends
      · have heading : mission.EndsAtHeading ((Mission.mk mission.square before).layout ++ inside) :=
          ⟨before, robot, after, inside, split, ends, rfl⟩
        have answer := decode_endsAtHeading positive expressible heading
        exact answer ▸ .heading heading
      · obtain ⟨field, failed⟩ := ends (Mission.mk mission.square before).layout.length
        rw [← List.length_append] at failed
        have answer := decode_failed positive first filled failed
        exact answer ▸ .inside field

/-- Bytes of a mission that break off are read as its first robots if they end with one of them or
with the square. Otherwise they are refused: if nothing is left, for the missing square, behind the
opcode of a heading for its commands, and anywhere else for their end. -/
theorem decode_truncated {bytes : List UInt8} (read : decode bytes = .ok mission)
    (initial : kept <+: bytes) (cut : kept ≠ bytes) :
    (∀ found, decode kept = .ok found ↔
      found.square = mission.square ∧ found.robots <+: mission.robots ∧ kept = found.layout) ∧
    (decode kept = .error (.missingSquare none) ↔ kept = []) ∧
    (∀ offset, decode kept = .error (.emptyHeading offset) ↔
      mission.EndsAtHeading kept ∧ offset + 1 = kept.length) ∧
    ((∃ field, decode kept = .error (.unexpectedEnd kept.length field)) ↔
      (∀ before, before <+: mission.robots → kept ≠ (Mission.mk mission.square before).layout) ∧
        kept ≠ [] ∧ ¬ mission.EndsAtHeading kept) ∧
    ∀ error, decode kept = .error error → error = .missingSquare none ∨
      error = .emptyHeading (kept.length - 1) ∨ ∃ field, error = .unexpectedEnd kept.length field := by
  obtain ⟨positive, expressible, rfl⟩ := (decode_eq_ok_iff bytes mission).1 read
  obtain ⟨missing, whole⟩ := initial
  have short : missing ≠ [] := by
    rintro rfl
    exact cut (by rw [← whole, List.append_nil])
  have remains := decode_remains positive expressible whole short
  have nothing (empty : kept = []) : decode kept = .error (.missingSquare none) := by
    rw [empty]
    rfl
  have robots {before : List Robot} (among : before <+: mission.robots)
      (same : kept = (Mission.mk mission.square before).layout) :=
    decode_robots positive expressible among same
  have heading (ends : mission.EndsAtHeading kept) :=
    decode_endsAtHeading positive expressible ends
  refine ⟨fun found => ⟨fun answer => ?_, ?_⟩, ⟨fun answer => ?_, nothing⟩,
    fun offset => ⟨fun answer => ?_, ?_⟩, ⟨?_, ?_⟩, fun error answer => ?_⟩
  · rw [answer] at remains
    cases remains with
    | robots among same => exact ⟨rfl, among, same⟩
  · rintro ⟨square, among, same⟩
    rw [← square] at robots
    exact robots among same
  · rw [answer] at remains
    cases remains with
    | nothing empty => exact empty
  · have filled : kept ≠ [] := fun empty => by cases (nothing empty).symm.trans answer
    rw [answer] at remains
    cases remains with
    | heading ends => exact ⟨ends, Nat.sub_add_cancel (List.length_pos_iff.2 filled)⟩
  · rintro ⟨ends, last⟩
    rw [heading ends, ← last, Nat.add_sub_cancel]
  · rintro ⟨field, failed⟩
    refine ⟨fun before among same => ?_, fun empty => ?_, fun ends => ?_⟩
    · cases (robots among same).symm.trans failed
    · cases (nothing empty).symm.trans failed
    · cases (heading ends).symm.trans failed
  · rintro ⟨unbroken, filled, inside⟩
    cases answer : decode kept with
    | ok found =>
      rw [answer] at remains
      cases remains with
      | robots among same => exact absurd same (unbroken _ among)
    | error error =>
      rw [answer] at remains
      cases remains with
      | nothing empty => exact absurd empty filled
      | heading ends => exact absurd ends inside
      | inside field => exact ⟨field, rfl⟩
  · rw [answer] at remains
    cases remains with
    | nothing => exact .inl rfl
    | heading => exact .inr (.inl rfl)
    | inside field => exact .inr (.inr ⟨field, rfl⟩)

/-- The coordinates of the landing are bytes that begin a heading and end a robot. -/
def lookalike : Mission :=
  ⟨⟨5, 3⟩, [⟨"B", [.landing 3 0x80 .north, .heading [.right, .forward]]⟩, ⟨"C", []⟩]⟩

def lookalikeBytes : List UInt8 := [1, 5, 3, 1, 66, 2, 3, 0x80, 4, 3, 8, 9, 0x80, 1, 67, 0x80]

/-- Broken off after the first coordinate, after both, behind the opcode of the heading and behind
its first command. -/
theorem decode_truncated_lookalike :
    decode lookalikeBytes = .ok lookalike ∧
      ¬ lookalike.EndsAtHeading [1, 5, 3, 1, 66, 2, 3] ∧
      (∀ before, before <+: lookalike.robots →
        [1, 5, 3, 1, 66, 2, 3, 0x80] ≠ (Mission.mk ⟨5, 3⟩ before).layout) ∧
      decode [1, 5, 3, 1, 66, 2, 3, 0x80, 4, 3] = .error (.emptyHeading 9) ∧
      ¬ lookalike.EndsAtHeading [1, 5, 3, 1, 66, 2, 3, 0x80, 4, 3, 8] ∧
      decode [1, 5, 3, 1, 66, 2, 3, 0x80, 4, 3, 8, 9, 0x80] =
        .ok ⟨⟨5, 3⟩, [⟨"B", [.landing 3 0x80 .north, .heading [.right, .forward]]⟩]⟩ := by
  have read : decode lookalikeBytes = .ok lookalike :=
    (decode_eq_ok_iff _ _).2 ⟨by decide, by decide +kernel, by decide +kernel⟩
  have initial (count : Nat) : lookalikeBytes.take count <+: lookalikeBytes :=
    List.take_prefix count lookalikeBytes
  obtain ⟨_, _, _, across, _⟩ := decode_truncated read (initial 7) (by decide)
  obtain ⟨_, _, _, up, _⟩ := decode_truncated read (initial 8) (by decide)
  obtain ⟨_, _, bare, _, _⟩ := decode_truncated read (initial 10) (by decide)
  obtain ⟨_, _, _, behind, _⟩ := decode_truncated read (initial 11) (by decide)
  obtain ⟨first, _⟩ := decode_truncated read (initial 13) (by decide)
  refine ⟨read, (across.1 ⟨.landingY, by decide +kernel⟩).2.2,
    (up.1 ⟨.landingDirection, by decide +kernel⟩).1, (bare 9).2 ⟨?_, rfl⟩,
    (behind.1 ⟨.opcode, by decide +kernel⟩).2.2,
    (first _).2 ⟨rfl, ⟨[⟨"C", []⟩], rfl⟩, by decide +kernel⟩⟩
  exact ⟨[], _, _, _, rfl, ⟨[.landing 3 0x80 .north], _, [], rfl, rfl⟩, by decide +kernel⟩

end Mission
end ScentedGrid
