import ScentedGrid.Bytecode.Encoding

/-! Missions that can be written down. The types admit any text as a name and headings that
command nothing; only names of letters, digits and underscores, short enough for one length
byte, and headings with at least one command survive being written and read again. -/

namespace ScentedGrid

open Text

def NameChar (c : Char) : Prop :=
  ('A' ≤ c ∧ c ≤ 'Z') ∨ ('a' ≤ c ∧ c ≤ 'z') ∨ ('0' ≤ c ∧ c ≤ '9') ∨ c = '_'

structure Robot.Expressible (robot : Robot) : Prop where
  named : robot.name.toList ≠ []
  spelled : ∀ c ∈ robot.name.toList, NameChar c
  short : (Utf8.encode robot.name).length ≤ 255
  commanding : Instruction.heading [] ∉ robot.instructions

def Mission.Expressible (mission : Mission) : Prop :=
  ∀ robot ∈ mission.robots, robot.Expressible

/-- A square of side zero still has bytes, but no reader takes it. -/
def Square.Positive (square : Square) : Prop := 0 < square.width.toNat ∧ 0 < square.height.toNat

instance (square : Square) : Decidable square.Positive := inferInstanceAs (Decidable (_ ∧ _))

theorem isNameChar_iff (c : Char) : isNameChar c = true ↔ NameChar c := by
  change (((decide ('A' ≤ c ∧ c ≤ 'Z') || (decide ('a' ≤ c) && decide (c ≤ 'z'))) ||
    (decide ('0' ≤ c) && decide (c ≤ '9'))) || c == '_') = true ↔ _
  simp only [Bool.or_eq_true, Bool.and_eq_true, decide_eq_true_eq, beq_iff_eq, NameChar, or_assoc]

theorem isName_iff (characters : List Char) :
    isName characters = true ↔ characters ≠ [] ∧ ∀ c ∈ characters, NameChar c := by
  simp [isName, isNameChar_iff]

instance (robot : Robot) : Decidable robot.Expressible :=
  decidable_of_iff (isName robot.name.toList = true ∧ (Utf8.encode robot.name).length ≤ 255 ∧
      Instruction.heading [] ∉ robot.instructions)
    ⟨fun ⟨named, short, commanding⟩ =>
      ⟨((isName_iff _).1 named).1, ((isName_iff _).1 named).2, short, commanding⟩,
    fun expressible =>
      ⟨(isName_iff _).2 ⟨expressible.named, expressible.spelled⟩, expressible.short,
        expressible.commanding⟩⟩

instance (mission : Mission) : Decidable mission.Expressible :=
  inferInstanceAs (Decidable (∀ robot ∈ mission.robots, robot.Expressible))

/-- Characters of names have a byte of their own. -/
theorem NameChar.ascii {c : Char} (spelled : NameChar c) : c.toNat < 0x80 := by
  simp only [NameChar, Char.le_def, UInt32.le_iff_toNat_le] at spelled
  rcases spelled with upper | lower | digit | rfl
  · exact Nat.lt_of_le_of_lt upper.2 (by decide)
  · exact Nat.lt_of_le_of_lt lower.2 (by decide)
  · exact Nat.lt_of_le_of_lt digit.2 (by decide)
  · decide

theorem encodeChar_ascii {c : Char} (ascii : c.toNat < 0x80) :
    String.utf8EncodeChar c = [UInt8.ofNat c.toNat] := by
  have small : c.val.toNat ≤ 0x7F := by
    change c.toNat ≤ 0x7F
    omega
  simp only [String.utf8EncodeChar]
  rw [if_pos small]
  rfl

theorem toNat_ofNat_small {number : Nat} (small : number < 0xD800) :
    (Char.ofNat number).toNat = number := by
  have valid : number.isValidChar := Or.inl small
  rw [Char.ofNat, dif_pos valid]
  rfl

theorem toNat_char_byte (byte : UInt8) : (Char.ofNat byte.toNat).toNat = byte.toNat := by
  have bound := byte.toNat_lt
  apply toNat_ofNat_small
  omega

theorem char_byte_ascii {c : Char} (ascii : c.toNat < 0x80) :
    Char.ofNat (UInt8.ofNat c.toNat).toNat = c := by
  have same : (UInt8.ofNat c.toNat).toNat = c.toNat := by
    rw [UInt8.toNat_ofNat']
    omega
  rw [same, Char.ofNat_toNat]

theorem isNameChar_high {byte : UInt8} (high : 0x80 ≤ byte.toNat) :
    isNameChar (Char.ofNat byte.toNat) = false := by
  apply Bool.eq_false_iff.2
  intro named
  have ascii := ((isNameChar_iff _).1 named).ascii
  rw [toNat_char_byte] at ascii
  omega

theorem encodeChar_high {c : Char} (high : 0x80 ≤ c.toNat) :
    ∃ first more, String.utf8EncodeChar c = first :: more ∧ 0x80 ≤ first.toNat := by
  have large : ¬ c.val.toNat ≤ 0x7F := by
    change ¬ c.toNat ≤ 0x7F
    omega
  simp only [String.utf8EncodeChar]
  rw [if_neg large]
  split
  · refine ⟨_, _, rfl, ?_⟩
    rw [UInt8.toNat_ofNat']
    omega
  · split
    · refine ⟨_, _, rfl, ?_⟩
      rw [UInt8.toNat_ofNat']
      omega
    · refine ⟨_, _, rfl, ?_⟩
      rw [UInt8.toNat_ofNat']
      omega

/-- Beyond ASCII the first byte of a character already belongs to no name. -/
theorem encodeChar_all_isNameChar (c : Char) :
    (String.utf8EncodeChar c).all (fun byte => isNameChar (Char.ofNat byte.toNat)) =
      isNameChar c := by
  by_cases ascii : c.toNat < 0x80
  · rw [encodeChar_ascii ascii]
    simp only [List.all_cons, List.all_nil, Bool.and_true]
    rw [char_byte_ascii ascii]
  · obtain ⟨first, more, bytes, high⟩ := encodeChar_high (Nat.le_of_not_lt ascii)
    rw [bytes, List.all_cons, isNameChar_high high, Bool.false_and]
    symm
    apply Bool.eq_false_iff.2
    intro named
    exact ascii ((isNameChar_iff c).1 named).ascii

/-- A name may be looked at by its characters or by its bytes. -/
theorem isNameBytes_encode (name : String) : isNameBytes (Utf8.encode name) = isName name.toList := by
  have filled : (Utf8.encode name).isEmpty = name.toList.isEmpty := by
    cases spelling : name.toList with
    | nil => simp [Utf8.encode, spelling]
    | cons c rest =>
      simp [Utf8.encode, spelling, String.utf8EncodeChar_ne_nil]
  have spelled : (Utf8.encode name).all (fun byte => isNameChar (Char.ofNat byte.toNat)) =
      name.toList.all isNameChar := by
    simp only [Utf8.encode, List.all_flatMap, encodeChar_all_isNameChar]
  simp only [isNameBytes, isName, List.isEmpty_map, List.all_map, Function.comp_def, filled, spelled]

theorem encodeChars_spelled {characters : List Char} (spelled : ∀ c ∈ characters, NameChar c) :
    characters.flatMap String.utf8EncodeChar = characters.map fun c => UInt8.ofNat c.toNat := by
  induction characters with
  | nil => rfl
  | cons c rest ih =>
    have first := encodeChar_ascii (spelled c List.mem_cons_self).ascii
    have others := ih fun d member => spelled d (List.mem_cons_of_mem c member)
    rw [List.flatMap_cons, first, others]
    rfl

/-- Reading the bytes of a name gives the name back. -/
theorem name_encode {name : String} (spelled : ∀ c ∈ name.toList, NameChar c) :
    Bytecode.name (Utf8.encode name) = name := by
  have same : ∀ c ∈ name.toList, Char.ofNat (UInt8.ofNat c.toNat).toNat = c :=
    fun c member => char_byte_ascii (spelled c member).ascii
  have back : name.toList.map (fun c => Char.ofNat (UInt8.ofNat c.toNat).toNat) = name.toList :=
    (List.map_congr_left same).trans (List.map_id _)
  rw [Bytecode.name, Utf8.encode, encodeChars_spelled spelled, List.map_map]
  exact (congrArg String.ofList back).trans String.ofList_toList

/-- Bytes that spell a name are the bytes of that name. -/
theorem encode_name {bytes : List UInt8} (named : isNameBytes bytes = true) :
    Utf8.encode (Bytecode.name bytes) = bytes := by
  have spelled := ((isName_iff _).1 named).2
  rw [Utf8.encode, Bytecode.name, String.toList_ofList, encodeChars_spelled spelled, List.map_map]
  have same : ∀ byte ∈ bytes, UInt8.ofNat (Char.ofNat byte.toNat).toNat = byte := by
    intro byte _
    rw [toNat_char_byte, UInt8.ofNat_toNat]
  exact (List.map_congr_left same).trans (List.map_id _)

end ScentedGrid
