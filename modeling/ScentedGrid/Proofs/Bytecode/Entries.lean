import ScentedGrid.Proofs.Bytecode.Canonical
import ScentedGrid.Proofs.Bytecode.Records

/-! Listings read back. Every line of a listing gives the offset and the bytes that stand on it, and
nothing on it can be taken for more of them, so the lines hold all the bytes, each of them once. -/

namespace ScentedGrid.Bytecode

open Text

/-! ## Records and their bytes -/

theorem Record.betweenRobots_bytes {bytes rest : List UInt8} {found : Record}
    (read : betweenRobots? bytes = some (found, rest)) :
    found.IsWhole ∧ bytes = found.bytes ++ rest := by
  unfold betweenRobots? at read
  split at read
  · cases read
  · next length after =>
    split at read
    · cases read
    · next enough =>
      cases read
      refine ⟨fun _ => Record.noConfusion, ?_⟩
      rw [Record.bytes, take_enough enough, UInt8.ofNat_toNat, List.cons_append,
        List.take_append_drop]

theorem Record.insideRobot_bytes {bytes rest : List UInt8} {found : Record}
    (read : insideRobot? bytes = some (found, rest)) :
    found.IsWhole ∧ bytes = found.bytes ++ rest := by
  unfold insideRobot? at read
  split at read
  · cases read
  · next opcode after =>
    split at read
    · next ends =>
      cases read
      exact ⟨fun _ => Record.noConfusion, by rw [ends]; rfl⟩
    · split at read
      · next landing =>
        split at read
        · obtain ⟨facing, known, same⟩ := Option.map_eq_some_iff.1 read
          cases same
          refine ⟨fun _ => Record.noConfusion, ?_⟩
          rw [landing, Record.bytes, Direction.code_of_ofCode known]
          rfl
        · cases read
      · split at read
        · next heading =>
          cases read
          refine ⟨fun _ => Record.noConfusion, ?_⟩
          rw [heading, Record.bytes, List.cons_append, commandRun_append]
        · cases read

/-- Whole records and behind them bytes on their own, which make up all of the bytes. -/
structure Partition (found : List Record) (bytes : List UInt8) : Prop where
  whole : ∃ (records : List Record) (left : List UInt8),
    found = records ++ left.map .trailing ∧ ∀ record ∈ records, record.IsWhole
  complete : found.flatMap Record.bytes = bytes

theorem Partition.trailing (bytes : List UInt8) : Partition (bytes.map .trailing) bytes where
  whole := ⟨[], bytes, rfl, fun _ member => absurd member List.not_mem_nil⟩
  complete := by
    rw [List.flatMap_map]
    exact List.flatMap_singleton' bytes

theorem Partition.cons {found : List Record} {record : Record} {bytes : List UInt8}
    (others : Partition found bytes) (whole : record.IsWhole) :
    Partition (record :: found) (record.bytes ++ bytes) := by
  obtain ⟨⟨records, left, split, each⟩, complete⟩ := others
  refine ⟨⟨record :: records, left, ?_, ?_⟩, ?_⟩
  · rw [split, List.cons_append]
  · exact List.forall_mem_cons.2 ⟨whole, each⟩
  · rw [List.flatMap_cons, complete]

theorem recordsFrom_partition (insideRobot : Bool) (bytes : List UInt8) :
    Partition (recordsFrom insideRobot bytes) bytes := by
  fun_induction recordsFrom insideRobot bytes with
  | case1 => exact .trailing _
  | case2 bytes rest listed ih =>
    obtain ⟨whole, rfl⟩ := Record.insideRobot_bytes listed
    exact ih.cons whole
  | case3 bytes record rest _ listed ih =>
    obtain ⟨whole, rfl⟩ := Record.insideRobot_bytes listed
    exact ih.cons whole
  | case4 => exact .trailing _
  | case5 _ bytes _ record rest listed ih =>
    obtain ⟨whole, rfl⟩ := Record.betweenRobots_bytes listed
    exact ih.cons whole

theorem records_partition (bytes : List UInt8) : Partition (records bytes) bytes := by
  unfold records
  split
  · next opcode width height rest =>
    split
    · next opening =>
      subst opening
      exact (recordsFrom_partition false rest).cons fun _ => Record.noConfusion
    · exact .trailing _
  · exact .trailing _

/-! ## A line read back -/

/-- The value of a hexadecimal digit, which no small letter is. -/
def capitalDigit? (c : Char) : Option Nat :=
  if '0' ≤ c ∧ c ≤ '9' then some (c.toNat - '0'.toNat)
  else if 'A' ≤ c ∧ c ≤ 'F' then some (c.toNat - 'A'.toNat + 10)
  else none

def capitalValue (characters : List Char) : Nat :=
  characters.foldl (fun value c => 16 * value + (capitalDigit? c).getD 0) 0

/-- The bytes of which the digits begin the characters, each with a space behind it. -/
def printedBytes : List Char → List UInt8
  | high :: low :: ' ' :: rest =>
    match capitalDigit? high, capitalDigit? low with
    | some first, some second => UInt8.ofNat (16 * first + second) :: printedBytes rest
    | _, _ => []
  | _ => []

/-- What a line of a listing gives of the bytes. -/
structure Entry where
  offset : Nat
  bytes : List UInt8
  deriving DecidableEq

def readLine? (line : List Char) : Option Entry :=
  match line.dropWhile fun c => (capitalDigit? c).isSome with
  | ':' :: ' ' :: rest =>
    some ⟨capitalValue (line.takeWhile fun c => (capitalDigit? c).isSome), printedBytes rest⟩
  | _ => none

theorem capitalDigit_digitChar :
    ∀ digit < 16, capitalDigit? (digitChar 'A' digit) = some digit := by
  decide

/-- Zeros at the left do not change the value. -/
theorem capitalValue_hexCapital (width number : Nat) :
    capitalValue (hexCapital width number).toList = number := by
  have zeros (count : Nat) : capitalValue (List.replicate count '0') = 0 := by
    induction count with
    | zero => rfl
    | succ count ih => exact ih
  rw [hexCapital, String.toList_ofList, zeroPadded, capitalValue, List.foldl_append]
  change List.foldl _ (capitalValue _) _ = _
  rw [zeros, List.foldl_map]
  calc (digits 16 number).foldl
        (fun value digit => 16 * value + (capitalDigit? (digitChar 'A' digit)).getD 0) 0
      = (digits 16 number).foldl (fun value digit => 16 * value + digit) 0 := by
        apply List.foldl_ext
        intro value digit member
        rw [capitalDigit_digitChar digit (digits_lt (by decide) number digit member)]
        rfl
    _ = number := digits_value 16 number

theorem hexCapital_digits (width number : Nat) :
    ∀ c ∈ (hexCapital width number).toList, (capitalDigit? c).isSome := by
  intro c member
  rw [hexCapital, String.toList_ofList, zeroPadded, List.mem_append, List.mem_replicate,
    List.mem_map] at member
  obtain ⟨_, rfl⟩ | ⟨digit, among, rfl⟩ := member
  · decide
  · rw [capitalDigit_digitChar digit (digits_lt (by decide) number digit among)]
    rfl

/-- A byte as its line has it, with the space before the next one. -/
def spaced (byte : UInt8) : List Char := (hexCapital 2 byte.toNat).toList ++ [' ']

theorem spaced_eq (byte : UInt8) :
    spaced byte = [digitChar 'A' (byte.toNat / 16), digitChar 'A' (byte.toNat % 16), ' '] := by
  have each : ∀ number < 256, (hexCapital 2 number).toList =
      [digitChar 'A' (number / 16), digitChar 'A' (number % 16)] := by
    decide +kernel
  rw [spaced, each byte.toNat byte.toNat_lt]
  rfl

theorem hexBytes_spaced {bytes : List UInt8} (filled : bytes ≠ []) :
    (hexBytes bytes).toList ++ [' '] = bytes.flatMap spaced := by
  rw [hexBytes]
  induction bytes with
  | nil => exact absurd rfl filled
  | cons byte rest ih =>
    cases rest with
    | nil => simp [spaced]
    | cons next more =>
      have others := ih (List.cons_ne_nil _ _)
      rw [List.map_cons] at others
      rw [List.map_cons, List.map_cons, String.intercalate_cons_cons, String.toList_append,
        String.toList_append, List.append_assoc, others, List.flatMap_cons, spaced]
      rfl

theorem printedBytes_spaced (bytes : List UInt8) (rest : List Char) :
    printedBytes (bytes.flatMap spaced ++ rest) = bytes ++ printedBytes rest := by
  induction bytes with
  | nil => rfl
  | cons byte more ih =>
    have high := capitalDigit_digitChar (byte.toNat / 16) (by have := byte.toNat_lt; omega)
    have low := capitalDigit_digitChar (byte.toNat % 16) (Nat.mod_lt _ (by decide))
    rw [List.flatMap_cons, spaced_eq]
    simp only [List.cons_append, List.nil_append, printedBytes, high, low]
    rw [ih, Nat.div_add_mod, UInt8.ofNat_toNat]

theorem printedBytes_other {c : Char} (other : capitalDigit? c = none) (rest : List Char) :
    printedBytes (c :: rest) = [] := by
  unfold printedBytes
  split
  · next same =>
    cases same
    rw [other]
  · rfl

variable (visible : Char → Bool)

theorem printedBytes_meaning (record : Record) :
    printedBytes (record.meaning visible).toList = [] := by
  cases record with
  | square =>
    simp only [Record.meaning, String.toList_append, List.append_assoc]
    exact printedBytes_other (c := 'S') rfl _
  | robot =>
    simp only [Record.meaning, String.toList_append]
    exact printedBytes_other (c := 'R') rfl _
  | landing =>
    simp only [Record.meaning, String.toList_append, List.append_assoc]
    exact printedBytes_other (c := 'L') rfl _
  | heading =>
    simp only [Record.meaning, String.toList_append]
    exact printedBytes_other (c := 'H') rfl _
  -- The first letter is like a digit, and the second is not.
  | endOfRobot => exact (by decide +kernel : printedBytes "END".toList = [])
  | trailing => exact (by decide +kernel : printedBytes "(trailing)".toList = [])

theorem printedBytes_blanks (count : Nat) {rest : List Char} (unprinted : printedBytes rest = []) :
    printedBytes (List.replicate count ' ' ++ rest) = [] := by
  cases count with
  | zero => exact unprinted
  | succ count => exact printedBytes_other (c := ' ') rfl _

theorem record_filled (record : Record) : record.bytes ≠ [] := by
  cases record <;> exact List.cons_ne_nil _ _

theorem column_spaced {bytes : List UInt8} (filled : bytes ≠ []) (width : Nat) :
    (column width (hexBytes bytes) ++ " ").toList =
      bytes.flatMap spaced ++ List.replicate (width - (hexBytes bytes).length) ' ' := by
  rw [column, String.toList_append, String.toList_append, String.toList_ofList, List.append_assoc]
  change _ ++ (_ ++ [' ']) = _
  rw [← List.replicate_succ', List.replicate_succ, ← List.singleton_append, ← List.append_assoc,
    hexBytes_spaced filled]

/-- The column of the bytes on a record's line. -/
theorem line_column (record : Record) :
    ∃ (text : String) (count : Nat),
      text.toList = record.bytes.flatMap spaced ++ List.replicate count ' ' ∧
      ∀ offset, record.line visible offset =
        hexCapital 4 offset ++ ": " ++ text ++ record.meaning visible ++ "\n" := by
  cases record with
  | trailing byte =>
    refine ⟨hexBytes [byte] ++ "     ", 4, ?_, fun _ => rfl⟩
    rw [String.toList_append, Record.bytes, ← hexBytes_spaced (List.cons_ne_nil _ _),
      List.append_assoc]
    rfl
  | _ => exact ⟨_, _, column_spaced (record_filled _) 24, fun _ => rfl⟩

/-- A record's line gives its offset and its bytes. -/
theorem line_read (offset : Nat) (record : Record) :
    ∃ line, '\n' ∉ line ∧ (record.line visible offset).toList = line ++ ['\n'] ∧
      readLine? line = some ⟨offset, record.bytes⟩ := by
  obtain ⟨body, unbroken, whole⟩ := record.line_ends visible offset
  obtain ⟨text, count, shown, columns⟩ := line_column visible record
  have ends : (record.line visible offset).toList = body.toList ++ ['\n'] := by
    rw [whole, String.toList_append]
    rfl
  have characters : body.toList = (hexCapital 4 offset).toList ++
      ':' :: ' ' :: (record.bytes.flatMap spaced ++
        (List.replicate count ' ' ++ (record.meaning visible).toList)) := by
    apply List.append_cancel_right
    rw [← ends, columns]
    simp only [String.toList_append, shown, List.append_assoc, List.cons_append]
    rfl
  refine ⟨body.toList, unbroken, ends, ?_⟩
  have digits := hexCapital_digits 4 offset
  rw [characters, readLine?, List.dropWhile_append_of_pos digits,
    List.takeWhile_append_of_pos digits]
  change some (Entry.mk (capitalValue (_ ++ [])) (printedBytes _)) = _
  rw [List.append_nil, capitalValue_hexCapital, printedBytes_spaced,
    printedBytes_blanks count (printedBytes_meaning visible record), List.append_nil]

example : readLine? "0006: 80                       END".toList = some ⟨6, [0x80]⟩ := by
  decide +kernel

/-! ## All lines read back -/

/-- Entries for records that follow each other. -/
def entriesFrom (offset : Nat) : List Record → List Entry
  | [] => []
  | record :: rest => ⟨offset, record.bytes⟩ :: entriesFrom (offset + record.bytes.length) rest

theorem entriesFrom_bytes (offset : Nat) (found : List Record) :
    (entriesFrom offset found).map Entry.bytes = found.map Record.bytes := by
  induction found generalizing offset with
  | nil => rfl
  | cons record rest ih => exact congrArg (record.bytes :: ·) (ih _)

theorem entriesFrom_chain (offset : Nat) (found : List Record) :
    (entriesFrom offset found).IsChain
      fun entry next => next.offset = entry.offset + entry.bytes.length := by
  induction found generalizing offset with
  | nil => exact .nil
  | cons record rest ih =>
    cases rest with
    | nil => exact .singleton _
    | cons next more => exact .cons_cons rfl (ih _)

theorem entriesFrom_read (offset : Nat) (found : List Record) :
    ∃ lines : List (List Char), (∀ line ∈ lines, '\n' ∉ line) ∧
      (String.join (linesFrom visible offset found)).toList = lines.flatMap (· ++ ['\n']) ∧
      lines.mapM readLine? = some (entriesFrom offset found) := by
  induction found generalizing offset with
  | nil => exact ⟨[], fun _ member => absurd member List.not_mem_nil, rfl, rfl⟩
  | cons record rest ih =>
    obtain ⟨line, unbroken, first, head⟩ := line_read visible offset record
    obtain ⟨lines, each, others, tail⟩ := ih (offset + record.bytes.length)
    refine ⟨line :: lines, List.forall_mem_cons.2 ⟨unbroken, each⟩, ?_, ?_⟩
    · rw [linesFrom, String.join_cons, String.toList_append, first, others, List.flatMap_cons]
    · rw [List.mapM_cons, head, tail]
      rfl

theorem entriesFrom_complete (offset : Nat) (found : List Record) :
    (entriesFrom offset found).flatMap Entry.bytes = found.flatMap Record.bytes := by
  rw [List.flatMap_def, entriesFrom_bytes, ← List.flatMap_def]

theorem listing_read (bytes : List UInt8) :
    ∃ lines, lines? (listing visible bytes).toList = some lines ∧
      lines.mapM readLine? = some (entriesFrom 0 (records bytes)) := by
  obtain ⟨lines, unbroken, whole, read⟩ := entriesFrom_read visible 0 (records bytes)
  refine ⟨lines, ?_, read⟩
  rw [listing, whole, lines_ended unbroken]

theorem listing_injective : Function.Injective (listing visible) := by
  intro first other same
  obtain ⟨lines, split, read⟩ := listing_read visible first
  obtain ⟨others, split', read'⟩ := listing_read visible other
  rw [same, split'] at split
  cases split
  have entries := Option.some.inj (read.symm.trans read')
  calc first
    _ = (records first).flatMap Record.bytes := (records_partition first).complete.symm
    _ = (entriesFrom 0 (records first)).flatMap Entry.bytes := (entriesFrom_complete 0 _).symm
    _ = (entriesFrom 0 (records other)).flatMap Entry.bytes := by rw [entries]
    _ = (records other).flatMap Record.bytes := entriesFrom_complete 0 _
    _ = other := (records_partition other).complete

/-- Entries that begin with the first byte, follow each other and hold all of the bytes. -/
structure Accounts (entries : List Entry) (bytes : List UInt8) : Prop where
  start : ∀ first ∈ entries.head?, first.offset = 0
  chain : entries.IsChain fun entry next => next.offset = entry.offset + entry.bytes.length
  complete : entries.flatMap Entry.bytes = bytes

theorem entriesFrom_accounts (bytes : List UInt8) :
    Accounts (entriesFrom 0 (records bytes)) bytes where
  start := by
    intro first member
    cases found : records bytes with
    | nil =>
      rw [found] at member
      cases member
    | cons record rest =>
      rw [found] at member
      cases member
      rfl
  chain := entriesFrom_chain 0 _
  complete := (entriesFrom_complete 0 _).trans (records_partition bytes).complete

/-- Any bytes are listed on as many lines as there are records and bytes behind them that begin
none. The lines account for the bytes, so no other bytes have the same listing, whichever characters
are shown as they are. -/
theorem listing_accounts (bytes : List UInt8) :
    ∃ (whole : List Record) (left : List UInt8) (lines : List (List Char)) (entries : List Entry),
      records bytes = whole ++ left.map .trailing ∧ (∀ record ∈ whole, record.IsWhole) ∧
        lines? (listing visible bytes).toList = some lines ∧ lines.mapM readLine? = some entries ∧
        entries.map Entry.bytes = whole.map Record.bytes ++ left.map ([·]) ∧
        Accounts entries bytes ∧ ∀ other, listing visible other = listing visible bytes ↔ other = bytes := by
  obtain ⟨whole, left, split, each⟩ := (records_partition bytes).whole
  obtain ⟨lines, ended, read⟩ := listing_read visible bytes
  refine ⟨whole, left, lines, _, split, each, ended, read, ?_, entriesFrom_accounts bytes,
    fun _ => (listing_injective visible).eq_iff⟩
  rw [entriesFrom_bytes, split, List.map_append, List.map_map]
  rfl

end ScentedGrid.Bytecode
