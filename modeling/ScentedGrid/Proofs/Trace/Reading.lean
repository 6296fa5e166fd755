import ScentedGrid.Proofs.OneLine
import ScentedGrid.Trace

/-! Compact JSON read back, one character after the other. What is open around the place of reading
is kept in frames, so a value in a list is read like a value that stands alone. The reader takes
whatever is written; of other texts it takes some that are no JSON, such as lists without commas. -/

namespace ScentedGrid.Json

open Text Grammar Source

/-! ## Values -/

/-- What holds of a list or record if it holds of all values in it holds of every value. -/
theorem induction {motive : Json → Prop} (number : ∀ value, motive (.number value))
    (text : ∀ value, motive (.text value)) (flag : ∀ value, motive (.flag value))
    (list : ∀ values, (∀ value ∈ values, motive value) → motive (.list values))
    (record : ∀ fields, (∀ field ∈ fields, motive field.2) → motive (.record fields))
    (json : Json) : motive json :=
  @Json.rec motive (fun values => ∀ value ∈ values, motive value)
    (fun fields => ∀ field ∈ fields, motive field.2) (fun field => motive field.2)
    number text flag list record
    (fun _ member => absurd member List.not_mem_nil)
    (fun _ _ first others => List.forall_mem_cons.2 ⟨first, others⟩)
    (fun _ member => absurd member List.not_mem_nil)
    (fun _ _ first others => List.forall_mem_cons.2 ⟨first, others⟩)
    (fun _ _ value => value) json

def renderField (field : String × Json) : String := quotedText field.1 ++ ":" ++ render field.2

theorem renderValues_eq (values : List Json) : renderValues values = values.map render := by
  induction values with
  | nil => rfl
  | cons value rest ih => rw [renderValues, ih, List.map_cons]

theorem renderFields_eq (fields : List (String × Json)) :
    renderFields fields = fields.map renderField := by
  induction fields with
  | nil => rfl
  | cons field rest ih =>
    rw [renderFields, ih, List.map_cons]
    rfl

/-! ## The reader -/

/-- A list or a record that is not ended, with what it holds so far, or a record of which a field
has its name and not its value. -/
inductive Frame where
  | list (held : List Json)
  | record (held : List (String × Json))
  | field (held : List (String × Json)) (name : String)

/-- Where a field may begin, a text is its name. -/
def place (value : Json) : List Frame → Option (List Frame)
  | .list held :: outer => some (.list (held ++ [value]) :: outer)
  | .field held name :: outer => some (.record (held ++ [(name, value)]) :: outer)
  | .record held :: outer =>
    match value with
    | .text name => some (.field held name :: outer)
    | _ => none
  | [] => none

/-- What the next character belongs to. The characters that were read of a word or a quotation
stand in reverse. -/
inductive Mode where
  | between
  | word (taken : List Char)
  | quotation (taken : List Char)
  | escape (taken : List Char)
  | code (taken : List Char) (left sum : Nat)

structure Reading where
  mode : Mode
  frames : List Frame

def natural? (digits : List Char) : Option Nat :=
  if !digits.isEmpty && digits.all Char.isDigit then some (decimalValue digits) else none

/-- What stands in a text without quotes. -/
def word? : List Char → Option Json
  | '-' :: digits => (natural? digits).map fun value : Nat => .number (-(value : Int))
  | ['t', 'r', 'u', 'e'] => some (.flag true)
  | ['f', 'a', 'l', 's', 'e'] => some (.flag false)
  | digits => (natural? digits).map fun value : Nat => .number (value : Int)

def endsWord (c : Char) : Bool := c == ',' || c == ']' || c == '\x7d'

/-- What a character does that belongs to nothing before it. -/
def begin (frames : List Frame) : Char → Option Reading
  | '[' => some ⟨.between, .list [] :: frames⟩
  | '\x7b' => some ⟨.between, .record [] :: frames⟩
  | ']' =>
    match frames with
    | .list held :: outer => (place (.list held) outer).map (⟨.between, ·⟩)
    | _ => none
  | '\x7d' =>
    match frames with
    | .record held :: outer => (place (.record held) outer).map (⟨.between, ·⟩)
    | _ => none
  | ',' => some ⟨.between, frames⟩
  | ':' => some ⟨.between, frames⟩
  | '"' => some ⟨.quotation [], frames⟩
  | c => some ⟨.word [c], frames⟩

def unescaped? : Char → Option Char
  | '"' => some '"'
  | '\\' => some '\\'
  | 'b' => some '\x08'
  | 'f' => some '\x0c'
  | 'n' => some '\n'
  | 'r' => some '\r'
  | 't' => some '\t'
  | _ => none

def hexValue (c : Char) : Nat :=
  if c.isDigit then c.toNat - '0'.toNat else c.toNat - 'a'.toNat + 10

def step : Reading → Char → Option Reading
  | ⟨.between, frames⟩, c => begin frames c
  | ⟨.word taken, frames⟩, c =>
    if endsWord c then
      (word? taken.reverse).bind fun value => (place value frames).bind (begin · c)
    else some ⟨.word (c :: taken), frames⟩
  | ⟨.quotation taken, frames⟩, c =>
    if c = '"' then (place (.text (String.ofList taken.reverse)) frames).map (⟨.between, ·⟩)
    else if c = '\\' then some ⟨.escape taken, frames⟩
    else some ⟨.quotation (c :: taken), frames⟩
  | ⟨.escape taken, frames⟩, c =>
    if c = 'u' then some ⟨.code taken 3 0, frames⟩
    else (unescaped? c).map fun meant => ⟨.quotation (meant :: taken), frames⟩
  | ⟨.code taken left sum, frames⟩, c =>
    match left with
    | 0 => some ⟨.quotation (Char.ofNat (16 * sum + hexValue c) :: taken), frames⟩
    | left + 1 => some ⟨.code taken left (16 * sum + hexValue c), frames⟩

def run (reading : Reading) (characters : List Char) : Option Reading :=
  characters.foldlM step reading

/-- Reads one value, as if it stood in a list with a comma behind it. -/
def read? (characters : List Char) : Option Json :=
  match run ⟨.between, [.list []]⟩ (characters ++ [',']) with
  | some ⟨.between, [.list [value]]⟩ => some value
  | _ => none

theorem run_cons (reading : Reading) (c : Char) (rest : List Char) :
    run reading (c :: rest) = (step reading c).bind (run · rest) :=
  List.foldlM_cons

/-! ## Quotations -/

section

variable {taken : List Char} {frames : List Frame}

theorem run_code {c : Char} (control : c.toNat < 0x20) (rest : List Char) :
    run ⟨.code taken 3 0, frames⟩ ((hexSmall 4 c.toNat).toList ++ rest) =
      run ⟨.quotation (c :: taken), frames⟩ rest := by
  have spelled : ∀ number < 0x20, (hexSmall 4 number).toList =
      ['0', '0', digitChar 'a' (number / 16), digitChar 'a' (number % 16)] := by
    decide +kernel
  have value : ∀ digit < 16, hexValue (digitChar 'a' digit) = digit := by decide
  have zero : hexValue '0' = 0 := rfl
  have sum : 16 * (c.toNat / 16) + c.toNat % 16 = c.toNat := Nat.div_add_mod c.toNat 16
  rw [spelled _ control]
  simp only [List.cons_append, List.nil_append, run_cons, step, Option.bind_some, zero,
    value (c.toNat / 16) (by omega), value (c.toNat % 16) (by omega), Nat.mul_zero, Nat.zero_add,
    sum, Char.ofNat_toNat]

/-- However a character is written in a quotation, it is read as it is. -/
theorem run_escaped (c : Char) (rest : List Char) :
    run ⟨.quotation taken, frames⟩ ((escaped c).toList ++ rest) =
      run ⟨.quotation (c :: taken), frames⟩ rest := by
  unfold escaped
  split
  · rfl
  · rfl
  · rfl
  · rfl
  · rfl
  · rfl
  · rfl
  · next quote backslash _ _ _ _ _ =>
    split
    · next control =>
      rw [String.toList_append, List.append_assoc]
      exact run_code control rest
    · rw [String.toList_singleton, List.singleton_append, run_cons, step, if_neg quote,
        if_neg backslash]
      rfl

theorem run_quotation (taken characters : List Char) (frames : List Frame) (rest : List Char) :
    run ⟨.quotation taken, frames⟩
        ((String.join (characters.map escaped)).toList ++ '"' :: rest) =
      (place (.text (String.ofList (taken.reverse ++ characters))) frames).bind fun frames =>
        run ⟨.between, frames⟩ rest := by
  induction characters generalizing taken with
  | nil =>
    rw [List.append_nil, List.map_nil, String.join_nil]
    change run _ ('"' :: rest) = _
    rw [run_cons, step, if_pos rfl, Option.bind_map]
    rfl
  | cons c more ih =>
    rw [List.map_cons, String.join_cons, String.toList_append, List.append_assoc, run_escaped, ih,
      List.reverse_cons, List.append_assoc, List.singleton_append]

theorem run_quotedText (text : String) (frames : List Frame) (rest : List Char) :
    run ⟨.between, frames⟩ ((quotedText text).toList ++ rest) =
      (place (.text text) frames).bind fun frames => run ⟨.between, frames⟩ rest := by
  have written : (quotedText text).toList ++ rest =
      '"' :: ((String.join (text.toList.map escaped)).toList ++ '"' :: rest) := by
    simp [quotedText]
  have quoted := run_quotation [] text.toList frames rest
  rw [List.reverse_nil, List.nil_append, String.ofList_toList] at quoted
  rw [written, ← quoted]
  rfl

end

/-! ## Words -/

def isPlain (c : Char) : Bool := c.isAlphanum || c == '-'

theorem begin_plain {c : Char} (plain : isPlain c = true) (frames : List Frame) :
    begin frames c = some ⟨.word [c], frames⟩ := by
  unfold begin
  split
  case h_8 => rfl
  all_goals exact absurd plain (by decide)

theorem endsWord_plain {c : Char} (plain : isPlain c = true) : endsWord c = false := by
  apply Bool.eq_false_iff.2
  intro ends
  simp only [endsWord, Bool.or_eq_true, beq_iff_eq] at ends
  rcases ends with (rfl | rfl) | rfl
  all_goals exact absurd plain (by decide)

theorem run_word {word : List Char} (plain : ∀ c ∈ word, isPlain c = true) (taken : List Char)
    (frames : List Frame) (rest : List Char) :
    run ⟨.word taken, frames⟩ (word ++ rest) = run ⟨.word (word.reverse ++ taken), frames⟩ rest := by
  induction word generalizing taken with
  | nil => rfl
  | cons c more ih =>
    have first := endsWord_plain (plain c List.mem_cons_self)
    have others := ih fun d member => plain d (List.mem_cons_of_mem c member)
    rw [List.cons_append, run_cons, step, if_neg (by simp [first]), Option.bind_some, others,
      List.reverse_cons, List.append_assoc, List.singleton_append]

theorem run_plain {word : List Char} {value : Json} (filled : word ≠ [])
    (plain : ∀ c ∈ word, isPlain c = true) (read : word? word = some value) (frames : List Frame)
    {c : Char} (ends : endsWord c = true) (rest : List Char) :
    run ⟨.between, frames⟩ (word ++ c :: rest) =
      (place value frames).bind fun frames => run ⟨.between, frames⟩ (c :: rest) := by
  cases word with
  | nil => exact absurd rfl filled
  | cons first more =>
    have start := begin_plain (plain first List.mem_cons_self) frames
    have others : ∀ d ∈ more, isPlain d = true :=
      fun d member => plain d (List.mem_cons_of_mem first member)
    have whole : (more.reverse ++ [first]).reverse = first :: more := by simp
    rw [List.cons_append, run_cons, step, start, Option.bind_some, run_word others, run_cons, step,
      if_pos ends, whole, read, Option.bind_some, Option.bind_assoc]
    rfl

theorem natural_decimal (number : Nat) : natural? (decimal number).toList = some number := by
  have numeral := decimal_numeral number
  have digits : ∀ c ∈ (decimal number).toList, c.isDigit = true :=
    fun c member => (isDigit_iff c).2 (numeral.digits c member)
  rw [natural?, if_pos, numeral.exact]
  simp [numeral.filled, List.all_eq_true.2 digits]

theorem word_signed (number : Int) : word? (signed number).toList = some (.number number) := by
  by_cases negative : number < 0
  · have value : -(number.natAbs : Int) = number := by omega
    rw [signed, if_pos negative, String.toList_append]
    change (natural? (decimal number.natAbs).toList).map _ = _
    rw [natural_decimal, Option.map_some, value]
  · have value : (number.natAbs : Int) = number := by omega
    have numeral := decimal_numeral number.natAbs
    have read := natural_decimal number.natAbs
    rw [signed, if_neg negative]
    -- Digits are neither a sign nor the letters of a flag, so the last case is theirs.
    unfold word?
    split
    · next digits written =>
      have sign := numeral.digits '-' (by rw [written]; exact List.mem_cons_self)
      exact absurd sign (by decide)
    · next written =>
      have letter := numeral.digits 't' (by rw [written]; exact List.mem_cons_self)
      exact absurd letter (by decide)
    · next written =>
      have letter := numeral.digits 'f' (by rw [written]; exact List.mem_cons_self)
      exact absurd letter (by decide)
    · rw [read, Option.map_some, value]

theorem plain_signed (number : Int) :
    (signed number).toList ≠ [] ∧ ∀ c ∈ (signed number).toList, isPlain c = true := by
  have numeral := decimal_numeral number.natAbs
  have digits : ∀ c ∈ (decimal number.natAbs).toList, isPlain c = true := by
    intro c member
    have digit := (isDigit_iff c).2 (numeral.digits c member)
    simp [isPlain, Char.isAlphanum, digit]
  rw [signed]
  split
  · rw [String.toList_append]
    refine ⟨List.append_ne_nil_of_right_ne_nil _ numeral.filled, ?_⟩
    intro c member
    rcases List.mem_append.1 member with sign | digit
    · rw [List.mem_singleton.1 sign]
      decide
    · exact digits c digit
  · exact ⟨numeral.filled, digits⟩

theorem word_flag (value : Bool) : word? (render (.flag value)).toList = some (.flag value) := by
  cases value <;> rfl

theorem plain_flag (value : Bool) :
    (render (.flag value)).toList ≠ [] ∧ ∀ c ∈ (render (.flag value)).toList, isPlain c = true := by
  cases value with
  | false => exact ⟨List.cons_ne_nil _ _, List.all_eq_true.1 rfl⟩
  | true => exact ⟨List.cons_ne_nil _ _, List.all_eq_true.1 rfl⟩

/-! ## Lists and records -/

/-- The value is read wherever it is written, if a character that ends a word comes after it. -/
def Reads (json : Json) : Prop :=
  ∀ (frames : List Frame) (c : Char) (rest : List Char), endsWord c = true →
    run ⟨.between, frames⟩ (json.render.toList ++ c :: rest) =
      (place json frames).bind fun frames => run ⟨.between, frames⟩ (c :: rest)

/-- Items with commas between them are read one after the other. -/
theorem run_items {α : Type} (write : α → String) (frame : List α → Frame) {outer : List Frame}
    {items : List α}
    (each : ∀ item ∈ items, ∀ held c rest, endsWord c = true →
      run ⟨.between, frame held :: outer⟩ ((write item).toList ++ c :: rest) =
        run ⟨.between, frame (held ++ [item]) :: outer⟩ (c :: rest))
    (held : List α) (c : Char) (rest : List Char) (ends : endsWord c = true) :
    run ⟨.between, frame held :: outer⟩
        ((",".intercalate (items.map write)).toList ++ c :: rest) =
      run ⟨.between, frame (held ++ items) :: outer⟩ (c :: rest) := by
  induction items generalizing held with
  | nil =>
    rw [List.map_nil, String.intercalate_nil, List.append_nil]
    rfl
  | cons item more ih =>
    have first := each item List.mem_cons_self held
    have others := ih fun other member => each other (List.mem_cons_of_mem item member)
    cases more with
    | nil =>
      rw [List.map_cons, List.map_nil, String.intercalate_singleton]
      exact first c rest ends
    | cons next more =>
      rw [List.map_cons, List.map_cons, String.intercalate_cons_cons, ← List.map_cons,
        String.toList_append, String.toList_append, List.append_assoc, List.append_assoc]
      -- The comma ends the item and is passed over.
      refine (first ',' _ rfl).trans ?_
      have onward := others (held ++ [item])
      rw [List.append_assoc, List.singleton_append] at onward
      exact onward

theorem reads_list {values : List Json} (each : ∀ value ∈ values, Reads value) :
    Reads (.list values) := by
  intro frames c rest _
  have value : ∀ value ∈ values, ∀ held c rest, endsWord c = true →
      run ⟨.between, .list held :: frames⟩ (value.render.toList ++ c :: rest) =
        run ⟨.between, .list (held ++ [value]) :: frames⟩ (c :: rest) :=
    fun value member held => each value member (.list held :: frames)
  have held := run_items render .list value [] ']' (c :: rest) rfl
  have written : (render (.list values)).toList ++ c :: rest =
      '[' :: ((",".intercalate (values.map render)).toList ++ ']' :: c :: rest) := by
    simp [render, renderValues_eq]
  rw [written, run_cons]
  change run ⟨.between, .list [] :: frames⟩ _ = _
  rw [held, run_cons]
  change ((place (.list values) frames).map _).bind _ = _
  rw [Option.bind_map]
  rfl

theorem reads_record {fields : List (String × Json)} (each : ∀ field ∈ fields, Reads field.2) :
    Reads (.record fields) := by
  intro frames c rest _
  have field : ∀ field ∈ fields, ∀ held c rest, endsWord c = true →
      run ⟨.between, .record held :: frames⟩ ((renderField field).toList ++ c :: rest) =
        run ⟨.between, .record (held ++ [field]) :: frames⟩ (c :: rest) := by
    intro field member held c rest ends
    have value := each field member (.field held field.1 :: frames) c rest ends
    simp only [renderField, String.toList_append, List.append_assoc]
    rw [run_quotedText, place, Option.bind_some]
    exact value
  have held := run_items renderField .record field [] '\x7d' (c :: rest) rfl
  have written : (render (.record fields)).toList ++ c :: rest =
      '\x7b' :: ((",".intercalate (fields.map renderField)).toList ++ '\x7d' :: c :: rest) := by
    simp [render, renderFields_eq]
  rw [written, run_cons]
  change run ⟨.between, .record [] :: frames⟩ _ = _
  rw [held, run_cons]
  change ((place (.record fields) frames).map _).bind _ = _
  rw [Option.bind_map]
  rfl

theorem reads (json : Json) : Reads json := by
  induction json using induction with
  | number value =>
    intro frames c rest ends
    rw [render]
    obtain ⟨filled, plain⟩ := plain_signed value
    exact run_plain filled plain (word_signed value) frames ends rest
  | text value =>
    intro frames c rest _
    rw [render]
    exact run_quotedText value frames (c :: rest)
  | flag value =>
    intro frames c rest ends
    obtain ⟨filled, plain⟩ := plain_flag value
    exact run_plain filled plain (word_flag value) frames ends rest
  | list values each => exact reads_list each
  | record fields each => exact reads_record each

/-- What is written is read as it is. -/
theorem read_render (json : Json) : read? json.render.toList = some json := by
  have read := reads json [.list []] ',' [] rfl
  rw [read?, read]
  rfl

example : read? "[-12,\x7b\"a\":\"\\u001f\\\"\"\x7d]".toList =
    some (.list [.number (-12), .record [("a", .text "\x1f\"")]]) := rfl

end ScentedGrid.Json
