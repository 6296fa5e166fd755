import ScentedGrid.Proofs.Source.Printing
import ScentedGrid.Text.Quoted

/-! Texts that stay on one line, and the lines of a text. -/

namespace ScentedGrid

open Text

def OneLine (text : String) : Prop := '\n' ∉ text.toList

instance (text : String) : Decidable (OneLine text) := inferInstanceAs (Decidable (¬ _))

section

variable {first rest : String} {texts : List String}

theorem OneLine.append (start : OneLine first) (finish : OneLine rest) :
    OneLine (first ++ rest) := by
  rw [OneLine, String.toList_append, List.mem_append]
  exact not_or.2 ⟨start, finish⟩

theorem OneLine.join (each : ∀ text ∈ texts, OneLine text) : OneLine (String.join texts) := by
  rw [OneLine, String.toList_join, List.mem_flatMap]
  rintro ⟨text, among, broken⟩
  exact each text among broken

theorem OneLine.intercalate {separator : String} (between : OneLine separator)
    (each : ∀ text ∈ texts, OneLine text) : OneLine (separator.intercalate texts) := by
  induction texts with
  | nil =>
    rw [String.intercalate_nil]
    decide
  | cons text more ih =>
    have start := each text List.mem_cons_self
    have others := ih fun other member => each other (List.mem_cons_of_mem text member)
    cases more with
    | nil => simpa using start
    | cons next more =>
      rw [String.intercalate_cons_cons]
      exact (start.append between).append others

end

theorem oneLine_ofList {characters : List Char} (unbroken : '\n' ∉ characters) :
    OneLine (String.ofList characters) := by
  rw [OneLine, String.toList_ofList]
  exact unbroken

theorem oneLine_singleton {c : Char} (unbroken : c ≠ '\n') : OneLine (String.singleton c) := by
  rw [OneLine, String.toList_singleton, List.mem_singleton]
  exact unbroken.symm

/-! ## Numbers -/

theorem lineFeed_not_mem_digits {ten : Char} (letter : ten = 'a' ∨ ten = 'A') {base : Nat}
    (several : 2 ≤ base) (few : base ≤ 16) (number : Nat) :
    '\n' ∉ (digits base number).map (digitChar ten) := by
  have shown : ∀ digit < 16, digitChar 'a' digit ≠ '\n' ∧ digitChar 'A' digit ≠ '\n' := by
    decide
  rw [List.mem_map]
  rintro ⟨digit, among, broken⟩
  have small := Nat.lt_of_lt_of_le (digits_lt several number digit among) few
  rcases letter with rfl | rfl
  · exact (shown digit small).1 broken
  · exact (shown digit small).2 broken

theorem lineFeed_not_mem_zeroPadded {characters : List Char} (unbroken : '\n' ∉ characters)
    (width : Nat) : '\n' ∉ zeroPadded width characters := by
  rw [zeroPadded, List.mem_append, List.mem_replicate]
  rintro (⟨_, zero⟩ | broken)
  · exact absurd zero (by decide)
  · exact unbroken broken

theorem oneLine_decimal (number : Nat) : OneLine (decimal number) :=
  oneLine_ofList (lineFeed_not_mem_digits (.inl rfl) (by decide) (by decide) number)

theorem oneLine_signed (number : Int) : OneLine (signed number) := by
  rw [signed]
  split
  · exact OneLine.append (by decide) (oneLine_decimal _)
  · exact oneLine_decimal _

theorem oneLine_hexSmall (width number : Nat) : OneLine (hexSmall width number) :=
  oneLine_ofList (lineFeed_not_mem_zeroPadded
    (lineFeed_not_mem_digits (.inl rfl) (by decide) (by decide) number) width)

theorem oneLine_hexCapital (width number : Nat) : OneLine (hexCapital width number) :=
  oneLine_ofList (lineFeed_not_mem_zeroPadded
    (lineFeed_not_mem_digits (.inr rfl) (by decide) (by decide) number) width)

theorem oneLine_column {text : String} (unbroken : OneLine text) (width : Nat) :
    OneLine (column width text) := by
  refine unbroken.append (oneLine_ofList ?_)
  rw [List.mem_replicate]
  rintro ⟨_, blank⟩
  exact absurd blank (by decide)

/-! ## Quotations -/

/-- A quotation stays on one line if no character is written with a line feed. -/
theorem oneLine_quotation {escape : Char → String} (each : ∀ c, OneLine (escape c))
    (text : String) : OneLine ("\"" ++ String.join (text.toList.map escape) ++ "\"") := by
  refine OneLine.append (OneLine.append (by decide) (OneLine.join ?_)) (by decide)
  intro piece member
  obtain ⟨c, _, rfl⟩ := List.mem_map.1 member
  exact each c

theorem oneLine_escaped (visible : Char → Bool) (c : Char) : OneLine (escaped visible c) := by
  unfold escaped
  by_cases plain : isPlain c = true
  · rw [if_pos plain]
    apply oneLine_singleton
    rintro rfl
    exact absurd plain (by decide)
  · rw [if_neg plain]
    split
    · decide
    · decide
    · decide
    · decide
    · decide
    · decide
    · next other _ _ _ =>
      split
      · exact oneLine_singleton other
      · exact OneLine.append (OneLine.append (by decide) (oneLine_hexSmall _ _)) (by decide)

theorem oneLine_quoted (visible : Char → Bool) (text : String) : OneLine (quoted visible text) :=
  oneLine_quotation (oneLine_escaped visible) text

/-! ## Lines of a text -/

/-- The lines of a text, if a line feed ends each of them. -/
def lines? (characters : List Char) : Option (List (List Char)) :=
  let parts := characters.splitOn '\n'
  if parts.getLast? = some [] then some parts.dropLast else none

theorem intercalate_ended (c : Char) (lines : List (List Char)) :
    [c].intercalate (lines ++ [[]]) = lines.flatMap (· ++ [c]) := by
  induction lines with
  | nil => rfl
  | cons line rest ih =>
    rw [List.flatMap_cons, ← ih]
    cases rest with
    | nil => simp
    | cons next more => simp [List.intercalate_cons_cons]

theorem lines_ended {lines : List (List Char)} (unbroken : ∀ line ∈ lines, '\n' ∉ line) :
    lines? (lines.flatMap (· ++ ['\n'])) = some lines := by
  -- Behind the last line feed stands one more part, which is empty.
  have parts : ∀ part ∈ lines ++ [[]], '\n' ∉ part := by
    intro part member
    rcases List.mem_append.1 member with among | last
    · exact unbroken part among
    · rw [List.mem_singleton.1 last]
      exact List.not_mem_nil
  have split := List.splitOn_intercalate '\n' parts (List.concat_ne_nil _ _)
  rw [intercalate_ended] at split
  rw [lines?, split, if_pos (List.getLast?_concat ..), List.dropLast_concat]

theorem ended_of_lines {characters : List Char} {lines : List (List Char)}
    (read : lines? characters = some lines) : lines.flatMap (· ++ ['\n']) = characters := by
  unfold lines? at read
  dsimp only at read
  split at read
  · next last =>
    cases read
    have parts := List.dropLast_append_getLast? [] last
    rw [← intercalate_ended, parts, List.intercalate_splitOn]
  · cases read

end ScentedGrid
