import ScentedGrid.Text.Location
import Mathlib.Data.List.DropRight
import Mathlib.Data.Prod.Lex
import Mathlib.Data.Set.Operations
import Mathlib.Order.Bounds.Basic

/-! Places in a text. A part of a text has as many bytes as its characters together, and where a part
ends is the same place whatever comes behind it. A location counts the lines and the characters of
the part that starts before its offset. Every further character moves it on, to the next column or to
the next line, so no two places between characters share a line and a column. -/

namespace ScentedGrid.Text

/-! ## Bytes of a part -/

theorem byteLength_cons (c : Char) (text : List Char) :
    byteLength (c :: text) = c.utf8Size + byteLength text := rfl

theorem byteLength_append (first second : List Char) :
    byteLength (first ++ second) = byteLength first + byteLength second := by
  induction first with
  | nil => exact (Nat.zero_add _).symm
  | cons c rest ih =>
    rw [List.cons_append, byteLength_cons, byteLength_cons, ih]
    omega

theorem byteLength_pos {text : List Char} (filled : text ≠ []) : 0 < byteLength text := by
  cases text with
  | nil => exact absurd rfl filled
  | cons c rest =>
    have size := c.utf8Size_pos
    rw [byteLength_cons]
    omega

theorem byteLength_mono {part whole : List Char} (within : part <+: whole) :
    byteLength part ≤ byteLength whole := by
  obtain ⟨rest, rfl⟩ := within
  rw [byteLength_append]
  omega

theorem eq_of_byteLength_le {part whole : List Char} (within : part <+: whole)
    (reaches : byteLength whole ≤ byteLength part) : part = whole := by
  obtain ⟨rest, rfl⟩ := within
  by_cases empty : rest = []
  · rw [empty, List.append_nil]
  · have filled := byteLength_pos empty
    rw [byteLength_append] at reaches
    omega

/-- Of two ends of one text the longer one has more bytes. -/
theorem length_lt_iff {text rest other : List Char} (suffix : rest <:+ text)
    (suffix' : other <:+ text) :
    rest.length < other.length ↔ byteLength rest < byteLength other := by
  rcases List.suffix_or_suffix_of_suffix suffix suffix' with ⟨more, rfl⟩ | ⟨more, rfl⟩
  · rw [List.length_append, byteLength_append]
    cases more with
    | nil => simp [byteLength]
    | cons c more =>
      have filled := byteLength_pos (List.cons_ne_nil c more)
      rw [List.length_cons]
      omega
  · rw [List.length_append, byteLength_append]
    omega

/-- An offset between two characters, or at an end of the text. -/
def Boundary (text : List Char) (offset : Nat) : Prop :=
  ∃ before, before <+: text ∧ byteLength before = offset

namespace Location

end Location

/-- The place that an offset is moved up to: the first one between characters at or behind it, or
the end of a text that has none there. -/
def RoundsUp (text : List Char) (offset place : Nat) : Prop :=
  IsLeast {boundary | Boundary text boundary ∧ offset ≤ boundary} place ∨
    (∀ boundary, Boundary text boundary → boundary < offset) ∧ place = byteLength text

/-! ## What an offset passes -/

/-- The characters that start before an offset. -/
def passed : List Char → Nat → List Char
  | [], _ => []
  | c :: rest, offset => if offset = 0 then [] else c :: passed rest (offset - c.utf8Size)

theorem passed_within (text : List Char) (offset : Nat) : passed text offset <+: text := by
  fun_induction passed text offset with
  | case1 => exact List.prefix_refl []
  | case2 => exact List.nil_prefix
  | case3 c rest offset inside ih => exact List.cons_prefix_cons.2 ⟨rfl, ih⟩

theorem le_byteLength_passed {text : List Char} {offset : Nat}
    (within : offset ≤ byteLength text) : offset ≤ byteLength (passed text offset) := by
  fun_induction passed text offset with
  | case1 => exact within
  | case2 => exact Nat.zero_le _
  | case3 c rest offset inside ih =>
    rw [byteLength_cons] at within ⊢
    have further := ih (by omega)
    omega

/-- A part of the text that reaches an offset holds all characters that start before it. -/
theorem passed_within_of_le {text part : List Char} {offset : Nat} (within : part <+: text)
    (reaches : offset ≤ byteLength part) : passed text offset <+: part := by
  fun_induction passed text offset generalizing part with
  | case1 => exact List.nil_prefix
  | case2 => exact List.nil_prefix
  | case3 c rest offset inside ih =>
    cases part with
    | nil => exact absurd (Nat.le_zero.1 reaches) inside
    | cons d part =>
      obtain ⟨rfl, tail⟩ := List.cons_prefix_cons.1 within
      rw [byteLength_cons] at reaches
      exact List.cons_prefix_cons.2 ⟨rfl, ih tail (by omega)⟩

theorem passed_of_past {text : List Char} {offset : Nat} (past : byteLength text ≤ offset) :
    passed text offset = text := by
  fun_induction passed text offset with
  | case1 => rfl
  | case2 c rest =>
    have size := c.utf8Size_pos
    rw [byteLength_cons] at past
    omega
  | case3 c rest offset inside ih =>
    rw [byteLength_cons] at past
    rw [ih (by omega)]

theorem passed_boundary {text part : List Char} (within : part <+: text) :
    passed text (byteLength part) = part :=
  eq_of_byteLength_le (passed_within_of_le within (Nat.le_refl _))
    (le_byteLength_passed (byteLength_mono within))

theorem passed_mono (text : List Char) {first second : Nat} (le : first ≤ second) :
    passed text first <+: passed text second := by
  by_cases within : second ≤ byteLength text
  · exact passed_within_of_le (passed_within text second)
      (Nat.le_trans le (le_byteLength_passed within))
  · rw [passed_of_past (Nat.le_of_not_le within)]
    exact passed_within text first

theorem passed_roundsUp (text : List Char) (offset : Nat) :
    RoundsUp text offset (byteLength (passed text offset)) := by
  by_cases within : offset ≤ byteLength text
  · left
    refine ⟨⟨⟨_, passed_within text offset, rfl⟩, le_byteLength_passed within⟩, ?_⟩
    rintro _ ⟨⟨part, prior, rfl⟩, reaches⟩
    exact byteLength_mono (passed_within_of_le prior reaches)
  · right
    refine ⟨?_, by rw [passed_of_past (Nat.le_of_not_le within)]⟩
    rintro _ ⟨part, prior, rfl⟩
    have short := byteLength_mono prior
    omega

/-! ## Counting -/

/-- The line and the column behind a part of a text. -/
def lineColumn (part : List Char) : Nat × Nat :=
  (1 + part.count '\n', 1 + (part.rtakeWhile (· != '\n')).length)

theorem lineColumn_lineFeed (part : List Char) :
    lineColumn (part ++ ['\n']) = ((lineColumn part).1 + 1, 1) := by
  simp [lineColumn, Nat.add_assoc]

theorem lineColumn_other {c : Char} (other : c ≠ '\n') (part : List Char) :
    lineColumn (part ++ [c]) = ((lineColumn part).1, (lineColumn part).2 + 1) := by
  simp [lineColumn, List.count_append, other, Nat.add_assoc]

/-- The next character leads to a later line, or to a later column of the same line. -/
theorem lineColumn_lt (part : List Char) (c : Char) :
    toLex (lineColumn part) < toLex (lineColumn (part ++ [c])) := by
  by_cases feed : c = '\n'
  · rw [feed, lineColumn_lineFeed]
    exact Prod.Lex.toLex_lt_toLex.2 (.inl (Nat.lt_succ_self _))
  · rw [lineColumn_other feed]
    exact Prod.Lex.toLex_lt_toLex.2 (.inr ⟨rfl, Nat.lt_succ_self _⟩)

theorem lineColumn_mono {part whole : List Char} (within : part <+: whole) :
    toLex (lineColumn part) ≤ toLex (lineColumn whole) := by
  obtain ⟨rest, rfl⟩ := within
  induction rest using List.reverseRecOn with
  | nil => rw [List.append_nil]
  | append_singleton rest c ih =>
    rw [← List.append_assoc]
    exact ih.trans (lineColumn_lt _ c).le

theorem lineColumn_strict {part whole : List Char} (within : part <+: whole)
    (apart : part ≠ whole) : toLex (lineColumn part) < toLex (lineColumn whole) := by
  obtain ⟨rest, rfl⟩ := within
  cases rest with
  | nil => exact absurd (List.append_nil part).symm apart
  | cons c rest =>
    have further : part ++ [c] <+: part ++ c :: rest := ⟨rest, by simp⟩
    exact (lineColumn_lt part c).trans_le (lineColumn_mono further)

namespace Location

/-- The line and column carried along are those behind the characters that were passed. -/
theorem walk_lineColumn (seen text : List Char) (offset : Nat) :
    walk (lineColumn seen).1 (lineColumn seen).2 text offset =
      lineColumn (seen ++ passed text offset) := by
  induction text generalizing seen offset with
  | nil => rw [walk, passed, List.append_nil]
  | cons c rest ih =>
    by_cases start : offset = 0
    · rw [walk, passed, if_pos start, if_pos start, List.append_nil]
    · have onward := ih (seen ++ [c]) (offset - c.utf8Size)
      rw [walk, passed, if_neg start, if_neg start, List.append_cons, ← onward]
      by_cases feed : c = '\n'
      · rw [if_pos feed, feed, lineColumn_lineFeed]
      · rw [if_neg feed, lineColumn_other feed]

theorem ofOffset_lineColumn (text : List Char) (offset : Nat) :
    ((ofOffset text offset).line, (ofOffset text offset).column) =
      lineColumn (passed text offset) := by
  have start : lineColumn [] = (1, 1) := rfl
  have walked := walk_lineColumn [] text offset
  rw [start, List.nil_append] at walked
  rw [ofOffset, walked]

/-- A location counts the line feeds of the text in front of its place, and the characters there
behind the last of them; its place is its offset, moved up to the end of a character that the offset
is inside of and back to the end of the text. So locations further on in a text are later ones, and
different places between characters have different lines or columns. -/
theorem ofOffset_identifies (text : List Char) :
    (∀ offset, ∃ before, before <+: text ∧ RoundsUp text offset (byteLength before) ∧
      (ofOffset text offset).line = 1 + before.count '\n' ∧
      (ofOffset text offset).column = 1 + (before.rtakeWhile (· != '\n')).length) ∧
    Monotone (fun offset =>
      toLex ((ofOffset text offset).line, (ofOffset text offset).column)) ∧
    Set.InjOn (fun offset => ((ofOffset text offset).line, (ofOffset text offset).column))
      {offset | Boundary text offset} := by
  simp only [ofOffset_lineColumn]
  refine ⟨fun offset => ?_, fun first second le => lineColumn_mono (passed_mono text le), ?_⟩
  · have counted := ofOffset_lineColumn text offset
    exact ⟨passed text offset, passed_within text offset, passed_roundsUp text offset,
      congrArg Prod.fst counted, congrArg Prod.snd counted⟩
  · rintro _ ⟨part, within, rfl⟩ _ ⟨other, within', rfl⟩ same
    simp only [passed_boundary within, passed_boundary within'] at same
    by_contra apart
    have differ : part ≠ other := fun equal => apart (congrArg byteLength equal)
    rcases List.prefix_or_prefix_of_prefix within within' with inside | inside
    · exact (lineColumn_strict inside differ).ne (congrArg toLex same)
    · exact (lineColumn_strict inside differ.symm).ne (congrArg toLex same.symm)

/-- Before the second character, inside it, behind it, and far behind the text. -/
example : [2, 3, 5, 9].map (ofOffset "é€\nx".toList) =
    [⟨2, 1, 2⟩, ⟨3, 1, 3⟩, ⟨5, 1, 3⟩, ⟨9, 2, 2⟩] := by decide

end Location

end ScentedGrid.Text
