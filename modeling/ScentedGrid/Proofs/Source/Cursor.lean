import ScentedGrid.Proofs.Location
import ScentedGrid.Proofs.Source.Descent

/-! Descents against readers. The cursor stands where an end of the text begins; what a rule does
there is the answer of a reader of that end, and the cursor comes to where the reader's rest begins.
A rule that fails in silence leaves nothing behind but its cursor. -/

namespace ScentedGrid

/-- The end of a descent that comes upon this error. -/
def SourceError.halt (error : SourceError) : Source.Descent.Halt :=
  .refused error.cause.text error.start error.stop

end ScentedGrid

namespace ScentedGrid.Source

open Text Descent

/-- Where an end of a text begins. -/
def offsetOf (text rest : List Char) : Nat := byteLength text - byteLength rest

namespace Descent

/-- The descent with its cursor before an end of the text. -/
def before (descent : Descent) (text rest : List Char) : Descent :=
  { descent with cursor := offsetOf text rest }

/-- What a rule does whose reader answers so. Where it fails, `failed` is left. -/
def reply {α : Type} (descent failed : Descent) (text : List Char) :
    Reading α → Except Halt (Option α × Descent)
  | .error refusal => .error (refusal.report text).halt
  | .ok none => .ok (none, failed)
  | .ok (some (found, after)) => .ok (some found, descent.before text after)

variable {descent : Descent}

theorem note_silent (silent : 0 < descent.silence) (name : String) :
    descent.note name = descent := if_pos (.inl silent)

theorem note_short (short : descent.cursor < descent.furthest) (name : String) :
    descent.note name = descent := if_pos (.inr short)

theorem note_ahead (loud : descent.silence = 0) (ahead : descent.furthest < descent.cursor)
    (name : String) :
    descent.note name = { descent with furthest := descent.cursor, expected := [name] } := by
  have kept : ¬ (0 < descent.silence ∨ descent.cursor < descent.furthest) := by omega
  rw [note, if_neg kept, if_pos ahead]

theorem note_there (loud : descent.silence = 0) (there : descent.cursor = descent.furthest)
    (name : String) :
    descent.note name = { descent with expected := descent.expected ++ [name] } := by
  have kept : ¬ (0 < descent.silence ∨ descent.cursor < descent.furthest) := by omega
  rw [note, if_neg kept, if_neg (by omega)]

end Descent

/-! ## Offsets of ends -/

theorem cut_append (before rest : List Char) :
    cut? (before ++ rest) (byteLength before) = some (before, rest) := by
  induction before with
  | nil => rw [List.nil_append, byteLength, List.foldr_nil, cut?]
  | cons c before ih =>
    have size := c.utf8Size_pos
    obtain ⟨offset, same⟩ : ∃ offset, byteLength (c :: before) = offset + 1 :=
      ⟨byteLength (c :: before) - 1, by rw [byteLength_cons]; omega⟩
    have behind : offset + 1 - c.utf8Size = byteLength before := by
      rw [← same, byteLength_cons, Nat.add_sub_cancel_left]
    have fits : c.utf8Size ≤ offset + 1 := by
      rw [← same, byteLength_cons]
      exact Nat.le_add_right _ _
    rw [List.cons_append, same, cut?, if_pos fits, behind, ih]
    rfl

theorem offsetOf_append (before rest : List Char) :
    offsetOf (before ++ rest) rest = byteLength before := by
  rw [offsetOf, byteLength_append, Nat.add_sub_cancel]

theorem offsetOf_self (text : List Char) : offsetOf text text = 0 := Nat.sub_self _

theorem offsetOf_nil (text : List Char) : offsetOf text [] = byteLength text := Nat.sub_zero _

variable {text rest : List Char}

theorem cut_eq_some_iff {before : List Char} {offset : Nat} :
    cut? text offset = some (before, rest) ↔
      before ++ rest = text ∧ byteLength before = offset := by
  constructor
  · intro cut
    fun_induction cut? text offset generalizing before with
    | case1 text =>
      cases cut
      exact ⟨rfl, rfl⟩
    | case2 => cases cut
    | case3 c text offset fits ih =>
      obtain ⟨⟨front, behind⟩, cut, same⟩ := Option.map_eq_some_iff.1 cut
      cases same
      obtain ⟨rfl, size⟩ := ih cut
      refine ⟨rfl, ?_⟩
      rw [byteLength_cons, size]
      omega
    | case4 => cases cut
  · rintro ⟨rfl, rfl⟩
    exact cut_append before rest

theorem cut_offsetOf (within : rest <:+ text) :
    ∃ before, cut? text (offsetOf text rest) = some (before, rest) := by
  obtain ⟨before, rfl⟩ := within
  exact ⟨before, cut_eq_some_iff.2 ⟨rfl, (offsetOf_append before rest).symm⟩⟩

/-- A text can be cut between characters and nowhere else. -/
theorem cut_isSome_iff {offset : Nat} : (cut? text offset).isSome ↔ Boundary text offset := by
  constructor
  · intro found
    obtain ⟨⟨before, rest⟩, cut⟩ := Option.isSome_iff_exists.1 found
    obtain ⟨rfl, size⟩ := cut_eq_some_iff.1 cut
    exact ⟨before, List.prefix_append before rest, size⟩
  · rintro ⟨before, ⟨rest, same⟩, size⟩
    rw [cut_eq_some_iff.2 ⟨same, size⟩]
    rfl

theorem boundary_offsetOf (within : rest <:+ text) : Boundary text (offsetOf text rest) := by
  obtain ⟨before, cut⟩ := cut_offsetOf within
  exact cut_isSome_iff.1 (Option.isSome_of_eq_some cut)

theorem offsetOf_add {part : List Char} (within : part ++ rest <:+ text) :
    offsetOf text (part ++ rest) + byteLength part = offsetOf text rest := by
  obtain ⟨before, rfl⟩ := within
  rw [offsetOf_append, ← List.append_assoc, offsetOf_append, byteLength_append]

theorem offsetOf_lt_iff {other : List Char} (within : rest <:+ text) (within' : other <:+ text) :
    offsetOf text rest < offsetOf text other ↔ other.length < rest.length := by
  rw [length_lt_iff within' within]
  obtain ⟨before, rfl⟩ := within
  have whole := byteLength_append before rest
  obtain ⟨before', same⟩ := within'
  have whole' := byteLength_append before' other
  rw [same] at whole'
  simp only [offsetOf]
  omega

/-- Where two ends begin at one place they are the same. -/
theorem offsetOf_inj {other : List Char} (within : rest <:+ text) (within' : other <:+ text) :
    offsetOf text rest = offsetOf text other ↔ rest = other := by
  constructor
  · intro same
    have front := offsetOf_lt_iff within within'
    have back := offsetOf_lt_iff within' within
    have lengths : rest.length = other.length := by omega
    have inside := List.suffix_of_suffix_length_le within within' (Nat.le_of_eq lengths)
    exact inside.eq_of_length lengths
  · rintro rfl
    rfl

namespace Rule

variable {α β : Type}

/-- The rule finds this whatever happened before it, and comes to this end. -/
def Moves (text : List Char) (rule : Rule α) (rest : List Char) (found : α) (after : List Char) :
    Prop :=
  after <:+ text ∧ ∀ descent : Descent,
    rule (descent.before text rest) = .ok (some found, descent.before text after)

/-- In silence the rule does what the answer of its reader says. -/
structure Answers (text : List Char) (rule : Rule α) (rest : List Char) (answer : Reading α) :
    Prop where
  within : ∀ found after, answer = .ok (some (found, after)) → after <:+ text
  run : ∃ left, ∀ descent : Descent, 0 < descent.silence →
    rule (descent.before text rest) = descent.reply { descent with cursor := left } text answer

/-- In silence the rule fails and leaves the cursor where it was. -/
def Fails (text : List Char) (rule : Rule α) (rest : List Char) : Prop :=
  ∀ descent : Descent, 0 < descent.silence →
    rule (descent.before text rest) = .ok (none, descent.before text rest)

variable {rule : Rule α} {next : α → Rule β} {found : α} {after : List Char}
  {descent left : Descent} {reason : Halt}

/-! ## One rule after another -/

theorem bind_found (run : rule descent = .ok (some found, left)) :
    (rule >>= next) descent = next found left := by
  simp only [Bind.bind, run]

theorem bind_failed (run : rule descent = .ok (none, left)) :
    (rule >>= next) descent = .ok (none, left) := by
  simp only [Bind.bind, run]

theorem bind_halted (run : rule descent = .error reason) :
    (rule >>= next) descent = .error reason := by
  simp only [Bind.bind, run]

theorem attempt_found (run : rule descent = .ok (some found, left)) :
    rule.attempt descent = .ok (some (some found), left) := by
  simp only [attempt, run]

theorem attempt_failed (run : rule descent = .ok (none, left)) :
    rule.attempt descent = .ok (some none, left) := by
  simp only [attempt, run]

theorem attempt_halted (run : rule descent = .error reason) :
    rule.attempt descent = .error reason := by
  simp only [attempt, run]

theorem Moves.bind (first : Moves text rule rest found after) (descent : Descent) :
    (rule >>= next) (descent.before text rest) = next found (descent.before text after) :=
  bind_found (first.2 descent)

theorem Moves.answers (moves : Moves text rule rest found after) :
    Answers text rule rest (.ok (some (found, after))) where
  within := by
    rintro _ _ ⟨⟩
    exact moves.1
  run := ⟨0, fun descent _ => moves.2 descent⟩

theorem moves_pure (within : rest <:+ text) (found : α) :
    Moves text (pure found) rest found rest := ⟨within, fun _ => rfl⟩

/-! ## The cursor -/

theorem moves_position (within : rest <:+ text) :
    Moves text position rest (offsetOf text rest) rest := ⟨within, fun _ => rfl⟩

theorem moves_ahead (within : rest <:+ text) : Moves text (ahead text) rest rest rest := by
  refine ⟨within, fun descent => ?_⟩
  obtain ⟨front, cut⟩ := cut_offsetOf within
  simp only [ahead, before, cut]

theorem moveTo_run (within : rest <:+ text) (descent : Descent) :
    moveTo text (offsetOf text rest) descent = .ok (some (), descent.before text rest) := by
  obtain ⟨front, cut⟩ := cut_offsetOf within
  simp only [moveTo, cut]
  rfl

theorem moves_advance {part : List Char} (within : part ++ rest <:+ text) :
    Moves text (advance text (byteLength part)) (part ++ rest) () rest := by
  have suffix := (List.suffix_append part rest).trans within
  refine ⟨suffix, fun descent => ?_⟩
  rw [advance, (moves_position within).bind, offsetOf_add within]
  exact moveTo_run suffix _

theorem moves_advance_char {c : Char} (within : c :: rest <:+ text) :
    Moves text (advance text c.utf8Size) (c :: rest) () rest := by
  have size : byteLength [c] = c.utf8Size := Nat.add_zero _
  rw [← size]
  exact moves_advance (show [c] ++ rest <:+ text from within)

theorem moves_positionBefore {part : List Char} (within : part ++ rest <:+ text) :
    Moves text (positionBefore (byteLength part)) rest (offsetOf text (part ++ rest)) rest := by
  refine ⟨(List.suffix_append part rest).trans within, fun descent => ?_⟩
  have start := offsetOf_add within
  have fits : byteLength part ≤ (descent.before text rest).cursor := by
    change byteLength part ≤ offsetOf text rest
    omega
  have back : (descent.before text rest).cursor - byteLength part =
      offsetOf text (part ++ rest) := by
    change offsetOf text rest - byteLength part = _
    omega
  rw [positionBefore, if_pos fits, back]

theorem moves_slice {part : List Char} (within : part ++ after <:+ text) (here : rest <:+ text) :
    Moves text (slice text (offsetOf text (part ++ after)) (offsetOf text after))
      rest part rest := by
  refine ⟨here, fun descent => ?_⟩
  obtain ⟨front, cut⟩ := cut_offsetOf within
  have size := offsetOf_add within
  have length : offsetOf text after - offsetOf text (part ++ after) = byteLength part := by omega
  have order : offsetOf text (part ++ after) ≤ offsetOf text after := by omega
  simp only [slice, cut, length, cut_append, if_pos order]

/-! ## Rules in silence -/

theorem fails_miss (name : String) : Fails text (miss name : Rule α) rest := by
  intro descent silent
  have silent' : 0 < (descent.before text rest).silence := silent
  rw [miss, note_silent silent']

theorem answers_fail : Answers text (fail : Rule α) rest (.ok none) where
  within := by rintro _ _ ⟨⟩
  run := ⟨offsetOf text rest, fun _ _ => rfl⟩

theorem Fails.answers (fails : Fails text rule rest) : Answers text rule rest (.ok none) where
  within := by rintro _ _ ⟨⟩
  run := ⟨offsetOf text rest, fails⟩

theorem answers_miss (name : String) : Answers text (miss name : Rule α) rest (.ok none) :=
  (fails_miss name).answers

theorem answers_refuse {rule : Violation} {start : List Char} :
    Answers text (refuse text rule (offsetOf text start) : Rule α) rest
      (.error ⟨rule, start, rest⟩) where
  within := by rintro _ _ ⟨⟩
  run := ⟨0, fun _ _ => rfl⟩

theorem Answers.fails (first : Answers text rule rest (.ok none)) :
    Answers text (rule >>= next) rest (.ok none) where
  within := by rintro _ _ ⟨⟩
  run := by
    obtain ⟨left, run⟩ := first.run
    exact ⟨left, fun descent silent => bind_failed (run descent silent)⟩

theorem Answers.refuses {refusal : Refusal} (first : Answers text rule rest (.error refusal)) :
    Answers text (rule >>= next) rest (.error refusal) where
  within := by rintro _ _ ⟨⟩
  run := by
    obtain ⟨left, run⟩ := first.run
    exact ⟨left, fun descent silent => bind_halted (run descent silent)⟩

theorem Answers.goes {answer : Reading β}
    (first : Answers text rule rest (.ok (some (found, after))))
    (second : Answers text (next found) after answer) :
    Answers text (rule >>= next) rest answer where
  within := second.within
  run := by
    obtain ⟨left, run⟩ := first.run
    obtain ⟨left', run'⟩ := second.run
    refine ⟨left', fun descent silent => ?_⟩
    rw [bind_found (run descent silent)]
    exact run' descent silent

theorem Fails.attempt (fails : Fails text rule rest) (within : rest <:+ text) :
    Answers text rule.attempt rest (.ok (some (none, rest))) where
  within := by
    rintro _ _ ⟨⟩
    exact within
  run := ⟨0, fun descent silent => attempt_failed (fails descent silent)⟩

theorem Answers.attempt (first : Answers text rule rest (.ok (some (found, after)))) :
    Answers text rule.attempt rest (.ok (some (some found, after))) where
  within := by
    rintro _ _ ⟨⟩
    exact first.within _ _ rfl
  run := by
    obtain ⟨left, run⟩ := first.run
    exact ⟨left, fun descent silent => attempt_found (run descent silent)⟩

theorem Answers.attempt_refuses {refusal : Refusal}
    (first : Answers text rule rest (.error refusal)) :
    Answers text rule.attempt rest (.error refusal) where
  within := by rintro _ _ ⟨⟩
  run := by
    obtain ⟨left, run⟩ := first.run
    exact ⟨left, fun descent silent => attempt_halted (run descent silent)⟩

/-- A failed attempt that the cursor is put back from. -/
theorem Answers.retreat {start : List Char} {next : Option α → Rule β} {onward : Rule β}
    {answer : Reading β} (first : Answers text rule rest (.ok none)) (within : start <:+ text)
    (back : next none = do moveTo text (offsetOf text start); onward)
    (second : Answers text onward start answer) :
    Answers text (rule.attempt >>= next) rest answer where
  within := second.within
  run := by
    obtain ⟨left, run⟩ := first.run
    obtain ⟨left', run'⟩ := second.run
    refine ⟨left', fun descent silent => ?_⟩
    rw [bind_found (attempt_failed (run descent silent)), back, bind_found (moveTo_run within _)]
    exact run' descent silent

/-- A reader that goes on from what another reads, and the rules that do the same. -/
theorem Answers.bind {read : Option (α × List Char)}
    {onward : α × List Char → Option (β × List Char)}
    (first : Answers text rule rest (.ok read))
    (second : ∀ found after, after <:+ text →
      Answers text (next found) after (.ok (onward (found, after)))) :
    Answers text (rule >>= next) rest (.ok (read.bind onward)) := by
  cases read with
  | none => exact first.fails
  | some piece => exact first.goes (second piece.1 piece.2 (first.within _ _ rfl))

theorem Answers.past {rule : Rule Unit} {next : Unit → Rule β} {read : Option (List Char)}
    {onward : List Char → Option (β × List Char)}
    (first : Answers text rule rest (.ok (read.map (Prod.mk ()))))
    (second : ∀ after, after <:+ text → Answers text (next ()) after (.ok (onward after))) :
    Answers text (rule >>= next) rest (.ok (read.bind onward)) := by
  cases read with
  | none => exact first.fails
  | some after => exact first.goes (second after (first.within _ _ rfl))

/-! ## Names -/

theorem silently_ended {result : Option α}
    (run : rule { descent with silence := descent.silence + 1 } = .ok (result, left)) :
    rule.silently descent = .ok (result, { left with silence := left.silence - 1 }) := by
  simp only [silently, run]

theorem silently_halted
    (run : rule { descent with silence := descent.silence + 1 } = .error reason) :
    rule.silently descent = .error reason := by
  simp only [silently, run]

theorem silently_run {answer : Reading α} {left : Nat}
    (run : ∀ descent : Descent, 0 < descent.silence →
      rule (descent.before text rest) = descent.reply { descent with cursor := left } text answer)
    (descent : Descent) :
    rule.silently (descent.before text rest) =
      descent.reply { descent with cursor := left } text answer := by
  -- Inside there is silence, whether there is outside or not.
  have quiet : rule { descent.before text rest with silence := descent.silence + 1 } = _ :=
    run { descent with silence := descent.silence + 1 } (Nat.succ_pos _)
  rcases answer with refusal | _ | ⟨found, after⟩
  · exact silently_halted quiet
  · exact silently_ended quiet
  · exact silently_ended quiet

/-- A named rule that fails leaves the cursor where it was, and only its name. -/
theorem named_run {answer : Reading α} (within : rest <:+ text)
    (inside : Answers text rule rest answer) (name : String) (descent : Descent) :
    named text name rule (descent.before text rest) =
      descent.reply ((descent.before text rest).note name) text answer := by
  obtain ⟨left, run⟩ := inside.run
  have quiet := silently_run run descent
  rw [named, (moves_position within).bind]
  rcases answer with refusal | _ | ⟨found, after⟩
  · exact bind_halted (attempt_halted quiet)
  · refine (bind_found (attempt_failed quiet)).trans ?_
    exact bind_found (moveTo_run within _)
  · exact bind_found (attempt_found quiet)

theorem fails_named (within : rest <:+ text) (inside : Answers text rule rest (.ok none))
    (name : String) : Fails text (named text name rule) rest := by
  intro descent silent
  have silent' : 0 < (descent.before text rest).silence := silent
  rw [named_run within inside, note_silent silent']
  rfl

theorem answers_named {answer : Reading α} (within : rest <:+ text)
    (inside : Answers text rule rest answer) (name : String) :
    Answers text (named text name rule) rest answer := by
  rcases answer with refusal | _ | ⟨found, after⟩
  · exact ⟨inside.within, 0, fun descent _ => named_run within inside name descent⟩
  · exact (fails_named within inside name).answers
  · exact ⟨inside.within, 0, fun descent _ => named_run within inside name descent⟩

end Rule
end ScentedGrid.Source
