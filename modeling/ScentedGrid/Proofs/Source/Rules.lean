import ScentedGrid.Proofs.Source.Cursor

/-! The rules for pieces of mission text. Each of them answers as the reader of its piece. -/

namespace ScentedGrid.Source

open Text Descent

/-! ## Readers by what they leave -/

theorem dropWhile_eq_self_iff (inside : Char → Bool) (text : List Char) :
    text.dropWhile inside = text ↔ text.takeWhile inside = [] :=
  List.dropWhile_eq_self_iff.trans List.takeWhile_eq_nil_iff.symm

theorem spaces_eq (text : List Char) :
    spaces? text =
      if text.dropWhile (· == ' ') = text then none else some (text.dropWhile (· == ' ')) := by
  simp only [dropWhile_eq_self_iff]
  unfold spaces?
  split
  · rfl
  · next other =>
    cases text with
    | nil => rfl
    | cons c rest =>
      have differs : (c == ' ') = false := by
        apply beq_eq_false_iff_ne.2
        rintro rfl
        exact other rest rfl
      rw [List.takeWhile_cons, differs]
      rfl

theorem isPrefixOf_eq (word text : List Char) :
    word.isPrefixOf text = (word? word text).isSome := by
  fun_induction word? word text with
  | case1 text => rfl
  | case2 => rfl
  | case3 letter word text ih => rw [List.isPrefixOf_cons_cons_self, ih]
  | case4 letter word c text differs =>
    rw [List.isPrefixOf, beq_eq_false_iff_ne.2 differs]
    rfl

theorem word_cons_none {letter : Char} {text : List Char}
    (differs : ∀ rest, text = letter :: rest → False) (word : List Char) :
    word? (letter :: word) text = none := by
  cases text with
  | nil => rfl
  | cons c rest =>
    rw [word?, if_neg]
    rintro rfl
    exact differs rest rfl

theorem commandRun_cons_none {c : Char} (other : Command.ofLetter? c = none) (text : List Char) :
    commandRun (c :: text) = ([], c :: text) := by
  simp [commandRun, other]

theorem commandRun_cons_some {c : Char} {command : Command}
    (letter : Command.ofLetter? c = some command) (text : List Char) :
    commandRun (c :: text) = (command :: (commandRun text).1, (commandRun text).2) := by
  simp [commandRun, letter]

theorem lineEnd_eq (text : List Char) :
    lineEnd? text = Rule.lineEnds.findSome? fun mark => word? mark.toList text := by
  have letters : Rule.lineEnds.map String.toList =
      [['\n'], ['\r', '\n'], ['\r'], ['\u2028'], ['\u2029']] := by decide +kernel
  have same : (Rule.lineEnds.findSome? fun mark => word? mark.toList text) =
      (Rule.lineEnds.map String.toList).findSome? fun mark => word? mark text := by
    rw [List.findSome?_map]
    rfl
  rw [same, letters]
  unfold lineEnd?
  split
  case h_6 feed pair carriage line paragraph =>
    simp only [List.findSome?_cons, List.findSome?_nil, word_cons_none feed,
      word_cons_none carriage, word_cons_none line, word_cons_none paragraph]
  case h_3 after alone =>
    -- The pair comes before its first character in the list.
    have pair : word? ['\r', '\n'] ('\r' :: after) = none := word_cons_none alone []
    simp only [List.findSome?_cons, pair]
    rfl
  all_goals rfl

theorem skipBlanks_skipBlanks (text : List Char) : skipBlanks (skipBlanks text) = skipBlanks text :=
  (stops_dropWhile text).dropWhile_eq_self

/-- The rule counts bytes where the reader counts characters. -/
theorem byteLength_name {name : List Char} (named : ∀ c ∈ name, isNameChar c = true) :
    byteLength name = name.length := by
  induction name with
  | nil => rfl
  | cons c rest ih =>
    have ascii := ((isNameChar_iff c).1 (named c List.mem_cons_self)).ascii
    have size : c.utf8Size = 1 := by
      refine Char.utf8Size_eq_one_iff.2 (UInt32.le_iff_toNat_le.2 ?_)
      exact Nat.le_of_lt_succ ascii
    rw [byteLength_cons, size, ih fun d member => named d (List.mem_cons_of_mem c member),
      List.length_cons, Nat.add_comm]

namespace Rule

variable {text rest after : List Char}

/-! ## Pieces -/

theorem moves_slice_run (inside : Char → Bool) (within : rest <:+ text) :
    Moves text (slice text (offsetOf text rest) (offsetOf text (rest.dropWhile inside)))
      (rest.dropWhile inside) (rest.takeWhile inside) (rest.dropWhile inside) := by
  have parts : rest.takeWhile inside ++ rest.dropWhile inside = rest :=
    List.takeWhile_append_dropWhile
  have here := (List.dropWhile_suffix inside).trans within
  have whole : rest.takeWhile inside ++ rest.dropWhile inside <:+ text := by rwa [parts]
  have slice := moves_slice whole here
  rwa [parts] at slice

theorem moves_takeWhile (inside : Char → Bool) {rounds : Nat} (within : rest <:+ text)
    (enough : rest.length < rounds) :
    Moves text (takeWhile text inside rounds) rest () (rest.dropWhile inside) := by
  induction rest generalizing rounds with
  | nil =>
    refine ⟨within, fun descent => ?_⟩
    obtain ⟨spare, rfl⟩ := Nat.exists_eq_add_of_lt enough
    rw [takeWhile, (moves_ahead within).bind]
    rfl
  | cons c rest ih =>
    refine ⟨(List.dropWhile_suffix _).trans within, fun descent => ?_⟩
    obtain ⟨spare, rfl⟩ := Nat.exists_eq_add_of_lt enough
    rw [takeWhile, (moves_ahead within).bind]
    simp only [List.head?_cons]
    by_cases first : inside c = true
    · have step := moves_advance_char within
      rw [if_pos first, step.bind, List.dropWhile_cons_of_pos first]
      exact (ih step.1 (Nat.lt_add_right spare (Nat.lt_succ_self _))).2 descent
    · rw [if_neg first, List.dropWhile_cons_of_neg first]
      rfl

theorem enough_rounds (within : rest <:+ text) : rest.length < rounds text :=
  Nat.lt_succ_of_le within.length_le

theorem moves_blanks (within : rest <:+ text) :
    Moves text (blanks text) rest () (skipBlanks rest) :=
  moves_takeWhile isBlank within (enough_rounds within)

theorem answers_spaces (within : rest <:+ text) :
    Answers text (spaces text) rest (.ok ((spaces? rest).map (Prod.mk ()))) := by
  have run := moves_takeWhile (· == ' ') within (enough_rounds within)
  refine (moves_position within).answers.goes (run.answers.goes ?_)
  refine (moves_position run.1).answers.goes ?_
  simp only [offsetOf_inj run.1 within]
  rw [spaces_eq]
  split
  · exact answers_miss _
  · exact (moves_pure run.1 ()).answers

theorem answers_numeral (within : rest <:+ text) :
    Answers text (numeral text) rest (.ok (numeral? rest)) := by
  have run := moves_takeWhile Char.isDigit within (enough_rounds within)
  refine (moves_position within).answers.goes (run.answers.goes ?_)
  refine (moves_position run.1).answers.goes ?_
  simp only [offsetOf_inj run.1 within]
  simp only [numeral?, List.isEmpty_iff, ← dropWhile_eq_self_iff]
  split
  · exact answers_miss _
  · exact (moves_slice_run _ within).answers.goes (moves_pure run.1 _).answers

theorem moves_word {letters : List Char} (within : rest <:+ text)
    (read : word? letters rest = some after) :
    Moves text (advance text (byteLength letters)) rest () after := by
  rw [← word_append read] at within ⊢
  exact moves_advance within

theorem answers_word (letters : String) (within : rest <:+ text) :
    Answers text (word text letters) rest
      (.ok ((word? letters.toList rest).map (Prod.mk ()))) := by
  refine (moves_ahead within).answers.goes ?_
  rw [isPrefixOf_eq]
  cases read : word? letters.toList rest with
  | none => exact answers_miss _
  | some after => exact (moves_word within read).answers

theorem oneOf_run (within : rest <:+ text) (marks : List String) (descent : Descent) :
    oneOf text marks (descent.before text rest) =
      descent.reply ((descent.before text rest).note "end of line") text
        (.ok ((marks.findSome? fun mark => word? mark.toList rest).map (Prod.mk ()))) := by
  induction marks with
  | nil => rfl
  | cons mark marks ih =>
    rw [oneOf, (moves_ahead within).bind, isPrefixOf_eq, List.findSome?_cons]
    cases read : word? mark.toList rest with
    | none => exact ih
    | some after => exact (moves_word within read).2 descent

theorem lineEnd_run (within : rest <:+ text) (descent : Descent) :
    lineEnd text (descent.before text rest) =
      descent.reply ((descent.before text rest).note "end of line") text
        (.ok ((lineEnd? rest).map (Prod.mk ()))) := by
  rw [lineEnd_eq]
  exact oneOf_run within lineEnds descent

theorem fails_lineEnd (within : rest <:+ text) (other : lineEnd? rest = none) :
    Fails text (lineEnd text) rest := by
  intro descent silent
  have silent' : 0 < (descent.before text rest).silence := silent
  rw [lineEnd_run within, other]
  exact (fails_miss "end of line" : Fails text (miss _ : Rule Unit) rest) descent silent

theorem answers_lineEnd (within : rest <:+ text) (read : lineEnd? rest = some after) :
    Answers text (lineEnd text) rest (.ok (some ((), after))) where
  within := by
    rintro _ _ ⟨⟩
    exact (lineEnd_suffix read).trans within
  run := ⟨0, fun descent _ => by rw [lineEnd_run within, read]; rfl⟩

theorem answers_endOfText (within : rest <:+ text) :
    Answers text (endOfText text) rest (.ok (if rest = [] then some ((), rest) else none)) := by
  refine (moves_position within).answers.goes ?_
  simp only [← offsetOf_nil text, offsetOf_inj within (List.nil_suffix)]
  split
  · exact (moves_pure within ()).answers
  · exact answers_miss _

theorem answers_ending (within : rest <:+ text) :
    Answers text ((lineEnd text).orElse (endOfText text)) rest
      (.ok ((sentenceEnd? rest).map (Prod.mk ()))) := by
  cases rest with
  | nil => exact ((fails_lineEnd within rfl).attempt within).goes (answers_endOfText within)
  | cons c rest =>
    change Answers text _ _ (.ok ((lineEnd? (c :: rest)).map (Prod.mk ())))
    cases line : lineEnd? (c :: rest) with
    | none => exact ((fails_lineEnd within line).attempt within).goes (answers_endOfText within)
    | some after =>
      have read := answers_lineEnd within line
      exact read.attempt.goes (moves_pure (read.within _ _ rfl) ()).answers

theorem answers_sentenceEnd (within : rest <:+ text) :
    Answers text (sentenceEnd text) rest (.ok ((sentenceEnd? rest).map (Prod.mk ()))) :=
  answers_named within (answers_ending within) _

theorem fails_sentenceEnd (within : rest <:+ text) (other : sentenceEnd? rest = none) :
    Fails text (sentenceEnd text) rest := by
  have inside := answers_ending within
  rw [other] at inside
  exact fails_named within inside _

theorem answers_direction (within : rest <:+ text) :
    Answers text (direction text) rest (.ok (direction? rest)) := by
  refine (moves_ahead within).answers.goes ?_
  cases rest with
  | nil => exact answers_miss _
  | cons c rest =>
    simp only [List.head?_cons, Option.bind_some, direction?]
    cases letter : Direction.ofLetter? c with
    | none => exact answers_miss _
    | some facing =>
      have step := moves_advance_char within
      have size : c.utf8Size = 1 := by
        rw [← Direction.letter_of_ofLetter letter]
        cases facing <;> rfl
      rw [size] at step
      exact step.answers.goes (moves_pure step.1 facing).answers

theorem moves_commands {rounds : Nat} (within : rest <:+ text) (enough : rest.length < rounds) :
    Moves text (commands text rounds) rest (commandRun rest).1 (commandRun rest).2 := by
  induction rest generalizing rounds with
  | nil =>
    refine ⟨within, fun descent => ?_⟩
    obtain ⟨spare, rfl⟩ := Nat.exists_eq_add_of_lt enough
    rw [commands, (moves_ahead within).bind]
    rfl
  | cons c rest ih =>
    refine ⟨(commandRun_suffix _).trans within, fun descent => ?_⟩
    obtain ⟨spare, rfl⟩ := Nat.exists_eq_add_of_lt enough
    rw [commands, (moves_ahead within).bind]
    simp only [List.head?_cons, Option.bind_some]
    cases letter : Command.ofLetter? c with
    | none =>
      rw [commandRun_cons_none letter]
      rfl
    | some command =>
      have step := moves_advance_char within
      have size : c.utf8Size = 1 := by
        rw [← Command.letter_of_ofLetter letter]
        cases command <;> rfl
      rw [size] at step
      have more := ih step.1 (Nat.lt_add_right spare (Nat.lt_succ_self _))
      simp only [step.bind, commandRun_cons_some letter]
      exact more.bind descent

theorem answers_name (within : rest <:+ text) :
    Answers text (name text) rest
      (.ok (if (skipBlanks rest).takeWhile isNameChar = [] then none
        else some ((skipBlanks rest).takeWhile isNameChar,
          (skipBlanks rest).dropWhile isNameChar))) := by
  refine answers_named within ?_ _
  have blanks := moves_blanks within
  have run := moves_takeWhile isNameChar blanks.1 (enough_rounds blanks.1)
  refine blanks.answers.goes ((moves_position blanks.1).answers.goes ?_)
  refine run.answers.goes ((moves_position run.1).answers.goes ?_)
  simp only [offsetOf_inj run.1 blanks.1, dropWhile_eq_self_iff]
  split
  · exact answers_miss _
  · exact (moves_slice_run isNameChar blanks.1).answers

end Rule
end ScentedGrid.Source
