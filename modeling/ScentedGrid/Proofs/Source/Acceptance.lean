import ScentedGrid.Proofs.Source.Sentences
import ScentedGrid.Source.Reader

/-! The reader of mission text accepts its grammar, no less and no more. What it reads is spelled
that way. Conversely it follows any spelling: where a carriage return and a line feed are two line
ends to a spelling and one to the reader, the two differ by a blank at the start of what is left,
and neither sentences nor lines of blanks depend on it. -/

namespace ScentedGrid.Source

open Grammar

/-! ## What is read is spelled -/

theorem instructions_of_read {text rest : List Char} {found : List Instruction}
    (read : instructions text = .ok (found, rest)) : Instructions text found rest := by
  fun_induction instructions text generalizing found rest with
  | case1 => cases read
  | case2 text =>
    cases read
    exact .nil text
  | case3 => cases read
  | case4 text first after step more rest' deeper ih =>
    cases read
    obtain ⟨blanks, sentence, mark, blank, spelled, ending, same⟩ := instruction_of_read step
    rw [same]
    exact .cons blank spelled ending (ih deeper)

theorem block_of_read {text rest : List Char} {found : Robot}
    (read : robot text = .ok (some (found, rest))) : Block text found rest := by
  unfold robot at read
  simp only at read
  split at read
  · cases read
  · next filled =>
    split at read
    · cases read
    · next body ending =>
      split at read
      · cases read
      · next short =>
        split at read
        · cases read
        · next instructions deeper =>
          cases read
          obtain ⟨mark, sentenceEnd, same⟩ := sentenceEnd_of_read ending
          have name : Name (text.takeWhile isNameChar) := by
            refine ⟨fun empty => filled (List.isEmpty_iff.2 empty), fun c member => ?_,
              Nat.le_of_not_lt short⟩
            exact (isNameChar_iff c).1 (List.mem_takeWhile_imp member)
          have split : text = text.takeWhile isNameChar ++ mark ++ body := by
            rw [List.append_assoc, ← same, List.takeWhile_append_dropWhile]
          have block := Block.mk name sentenceEnd (instructions_of_read deeper)
          rw [← split] at block
          exact block

theorem blocks_blankLine {blanks rest : List Char} {separator : Char} {found : List Robot}
    (blank : Blanks blanks) (separates : separator = '\u2028' ∨ separator = '\u2029')
    (blocks : Blocks rest found) : Blocks (blanks ++ separator :: rest) found := by
  cases blocks with
  | done gap => exact .done (.cons blank separates gap)
  | block gap indent block more =>
    have longer := Blocks.block (.cons blank separates gap) indent block more
    simpa only [List.append_assoc, List.cons_append] using longer

theorem blocks_of_read {text : List Char} {frontier : Frontier} {found : Robots}
    (read : robots text frontier = .ok found) (ended : found.rest = []) :
    Blocks text found.found := by
  fun_induction robots text frontier generalizing found with
  | case1 text frontier rest line ih =>
    obtain ⟨blanks, separator, blank, separates, same⟩ := blankLine_of_read line
    rw [same]
    exact blocks_blankLine blank separates (ih read ended)
  | case2 => cases read
  | case3 text =>
    cases read
    simp only at ended
    rw [ended]
    exact .done .nil
  | case4 => cases read
  | case5 text _ _ start _ first rest head more deeper =>
    rename_i ih
    cases read
    obtain ⟨blanks, blank, same⟩ := blanks_of_skipBlanks text
    have block := Blocks.block .nil blank (block_of_read head) (ih deeper ended)
    rw [List.nil_append] at block
    rw [same]
    exact block

theorem missionText_of_read {text : List Char} {found : Mission}
    (read : mission text = .ok found) : MissionText text found := by
  obtain ⟨blanks, blank, same⟩ := blanks_of_skipBlanks text
  unfold mission at read
  split at read
  · cases read
  · cases read
  · next side body opening =>
    obtain ⟨spaces, first, between, second, mark, spaced, wide, spaced', high, positive, ending,
      line⟩ := square_of_read opening
    split at read
    · cases read
    · next robots frontier more =>
      cases read
      have blocks := blocks_of_read more rfl
      have spelled := MissionText.mk blank spaced wide spaced' high positive ending blocks
      rw [same, line]
      simpa only [List.append_assoc] using spelled
    · cases read

/-! ## What is spelled is read -/

theorem instructions_nil {text : List Char} (none : instruction text = .ok none) :
    instructions text = .ok ([], text) := by
  rw [instructions]
  split
  · next other => cases none.symm.trans other
  · rfl
  · next other => cases none.symm.trans other

theorem instructions_cons {text after : List Char} {first : Instruction}
    (read : instruction text = .ok (some (first, after))) :
    instructions text = (instructions after).map fun more => (first :: more.1, more.2) := by
  rw [instructions]
  split
  · next other => cases read.symm.trans other
  · next other => cases read.symm.trans other
  · next other =>
    cases read.symm.trans other
    cases instructions after with
    | error refusal => rfl
    | ok more => rfl

theorem sentence_solid {sentence : List Char} {found : Instruction}
    (spelled : Sentence sentence found) (rest : List Char) :
    skipBlanks (sentence ++ rest) = sentence ++ rest := by
  cases spelled with
  | landing facing spaced numeral numeral' => exact skipBlanks_cons rfl _
  | heading spaced filled => exact skipBlanks_cons rfl _

theorem sentence_start {blanks sentence : List Char} {found : Instruction} (blank : Blanks blanks)
    (spelled : Sentence sentence found) (mark rest : List Char) :
    skipBlanks (blanks ++ sentence ++ mark ++ rest) = sentence ++ mark ++ rest := by
  rw [List.append_assoc blanks, List.append_assoc blanks, skipBlanks_append blank,
    List.append_assoc, sentence_solid spelled]

/-- The reader keeps to a spelling of instructions if no instruction stands after it. -/
theorem instructions_read {text rest : List Char} {found : List Instruction}
    (spelled : Instructions text found rest) (last : instruction rest = .ok none)
    {start : List Char} (past : Past text start) :
    ∃ after, instructions start = .ok (found, after) ∧ Past rest after := by
  induction spelled generalizing start with
  | nil rest =>
    have none : instruction start = .ok none := by
      rw [instruction_congr past.skipBlanks_eq]
      exact last
    exact ⟨start, instructions_nil none, past⟩
  | @cons blanks sentence mark after rest first more blank spelled ending _ ih =>
    have opening : skipBlanks start = sentence ++ mark ++ after := by
      rw [past.skipBlanks_eq, sentence_start blank spelled]
    obtain ⟨stop, others, past'⟩ := ih last (past_following mark after)
    refine ⟨stop, ?_, past'⟩
    rw [instructions_cons (instruction_read spelled ending opening), others]
    rfl

/-- A name begins a robot, whatever its instructions, and one that is too long is refused. -/
theorem robot_letters {name mark body : List Char} (filled : name ≠ [])
    (spelled : ∀ c ∈ name, NameChar c) (ending : SentenceEnd mark body) :
    robot (name ++ mark ++ body) =
      if 255 < name.length then
        .error ⟨.nameTooLong, name ++ mark ++ body, following mark body⟩
      else (instructions (following mark body)).map fun inside =>
        some (⟨String.ofList name, inside.1⟩, inside.2) := by
  have characters : ∀ c ∈ name, isNameChar c = true :=
    fun c member => (isNameChar_iff c).2 (spelled c member)
  have stops : Stops isNameChar (mark ++ body) := sentenceEnd_stops ending (by decide)
  have filled' : name.isEmpty = false := List.isEmpty_eq_false_iff.2 filled
  rw [robot, List.append_assoc, takeWhile_run characters stops, dropWhile_run characters stops]
  simp only [filled', sentenceEnd_read ending, Bool.false_eq_true, if_false]
  cases instructions (following mark body) with
  | error refusal => rfl
  | ok inside => rfl

theorem robot_read {name mark body : List Char} (named : Name name)
    (ending : SentenceEnd mark body) :
    robot (name ++ mark ++ body) = (instructions (following mark body)).map fun inside =>
      some (⟨String.ofList name, inside.1⟩, inside.2) := by
  rw [robot_letters named.filled named.spelled ending, if_neg (Nat.not_lt_of_le named.short)]

theorem block_read {text rest : List Char} {found : Robot} (spelled : Block text found rest)
    (last : instruction rest = .ok none) :
    ∃ after, robot text = .ok (some (found, after)) ∧ Past rest after := by
  cases spelled with
  | @mk name mark body _ found named ending inside =>
    obtain ⟨after, read, past⟩ := instructions_read inside last (past_following mark body)
    refine ⟨after, ?_, past⟩
    rw [robot_read named ending, read]
    rfl

/-! What stands between two robots is neither an instruction nor, but for its separators, a line
of its own. -/

theorem lineEnd_none {c : Char} (inner : c ∉ lineEndChars) (rest : List Char) :
    lineEnd? (c :: rest) = none := by
  cases read : lineEnd? (c :: rest) with
  | none => rfl
  | some after =>
    obtain ⟨mark, line, same⟩ := lineEnd_of_read read
    cases line <;> cases same <;> exact absurd (by decide) inner

theorem letters_opening {name mark body : List Char} (filled : name ≠ [])
    (spelled : ∀ c ∈ name, NameChar c) (ending : SentenceEnd mark body) :
    skipBlanks (name ++ mark ++ body) = name ++ mark ++ body ∧
      lineEnd? (name ++ mark ++ body) = none ∧ Unspaced (name ++ mark ++ body) := by
  have characters : ∀ c ∈ name, isNameChar c = true :=
    fun c member => (isNameChar_iff c).2 (spelled c member)
  have unspaced : Unspaced (name ++ mark ++ body) := by
    have stops : Stops isNameChar (mark ++ body) := sentenceEnd_stops ending (by decide)
    rw [Unspaced, List.append_assoc, dropWhile_run characters stops]
    exact sentenceEnd_stops ending (by decide)
  cases name with
  | nil => exact absurd rfl filled
  | cons c more =>
    have letter := characters c List.mem_cons_self
    have solid : isBlank c = false := by
      apply Bool.eq_false_iff.2
      intro blank
      rcases (isBlank_iff c).1 blank with rfl | rfl | rfl | rfl <;> cases letter
    have inner : c ∉ lineEndChars := by
      intro member
      simp only [lineEndChars, List.mem_cons, List.not_mem_nil, or_false] at member
      rcases member with rfl | rfl | rfl | rfl <;> cases letter
    exact ⟨skipBlanks_cons solid _, lineEnd_none inner _, unspaced⟩

theorem name_opening {name mark body : List Char} (named : Name name)
    (ending : SentenceEnd mark body) :
    skipBlanks (name ++ mark ++ body) = name ++ mark ++ body ∧
      lineEnd? (name ++ mark ++ body) = none ∧ Unspaced (name ++ mark ++ body) :=
  letters_opening named.filled named.spelled ending

theorem block_opening {text rest : List Char} {found : Robot} (spelled : Block text found rest) :
    skipBlanks text = text ∧ lineEnd? text = none ∧ Unspaced text := by
  cases spelled with
  | mk named ending inside => exact name_opening named ending

theorem gap_unspaced {blanks : List Char} {separator : Char} (blank : Blanks blanks)
    (separates : separator = '\u2028' ∨ separator = '\u2029') (rest : List Char) :
    Unspaced (skipBlanks (blanks ++ separator :: rest)) := by
  rw [skipBlanks_append blank]
  rcases separates with rfl | rfl
  · exact stops_cons rfl
  · exact stops_cons rfl

theorem indented_unspaced {gap blanks text : List Char} (gapped : Gap gap) (indent : Blanks blanks)
    (opening : skipBlanks text = text) (unspaced : Unspaced text) :
    Unspaced (skipBlanks (gap ++ blanks ++ text)) := by
  cases gapped with
  | nil => rwa [List.nil_append, skipBlanks_append indent, opening]
  | cons blank separates gap =>
    simp only [List.append_assoc, List.cons_append]
    exact gap_unspaced blank separates _

/-- No instruction stands where robots go on, so the robot before them ends there. -/
theorem blocks_unspaced {text : List Char} {found : List Robot} (spelled : Blocks text found) :
    Unspaced (skipBlanks text) := by
  cases spelled with
  | done gap =>
    cases gap with
    | nil => exact stops_nil
    | cons blank separates gap => exact gap_unspaced blank separates _
  | block gap indent block more =>
    obtain ⟨opening, _, unspaced⟩ := block_opening block
    exact indented_unspaced gap indent opening unspaced

theorem robots_nil (frontier : Frontier) : ∃ stop, robots [] frontier = .ok ⟨[], [], stop⟩ := by
  rw [robots]
  exact ⟨_, rfl⟩

theorem robots_blankLine {text rest : List Char} (line : blankLine? text = some rest)
    (frontier : Frontier) : robots text frontier = robots rest frontier := by
  rw [robots]
  split
  · next other =>
    cases line.symm.trans other
    rfl
  · next other => cases line.symm.trans other

theorem robots_cons {text rest : List Char} {first : Robot} (line : blankLine? text = none)
    (read : robot (skipBlanks text) = .ok (some (first, rest))) (frontier : Frontier) :
    robots text frontier =
      (robots rest (frontier.note (skipBlanks text) .endOfLine)).map fun more =>
        { more with found := first :: more.found } := by
  rw [robots]
  split
  · next other => cases line.symm.trans other
  · simp only
    split
    · next other => cases read.symm.trans other
    · next other => cases read.symm.trans other
    · next other =>
      cases read.symm.trans other
      cases robots rest (frontier.note (skipBlanks text) .endOfLine) with
      | error refusal => rfl
      | ok more => rfl

/-- A gap leads the reader to the text after it. -/
theorem robots_gap {gap rest : List Char} (spelled : Gap gap) {start : List Char}
    (past : Past (gap ++ rest) start) :
    ∃ next, Past rest next ∧ ∀ frontier, robots start frontier = robots next frontier := by
  induction spelled generalizing start with
  | nil => exact ⟨start, past, fun _ => rfl⟩
  | @cons blanks gap separator blank separates _ ih =>
    have line : blankLine? start = some (gap ++ rest) := by
      rw [blankLine?, past.skipBlanks_eq, ← blankLine?, List.append_assoc]
      exact blankLine_read blank separates (gap ++ rest)
    obtain ⟨next, past', same⟩ := ih (.inl rfl)
    refine ⟨next, past', fun frontier => ?_⟩
    rw [robots_blankLine line, same]

theorem robots_read {text : List Char} {found : List Robot} (spelled : Blocks text found)
    {start : List Char} (past : Past text start) (frontier : Frontier) :
    ∃ stop, robots start frontier = .ok ⟨found, [], stop⟩ := by
  induction spelled generalizing start frontier with
  | @done gap gapped =>
    rw [← List.append_nil gap] at past
    obtain ⟨next, past', same⟩ := robots_gap gapped past
    have ended : next = [] := by
      rcases past' with rfl | feed
      · rfl
      · cases feed
    rw [same, ended]
    exact robots_nil frontier
  | @block gap blanks text rest first more gapped indent block blocks ih =>
    rw [List.append_assoc] at past
    obtain ⟨next, past', same⟩ := robots_gap gapped past
    obtain ⟨opening, inner, _⟩ := block_opening block
    have skipped : skipBlanks next = text := by
      rw [past'.skipBlanks_eq, skipBlanks_append indent, opening]
    have line : blankLine? next = none := by
      rw [blankLine?, skipped]
      exact inner
    obtain ⟨after, read, past''⟩ := block_read block (instruction_unspaced (blocks_unspaced blocks))
    obtain ⟨stop, others⟩ := ih past'' (frontier.note (skipBlanks next) .endOfLine)
    refine ⟨stop, ?_⟩
    rw [← skipped] at read
    rw [same, robots_cons line read, others]
    rfl

theorem opening_read {blanks spaces width between height mark rest : List Char} {side : Square}
    (blank : Blanks blanks) (spaced : Spaces spaces) (wide : Numeral width side.width.toNat)
    (spaced' : Spaces between) (high : Numeral height side.height.toNat)
    (positive : side.Positive) (ending : SentenceEnd mark rest) :
    square (skipBlanks
        (blanks ++ "Square".toList ++ spaces ++ width ++ between ++ height ++ mark ++ rest)) =
      .ok (some (side, following mark rest)) := by
  have start : skipBlanks
      (blanks ++ "Square".toList ++ spaces ++ width ++ between ++ height ++ mark ++ rest) =
      "Square".toList ++ spaces ++ width ++ between ++ height ++ mark ++ rest := by
    simp only [List.append_assoc]
    rw [skipBlanks_append blank]
    exact skipBlanks_cons rfl _
  rw [start]
  exact square_read spaced wide spaced' high positive ending

theorem mission_read {text : List Char} {found : Mission} (spelled : MissionText text found) :
    mission text = .ok found := by
  cases spelled with
  | @mk blanks spaces width between height mark rest side robots blank spaced wide spaced' high
      positive ending blocks =>
    have opening := opening_read blank spaced wide spaced' high positive ending
    obtain ⟨stop, read⟩ := robots_read blocks (past_following mark rest)
      (.start (blanks ++ "Square".toList ++ spaces ++ width ++ between ++ height ++ mark ++ rest))
    rw [mission, opening]
    simp only [read]

end ScentedGrid.Source

namespace ScentedGrid

/-- A text is read as a mission exactly if the grammar spells that mission with it. -/
theorem Mission.parse_eq_ok_iff (source : String) (mission : Mission) :
    parse source = .ok mission ↔ Grammar.MissionText source.toList mission :=
  ⟨Source.missionText_of_read, Source.mission_read⟩

end ScentedGrid
