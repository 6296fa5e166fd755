import ScentedGrid.Proofs.Source.Acceptance

/-! Reading from sentence to sentence. Where a sentence has ended with its line, the reader goes on
from what the sentences so far spell, and of the text behind that place it sees the blanks at the
start only in that something is left. -/

namespace ScentedGrid.Grammar

/-- What the sentences up to some place spell. Instructions may go on under the current robot. -/
structure Stage where
  square : Square
  finished : List Robot
  current : Option Robot

def Stage.robots (stage : Stage) : List Robot := stage.finished ++ stage.current.toList

/-- Sentences from the start of a text, the last of which ends with its line. -/
inductive Reaches : List Char → Stage → Prop where
  | square {blanks spaces width between height mark : List Char} {square : Square} :
      Blanks blanks → Spaces spaces → Numeral width square.width.toNat →
      Spaces between → Numeral height square.height.toNat → square.Positive → LineEnd mark →
      Reaches (blanks ++ "Square".toList ++ spaces ++ width ++ between ++ height ++ mark)
        ⟨square, [], none⟩
  | name {before gap blanks name mark : List Char} {stage : Stage} :
      Reaches before stage → Gap gap → Blanks blanks → Name name → LineEnd mark →
      Reaches (before ++ (gap ++ blanks ++ name ++ mark))
        ⟨stage.square, stage.robots, some ⟨String.ofList name, []⟩⟩
  | instruction {before blanks sentence mark : List Char} {square : Square}
      {finished : List Robot} {name : String} {done : List Instruction} {found : Instruction} :
      Reaches before ⟨square, finished, some ⟨name, done⟩⟩ → Blanks blanks →
      Sentence sentence found → LineEnd mark →
      Reaches (before ++ (blanks ++ sentence ++ mark))
        ⟨square, finished, some ⟨name, done ++ [found]⟩⟩

end ScentedGrid.Grammar

namespace ScentedGrid.Source

open Grammar

/-! ## Robots to the end of a text -/

/-- The robots that were read, if nothing was left behind them. -/
def whole? : Except Refusal Robots → Option (List Robot)
  | .ok ⟨found, [], _⟩ => some found
  | _ => none

def robots? (text : List Char) : Option (List Robot) := whole? (robots text (.start text))

theorem whole_eq_some_iff (text : List Char) (frontier : Frontier) (found : List Robot) :
    whole? (robots text frontier) = some found ↔ Blocks text found := by
  constructor
  · intro read
    unfold whole? at read
    split at read
    · next more =>
      cases read
      exact blocks_of_read more rfl
    · cases read
  · intro spelled
    obtain ⟨stop, read⟩ := robots_read spelled (.inl rfl) frontier
    rw [read]
    rfl

/-- The furthest failure is kept for reports only. -/
theorem whole_robots (text : List Char) (frontier : Frontier) :
    whole? (robots text frontier) = robots? text :=
  Option.ext fun found =>
    (whole_eq_some_iff text frontier found).trans (whole_eq_some_iff text _ found).symm

theorem robots?_blankLine {text rest : List Char} (line : blankLine? text = some rest) :
    robots? text = robots? rest := by
  rw [robots?, robots_blankLine line, whole_robots]

theorem robots?_robot {text : List Char} (line : blankLine? text = none) :
    robots? text = match robot (skipBlanks text) with
      | .error _ => none
      | .ok none => if text = [] then some [] else none
      | .ok (some (first, rest)) => (robots? rest).map (first :: ·) := by
  rw [robots?, robots]
  split
  · next other => cases line.symm.trans other
  · simp only
    split
    · next read => rw [read]; rfl
    · next read =>
      rw [read]
      cases text with
      | nil => rfl
      | cons => rfl
    · next first rest read =>
      rw [read]
      simp only
      rw [← whole_robots rest (Frontier.note (.start text) (skipBlanks text) .endOfLine)]
      rcases robots rest (Frontier.note (.start text) (skipBlanks text) .endOfLine) with
        refusal | ⟨found, _ | ⟨c, left⟩, stop⟩
      all_goals rfl

theorem robots?_congr {text other : List Char} (same : skipBlanks text = skipBlanks other)
    (filled : text ≠ []) (filled' : other ≠ []) : robots? text = robots? other := by
  have line : blankLine? text = blankLine? other := by rw [blankLine?, same, ← blankLine?]
  cases read : blankLine? text with
  | some rest => rw [robots?_blankLine read, robots?_blankLine (line.symm.trans read)]
  | none =>
    rw [robots?_robot read, robots?_robot (line.symm.trans read), same, if_neg filled,
      if_neg filled']

theorem skipBlanks_eq_nil {text : List Char} (blank : Blanks text) : skipBlanks text = [] := by
  rw [← List.append_nil text, skipBlanks_append blank]
  rfl

/-- Blanks behind the last sentence are refused. -/
theorem robots?_blanks {text : List Char} (blank : Blanks text) (filled : text ≠ []) :
    robots? text = none := by
  have empty := skipBlanks_eq_nil blank
  have line : blankLine? text = none := by
    rw [blankLine?, empty]
    rfl
  rw [robots?_robot line, empty]
  exact if_neg filled

/-- The robots to the end of a text, from the instructions of `current` on if there is one. -/
def goingOn? : Option Robot → List Char → Option (List Robot)
  | none, text => robots? text
  | some current, text =>
    match instructions text with
    | .error _ => none
    | .ok (more, rest) =>
      (robots? rest).map (⟨current.name, current.instructions ++ more⟩ :: ·)

theorem goingOn?_done {text : List Char} (ended : instruction text = .ok none)
    (current : Option Robot) :
    goingOn? current text = (robots? text).map (current.toList ++ ·) := by
  cases current with
  | none => exact (congrFun Option.map_id (robots? text)).symm
  | some current =>
    rw [goingOn?, instructions_nil ended]
    simp only [List.append_nil]
    rfl

theorem goingOn?_instruction {text rest : List Char} {found : Instruction}
    (read : instruction text = .ok (some (found, rest))) (name : String)
    (done : List Instruction) :
    goingOn? (some ⟨name, done⟩) text = goingOn? (some ⟨name, done ++ [found]⟩) rest := by
  rw [goingOn?, goingOn?, instructions_cons read]
  cases instructions rest with
  | error refusal => rfl
  | ok more => simp only [Except.map, List.append_assoc, List.singleton_append]

theorem instructions_error {text : List Char} {refusal : Refusal}
    (read : instruction text = .error refusal) : instructions text = .error refusal := by
  rw [instructions]
  split
  · next other => cases read.symm.trans other; rfl
  · next other => cases read.symm.trans other
  · next other => cases read.symm.trans other

theorem goingOn?_congr {text other : List Char} (same : skipBlanks text = skipBlanks other)
    (filled : text ≠ []) (filled' : other ≠ []) (current : Option Robot) :
    goingOn? current text = goingOn? current other := by
  have step := instruction_congr same
  cases read : instruction text with
  | error refusal =>
    cases current with
    | none => exact robots?_congr same filled filled'
    | some current =>
      rw [goingOn?, goingOn?, instructions_error read, instructions_error (step.symm.trans read)]
  | ok found =>
    cases found with
    | none =>
      rw [goingOn?_done read, goingOn?_done (step.symm.trans read),
        robots?_congr same filled filled']
    | some found =>
      cases current with
      | none => exact robots?_congr same filled filled'
      | some current =>
        rw [goingOn?_instruction read, goingOn?_instruction (step.symm.trans read)]

theorem goingOn?_blanks {text : List Char} (blank : Blanks text) (filled : text ≠ [])
    (current : Option Robot) : goingOn? current text = none := by
  have ended : instruction text = .ok none := by
    apply instruction_unspaced
    rw [skipBlanks_eq_nil blank]
    exact stops_nil
  rw [goingOn?_done ended, robots?_blanks blank filled]
  rfl

/-- A separator ends the robot before it; the text behind it may hold robots only. -/
theorem goingOn?_separator {blanks : List Char} {separator : Char} (blank : Blanks blanks)
    (separates : separator = '\u2028' ∨ separator = '\u2029') (rest : List Char)
    (current : Option Robot) :
    goingOn? current (blanks ++ separator :: rest) = (robots? rest).map (current.toList ++ ·) := by
  rw [goingOn?_done (instruction_unspaced (gap_unspaced blank separates rest)),
    robots?_blankLine (blankLine_read blank separates rest)]

/-- The name of a robot makes it the current one. -/
theorem robots?_name {text name mark body : List Char} (named : Name name)
    (ending : SentenceEnd mark body) (start : skipBlanks text = name ++ mark ++ body) :
    robots? text = goingOn? (some ⟨String.ofList name, []⟩) (following mark body) := by
  have line : blankLine? text = none := by
    rw [blankLine?, start]
    exact (name_opening named ending).2.1
  rw [robots?_robot line, start, robot_read named ending, goingOn?]
  cases instructions (following mark body) with
  | error refusal => rfl
  | ok inside => rfl

/-! ## From a sentence on -/

/-- The mission of a text whose sentences so far spell `stage`, with `text` left. -/
def resume? (stage : Stage) (text : List Char) : Option Mission :=
  (goingOn? stage.current text).map fun more => ⟨stage.square, stage.finished ++ more⟩

theorem resume?_done (stage : Stage) {text : List Char} (ended : instruction text = .ok none) :
    resume? stage text =
      (robots? text).map fun more => ⟨stage.square, stage.robots ++ more⟩ := by
  rw [resume?, goingOn?_done ended, Option.map_map]
  simp only [Function.comp_def, Stage.robots, List.append_assoc]

theorem mission_toOption (text : List Char) :
    (mission text).toOption = match square (skipBlanks text) with
      | .ok (some (found, body)) => (robots? body).map fun more => ⟨found, more⟩
      | _ => none := by
  rw [mission]
  split
  · next read => rw [read]; rfl
  · next read => rw [read]; rfl
  · next found body read =>
    rw [read]
    simp only
    rw [← whole_robots body (.start text)]
    rcases robots body (.start text) with refusal | ⟨others, _ | ⟨c, left⟩, stop⟩
    all_goals rfl

theorem following_behind {mark : List Char} (line : LineEnd mark) (before text rest : List Char) :
    following (before ++ (text ++ mark)) rest = following mark rest := by
  rw [← List.append_assoc]
  exact following_append line _ rest

theorem mission_congr {text other : List Char} (same : skipBlanks text = skipBlanks other) :
    (mission text).toOption = (mission other).toOption := by
  rw [mission_toOption, mission_toOption, same]

theorem resume?_name {before gap blanks name mark rest : List Char} (stage : Stage)
    (gapped : Gap gap) (indent : Blanks blanks) (named : Name name) (line : LineEnd mark) :
    resume? stage (following before (gap ++ blanks ++ name ++ mark ++ rest)) =
      resume? ⟨stage.square, stage.robots, some ⟨String.ofList name, []⟩⟩
        (following mark rest) := by
  have ending : SentenceEnd mark rest := .line rest line
  obtain ⟨opening, _, unspaced⟩ := name_opening named ending
  have past := past_following before (gap ++ blanks ++ name ++ mark ++ rest)
  have ended : instruction (following before (gap ++ blanks ++ name ++ mark ++ rest)) =
      .ok none := by
    apply instruction_unspaced
    have indented := indented_unspaced gapped indent opening unspaced
    rw [past.skipBlanks_eq]
    simpa only [List.append_assoc] using indented
  have skipped : Past (gap ++ (blanks ++ (name ++ mark ++ rest)))
      (following before (gap ++ blanks ++ name ++ mark ++ rest)) := by
    simpa only [List.append_assoc] using past
  obtain ⟨next, past', same⟩ := robots_gap gapped skipped
  have start : skipBlanks next = name ++ mark ++ rest := by
    rw [past'.skipBlanks_eq, skipBlanks_append indent, opening]
  rw [resume?_done stage ended, robots?, same, whole_robots, robots?_name named ending start]
  rfl

/-- The reader goes on from any sentence as if the stage were all it had kept of the text. -/
theorem mission_reaches {before : List Char} {stage : Stage} (reached : Reaches before stage)
    (rest : List Char) :
    (mission (before ++ rest)).toOption = resume? stage (following before rest) := by
  induction reached generalizing rest with
  | @square blanks spaces width between height mark side blank spaced wide spaced' high positive
      line =>
    have opening := opening_read blank spaced wide spaced' high positive (.line rest line)
    rw [mission_toOption, opening, following_append line]
    rfl
  | @name before gap blanks name mark stage _ gapped indent named line ih =>
    rw [List.append_assoc before, ih, following_behind line]
    exact resume?_name stage gapped indent named line
  | @instruction before blanks sentence mark side finished name done found _ blank spelled line ih =>
    have start : skipBlanks (following before (blanks ++ sentence ++ mark ++ rest)) =
        sentence ++ mark ++ rest := by
      rw [(past_following before _).skipBlanks_eq, sentence_start blank spelled]
    have read := instruction_read spelled (.line rest line) start
    rw [List.append_assoc before, ih, following_behind line, resume?, goingOn?_instruction read]
    rfl

theorem following_apart {before rest : List Char} (apart : ¬ InsideLineEnd before rest) :
    following before rest = rest := if_neg apart

/-- Sentences that have all ended with their lines are a mission of their own. -/
theorem mission_of_reaches {before : List Char} {stage : Stage} (reached : Reaches before stage) :
    mission before = .ok ⟨stage.square, stage.robots⟩ := by
  have ended : instruction [] = .ok none := instruction_unspaced stops_nil
  have none : robots? [] = some [] := (whole_eq_some_iff [] _ []).2 (.done .nil)
  have apart : ¬ InsideLineEnd before [] := fun inside => by cases inside.2
  have read := mission_reaches reached []
  rw [List.append_nil, following_apart apart, resume?_done stage ended, none, Option.map_some,
    List.append_nil] at read
  cases answer : mission before with
  | error error => rw [answer] at read; cases read
  | ok found =>
    rw [answer] at read
    exact congrArg Except.ok (Option.some.inj read)

theorem reaches_filled {before : List Char} {stage : Stage} (reached : Reaches before stage) :
    before ≠ [] := by
  rintro rfl
  have refused : (mission []).toOption = none := rfl
  rw [mission_of_reaches reached] at refused
  cases refused

end ScentedGrid.Source
