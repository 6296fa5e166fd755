import ScentedGrid.Proofs.Source.Rules
import ScentedGrid.Proofs.Source.Violations
import Mathlib.Data.List.Dedup
import Mathlib.Data.String.Basic

/-! A descent through a text goes as the reader of the text does, so its cursor stays between
characters, no loop goes on for too long, and an error shows a part of the text. -/

namespace ScentedGrid.Source

open Text Descent

/-! ## Readers step by step -/

/-- What an instruction answers that has been read as far as its end. -/
def closing (rule : Violation) (start : List Char) (found : Instruction) (rest : List Char) :
    Reading Instruction :=
  match sentenceEnd? rest with
  | some after => .ok (some (found, after))
  | none => .error ⟨rule, start, rest⟩

theorem instruction_landing {rest after : List Char} {x y : Nat} {facing : Direction}
    (read : landingShape? (skipBlanks rest) = some ((x, y, facing), after)) :
    instruction rest =
      if x ≤ 255 ∧ y ≤ 255 then
        closing .landingParameters (skipBlanks rest)
          (.landing (UInt8.ofNat x) (UInt8.ofNat y) facing) after
      else .error ⟨.landingTooLarge, skipBlanks rest, after⟩ := by
  rw [instruction, landing, read]
  simp only [closing]
  by_cases small : x ≤ 255 ∧ y ≤ 255
  · simp only [if_pos small]
    cases sentenceEnd? after <;> rfl
  · simp only [if_neg small]

theorem instruction_no_landing {rest : List Char} (other : landingShape? (skipBlanks rest) = none) :
    instruction rest =
      match headingShape? (skipBlanks rest) with
      | none => .ok none
      | some (commands, after) =>
        closing .headingParameters (skipBlanks rest) (.heading commands) after := by
  rw [instruction, landing, other, heading]
  rfl

theorem next_robot_suffix {text rest : List Char} {found : Robot}
    (read : robot (skipBlanks text) = .ok (some (found, rest))) :
    rest <:+ text ∧ rest.length < text.length := by
  obtain ⟨suffix, shorter⟩ := robot_suffix read
  have blanks := skipBlanks_suffix text
  exact ⟨suffix.trans blanks, Nat.lt_of_lt_of_le shorter blanks.length_le⟩

namespace Rule

variable {text rest : List Char}

/-! ## Sentences -/

theorem answers_squareShape (within : rest <:+ text) :
    Answers text (squareShape text) rest (.ok (squareShape? rest)) := by
  refine (answers_word "Square" within).past fun _ within => ?_
  refine (answers_spaces within).past fun _ within => ?_
  refine (answers_numeral within).bind fun width _ within => ?_
  refine (answers_spaces within).past fun _ within => ?_
  refine (answers_numeral within).bind fun height _ within => ?_
  refine (answers_sentenceEnd within).past fun _ within => ?_
  exact (moves_pure within (width, height)).answers

theorem answers_landingShape (within : rest <:+ text) :
    Answers text (landingShape text) rest (.ok (landingShape? rest)) := by
  refine (answers_word "Move" within).past fun _ within => ?_
  refine (answers_spaces within).past fun _ within => ?_
  refine (answers_numeral within).bind fun x _ within => ?_
  refine (answers_word " " within).past fun _ within => ?_
  refine (answers_numeral within).bind fun y _ within => ?_
  refine (answers_word " " within).past fun _ within => ?_
  refine (answers_direction within).bind fun facing _ within => ?_
  exact (moves_pure within (x, y, facing)).answers

theorem answers_headingShape (within : rest <:+ text) :
    Answers text (headingShape text) rest (.ok (headingShape? rest)) := by
  refine (answers_word "Rotate" within).past fun _ within => ?_
  refine (answers_spaces within).past fun _ within => ?_
  have run := moves_commands within (enough_rounds within)
  refine run.answers.goes ?_
  simp only
  split
  · exact answers_miss _
  · exact (moves_pure run.1 _).answers

theorem square_run (within : rest <:+ text) (descent : Descent) :
    square text (descent.before text rest) =
      descent.reply ((descent.before text rest).note "Planet Definition") text
        (Source.square (skipBlanks rest)) := by
  refine named_run within ?_ _ descent
  have blanks := moves_blanks within
  refine blanks.answers.goes ((moves_position blanks.1).answers.goes ?_)
  have shape := answers_squareShape blanks.1
  rw [Source.square]
  rcases read : squareShape? (skipBlanks rest) with _ | ⟨⟨width, height⟩, after⟩ <;>
    rw [read] at shape
  · exact shape.fails
  · refine shape.goes ?_
    have within' := shape.within _ _ rfl
    simp only
    split
    · exact answers_refuse
    · split
      · exact (moves_pure within' _).answers
      · exact answers_refuse

theorem answers_no_landing (within : rest <:+ text) (other : landingShape? rest = none) :
    Answers text (landing text) rest (.ok none) := by
  refine answers_named within ((moves_position within).answers.goes ?_) _
  have shape := answers_landingShape within
  rw [other] at shape
  exact shape.fails

theorem answers_landing {x y : Nat} {facing : Direction} {after : List Char}
    (within : rest <:+ text) (read : landingShape? rest = some ((x, y, facing), after)) :
    Answers text (landing text) rest
      (if x ≤ 255 ∧ y ≤ 255 then .ok (some (.landing (UInt8.ofNat x) (UInt8.ofNat y) facing, after))
        else .error ⟨.landingTooLarge, rest, after⟩) := by
  refine answers_named within ((moves_position within).answers.goes ?_) _
  have shape := answers_landingShape within
  rw [read] at shape
  refine shape.goes ?_
  simp only
  split
  · exact (moves_pure (shape.within _ _ rfl) _).answers
  · exact answers_refuse

theorem answers_heading (within : rest <:+ text) :
    Answers text (heading text) rest
      (.ok ((headingShape? rest).map fun (found, after) => (.heading found, after))) := by
  refine answers_named within ?_ _
  have shape := answers_headingShape within
  rcases read : headingShape? rest with _ | ⟨found, after⟩ <;> rw [read] at shape
  · exact shape.fails
  · exact shape.goes (moves_pure (shape.within _ _ rfl) _).answers

theorem answers_ended {rule : Violation} {start : List Char} {found : Instruction}
    (within : rest <:+ text) :
    Answers text (ended text rule (offsetOf text start) found) rest
      (closing rule start found rest) := by
  rw [closing]
  cases read : sentenceEnd? rest with
  | none => exact ((fails_sentenceEnd within read).attempt within).goes answers_refuse
  | some after =>
    have ending := answers_sentenceEnd within
    rw [read] at ending
    exact ending.attempt.goes (moves_pure (ending.within _ _ rfl) found).answers

theorem answers_instruction (within : rest <:+ text) :
    Answers text (instruction text) rest (Source.instruction rest) := by
  have blanks := moves_blanks within
  have keyword := moves_position blanks.1
  refine (moves_position within).answers.goes (blanks.answers.goes (keyword.answers.goes ?_))
  rcases read : landingShape? (skipBlanks rest) with _ | ⟨⟨x, y, facing⟩, after⟩
  · refine (answers_no_landing blanks.1 read).retreat within rfl ?_
    refine blanks.answers.goes (keyword.answers.goes ?_)
    rw [instruction_no_landing read]
    have shape := answers_heading blanks.1
    rcases read : headingShape? (skipBlanks rest) with _ | ⟨found, after⟩ <;> rw [read] at shape
    · exact shape.retreat within rfl answers_fail
    · exact shape.attempt.goes (answers_ended (shape.within _ _ rfl))
  · rw [instruction_landing read]
    have shape := answers_landing blanks.1 read
    split at shape
    · next small =>
      rw [if_pos small]
      exact shape.attempt.goes (answers_ended (shape.within _ _ rfl))
    · next large =>
      rw [if_neg large]
      exact shape.attempt_refuses.refuses

/-! ## Robots -/

theorem answers_instructions {rounds : Nat} (within : rest <:+ text)
    (enough : rest.length < rounds) :
    Answers text (instructions text rounds) rest ((Source.instructions rest).map some) := by
  fun_induction Source.instructions rest generalizing rounds with
  | case1 rest refusal read =>
    obtain ⟨spare, rfl⟩ := Nat.exists_eq_add_of_lt enough
    have step := answers_instruction within
    rw [read] at step
    exact (moves_position within).answers.goes step.attempt_refuses.refuses
  | case2 rest read =>
    obtain ⟨spare, rfl⟩ := Nat.exists_eq_add_of_lt enough
    have step := answers_instruction within
    rw [read] at step
    refine (moves_position within).answers.goes (step.retreat within rfl ?_)
    exact (moves_pure within []).answers
  | case3 rest found after read refusal deeper ih =>
    obtain ⟨spare, rfl⟩ := Nat.exists_eq_add_of_lt enough
    have step := answers_instruction within
    rw [read] at step
    have more := ih (step.within _ _ rfl) (Nat.lt_add_right spare (instruction_suffix read).2)
    rw [deeper] at more
    exact (moves_position within).answers.goes (step.attempt.goes more.refuses)
  | case4 rest found after read others left deeper ih =>
    obtain ⟨spare, rfl⟩ := Nat.exists_eq_add_of_lt enough
    have step := answers_instruction within
    rw [read] at step
    have more := ih (step.within _ _ rfl) (Nat.lt_add_right spare (instruction_suffix read).2)
    rw [deeper] at more
    have whole := moves_pure (more.within _ _ rfl) (found :: others)
    exact (moves_position within).answers.goes (step.attempt.goes (more.goes whole.answers))

theorem robot_run (within : rest <:+ text) (descent : Descent) :
    robot text (descent.before text rest) =
      descent.reply ((descent.before text rest).note "Block") text
        (Source.robot (skipBlanks rest)) := by
  refine named_run within ?_ _ descent
  have named := answers_name within
  rw [Source.robot]
  simp only [List.isEmpty_iff]
  split at named
  · next empty =>
    rw [if_pos empty]
    exact named.fails
  · next filled =>
    rw [if_neg filled]
    have parts : (skipBlanks rest).takeWhile isNameChar ++ (skipBlanks rest).dropWhile isNameChar =
        skipBlanks rest := List.takeWhile_append_dropWhile
    have start := (skipBlanks_suffix rest).trans within
    have within' := named.within _ _ rfl
    -- The name is all that lies between the blanks and the cursor.
    rw [← parts] at start
    have back := moves_positionBefore start
    rw [parts] at back
    refine named.goes (back.answers.goes ?_)
    have ending := answers_sentenceEnd within'
    cases read : sentenceEnd? ((skipBlanks rest).dropWhile isNameChar) with
    | none =>
      rw [read] at ending
      exact ending.fails
    | some body =>
      rw [read] at ending
      have length := byteLength_name fun c (member : c ∈ (skipBlanks rest).takeWhile isNameChar) =>
        List.mem_takeWhile_imp member
      rw [length]
      refine ending.goes ?_
      have inside := ending.within _ _ rfl
      simp only
      split
      · exact answers_refuse
      · have more := answers_instructions inside (enough_rounds inside)
        cases read : Source.instructions body with
        | error refusal =>
          rw [read] at more
          exact more.refuses
        | ok found =>
          rw [read] at more
          exact more.goes (moves_pure (more.within _ _ rfl) _).answers

theorem blankLine_run (within : rest <:+ text) (descent : Descent) :
    (do blanks text; lineEnd text) (descent.before text rest) =
      descent.reply ((descent.before text (skipBlanks rest)).note "end of line") text
        (.ok ((blankLine? rest).map (Prod.mk ()))) :=
  ((moves_blanks within).bind descent).trans (lineEnd_run (moves_blanks within).1 descent)

/-- The furthest failure of a descent outside of silence is that of the reader. -/
structure Tracks (text : List Char) (descent : Descent) (frontier : Frontier) : Prop where
  loud : descent.silence = 0
  within : frontier.rest <:+ text
  furthest : descent.furthest = offsetOf text frontier.rest
  expected : descent.expected = (frontier.expected.map Expectation.text).reverse

theorem Tracks.before {descent : Descent} {frontier : Frontier}
    (tracks : Tracks text descent frontier) (rest : List Char) :
    Tracks text (descent.before text rest) frontier :=
  ⟨tracks.loud, tracks.within, tracks.furthest, tracks.expected⟩

theorem Tracks.note {descent : Descent} {frontier : Frontier}
    (tracks : Tracks text descent frontier) (within : rest <:+ text) (missing : Expectation) :
    Tracks text ((descent.before text rest).note missing.text) (frontier.note rest missing) := by
  have here := tracks.before rest
  have cursor : (descent.before text rest).cursor = offsetOf text rest := rfl
  -- The longer the rest, the earlier the place.
  rcases Nat.lt_trichotomy frontier.rest.length rest.length with behind | same | further
  · have less : (descent.before text rest).cursor < (descent.before text rest).furthest := by
      rw [cursor, here.furthest]
      exact (offsetOf_lt_iff within here.within).2 behind
    rw [note_behind behind, note_short less]
    exact here
  · have place : rest = frontier.rest :=
      (List.suffix_of_suffix_length_le within here.within (Nat.le_of_eq same.symm)).eq_of_length
        same.symm
    have there : (descent.before text rest).cursor = (descent.before text rest).furthest := by
      rw [cursor, here.furthest, place]
    have noted : frontier.note rest missing = ⟨frontier.rest, missing :: frontier.expected⟩ := by
      rw [place]
      exact note_again frontier.rest frontier.expected missing
    rw [noted, note_there here.loud there]
    refine ⟨here.loud, here.within, here.furthest, ?_⟩
    rw [here.expected, List.map_cons, List.reverse_cons]
  · have ahead : (descent.before text rest).furthest < (descent.before text rest).cursor := by
      rw [cursor, here.furthest]
      exact (offsetOf_lt_iff here.within within).2 further
    rw [note_further further, note_ahead here.loud ahead]
    exact ⟨here.loud, within, rfl, rfl⟩

/-- The descent finds the robots that the reader finds, and tracks how far the reader came. -/
def Follows (text : List Char) (run : Except Halt (Option (List Robot) × Descent)) :
    Except Refusal Robots → Prop
  | .error refusal => run = .error (refusal.report text).halt
  | .ok found => ∃ left, run = .ok (some found.found, left.before text found.rest) ∧
      found.rest <:+ text ∧ Tracks text left found.frontier

/-- A round of the loop that no blank line takes up. -/
theorem robots_round (within : rest <:+ text) (line : blankLine? rest = none) (rounds : Nat)
    (descent : Descent) :
    let noted := (descent.before text (skipBlanks rest)).note "end of line"
    robots text (rounds + 1) (descent.before text rest) =
      match Source.robot (skipBlanks rest) with
      | .error refusal => .error (refusal.report text).halt
      | .ok none =>
        .ok (some [], ((noted.before text (skipBlanks rest)).note "Block").before text rest)
      | .ok (some (first, after)) =>
        (do
          let more ← robots text rounds
          pure (first :: more) : Rule (List Robot)) (noted.before text after) := by
  intro noted
  have blank := blankLine_run within descent
  rw [line] at blank
  -- The line end is missed behind the blanks, which are gone over again for the robot.
  refine ((moves_position within).bind descent).trans ?_
  refine (bind_found (attempt_failed blank)).trans ((bind_found (moveTo_run within _)).trans ?_)
  refine ((moves_blanks within).bind noted).trans ?_
  have head := robot_run ((skipBlanks_suffix rest).trans within) noted
  rw [skipBlanks_skipBlanks] at head
  rcases read : Source.robot (skipBlanks rest) with refusal | _ | ⟨first, after⟩ <;>
    rw [read] at head
  · exact bind_halted (attempt_halted head)
  · exact (bind_found (attempt_failed head)).trans (bind_found (moveTo_run within _))
  · exact bind_found (attempt_found head)

theorem robots_run {rounds : Nat} {frontier : Frontier} {descent : Descent}
    (within : rest <:+ text) (enough : rest.length < rounds)
    (tracks : Tracks text descent frontier) :
    Follows text (robots text rounds (descent.before text rest)) (Source.robots rest frontier) := by
  fun_induction Source.robots rest frontier generalizing rounds descent with
  | case1 rest frontier after line ih =>
    obtain ⟨spare, rfl⟩ := Nat.exists_eq_add_of_lt enough
    have blank := blankLine_run within descent
    rw [line] at blank
    rw [robots, (moves_position within).bind, bind_found (attempt_found blank)]
    exact ih ((blankLine_suffix line).trans within)
      (Nat.lt_add_right spare (blankLine_shorter line)) tracks
  | case2 rest frontier line start refusal =>
    rename_i read
    obtain ⟨spare, rfl⟩ := Nat.exists_eq_add_of_lt enough
    have round := robots_round within line (rest.length + spare) descent
    rw [read] at round
    exact round
  | case3 rest frontier line start =>
    rename_i noted read
    obtain ⟨spare, rfl⟩ := Nat.exists_eq_add_of_lt enough
    have round := robots_round within line (rest.length + spare) descent
    rw [read] at round
    have within' := (skipBlanks_suffix rest).trans within
    exact ⟨_, round, within, (tracks.note within' .endOfLine).note within' .robot⟩
  | case4 rest frontier line start noted first after read refusal =>
    rename_i deeper ih
    obtain ⟨spare, rfl⟩ := Nat.exists_eq_add_of_lt enough
    have round := robots_round within line (rest.length + spare) descent
    rw [read] at round
    have noted := tracks.note ((skipBlanks_suffix rest).trans within) .endOfLine
    obtain ⟨suffix, shorter⟩ := next_robot_suffix read
    have more := ih (suffix.trans within) (Nat.lt_add_right spare shorter) noted
    rw [deeper] at more
    exact round.trans (bind_halted more)
  | case5 rest frontier line start noted first after read others =>
    rename_i deeper ih
    obtain ⟨spare, rfl⟩ := Nat.exists_eq_add_of_lt enough
    have round := robots_round within line (rest.length + spare) descent
    rw [read] at round
    have noted := tracks.note ((skipBlanks_suffix rest).trans within) .endOfLine
    obtain ⟨suffix, shorter⟩ := next_robot_suffix read
    have more := ih (suffix.trans within) (Nat.lt_add_right spare shorter) noted
    rw [deeper] at more
    obtain ⟨left, run, last, tracks'⟩ := more
    exact ⟨left, round.trans (bind_found run), last, tracks'⟩

/-! ## Reports -/

theorem sortedLT_listed (names : List String) : (listed names).SortedLT := by
  have sorted := List.pairwise_insertionSort (· ≤ ·) names
  rw [listed, sorted.destutter_eq_dedup]
  exact (sorted.sublist (List.dedup_sublist _)).sortedLE.sortedLT_of_nodup (List.nodup_dedup _)

theorem mem_listed (names : List String) (name : String) : name ∈ listed names ↔ name ∈ names := by
  have sorted := List.pairwise_insertionSort (· ≤ ·) names
  rw [listed, sorted.destutter_eq_dedup, List.mem_dedup, List.mem_insertionSort]

theorem listed_expected (expected : List Expectation) :
    listed (expected.map Expectation.text).reverse =
      (Expectation.all.filter (· ∈ expected)).map Expectation.text := by
  have order : (Expectation.all.map Expectation.text).Pairwise (· < ·) := by decide +kernel
  have sorted := order.sublist ((List.filter_sublist (p := (· ∈ expected))).map Expectation.text)
  refine (sortedLT_listed _).eq_of_mem_iff sorted.sortedLT fun name => ?_
  have all : ∀ expectation, expectation ∈ Expectation.all := by
    rintro (_ | _ | _ | _) <;> decide
  simp only [mem_listed, List.mem_reverse, List.mem_map, List.mem_filter, decide_eq_true_eq, all,
    true_and]

theorem unexpected_run {α : Type} {descent : Descent} {frontier : Frontier}
    (tracks : Tracks text descent frontier) :
    (unexpected text : Rule α) descent = .error (frontier.report text).halt := by
  obtain ⟨front, cut⟩ := cut_offsetOf tracks.within
  have message : (frontier.report text).cause.text =
      "Expected " ++ alternatives (listed descent.expected) ++ " but " ++
        standing frontier.rest.head? ++ " found." := by
    rw [tracks.expected, listed_expected]
    exact unexpected_text _ _
  have stop : descent.furthest + frontier.rest.head?.elim 0 Char.utf8Size =
      offsetOf text frontier.rest.tail := by
    have within := tracks.within
    rw [tracks.furthest]
    cases rest : frontier.rest with
    | nil => rfl
    | cons c more =>
      rw [rest] at within
      exact offsetOf_add (show [c] ++ more <:+ text from within)
  rw [← tracks.furthest] at cut
  simp only [unexpected, cut, stop, SourceError.halt, message]
  rw [tracks.furthest]
  rfl

end Rule

/-! ## Whole texts -/

/-- The descent through a text ends as the reader does: with its mission, with its refusal, or at an
end of the text that it came to. -/
theorem descend_cases (text : List Char) :
    (∃ found, mission text = .ok found ∧ descend text = .ok (some found)) ∨
    (∃ refusal : Refusal, mission text = .error (refusal.report text) ∧
      descend text = .error (refusal.report text).halt) ∨
    ∃ frontier : Frontier, frontier.rest <:+ text ∧ mission text = .error (frontier.report text) ∧
      descend text = .error (frontier.report text).halt := by
  have start : Descent.start = Descent.start.before text text := by
    rw [Descent.before, offsetOf_self]
    rfl
  have whole := List.suffix_refl text
  have tracks : Rule.Tracks text Descent.start (.start text) :=
    ⟨rfl, whole, (offsetOf_self text).symm, rfl⟩
  have first := Rule.square_run whole Descent.start
  rw [descend, Rule.mission, mission, start]
  rcases read : square (skipBlanks text) with refusal | _ | ⟨side, body⟩ <;> rw [read] at first
  · rw [Rule.bind_halted (Rule.attempt_halted first)]
    exact .inr (.inl ⟨refusal, rfl, rfl⟩)
  · have noted := tracks.note whole .square
    rw [Rule.bind_found (Rule.attempt_failed first)]
    refine .inr (.inr ⟨_, noted.within, rfl, ?_⟩)
    exact congrArg (Except.map Prod.fst) (Rule.unexpected_run noted)
  · obtain ⟨sides, shape⟩ := shape_of_square read
    have within := (squareShape_suffix shape).trans (skipBlanks_suffix text)
    have more := Rule.robots_run within (Rule.enough_rounds within) tracks
    rw [Rule.bind_found (Rule.attempt_found first)]
    simp only
    rcases read : robots body (.start text) with refusal | ⟨found, rest, frontier⟩ <;>
      rw [read] at more
    · exact .inr (.inl ⟨refusal, rfl, congrArg (Except.map Prod.fst) (Rule.bind_halted more)⟩)
    · obtain ⟨left, run, within', tracks'⟩ := more
      rw [Rule.bind_found run]
      simp only at within' ⊢
      rw [(Rule.moves_position within').bind left]
      cases rest with
      | nil =>
        rw [offsetOf_nil, if_neg (Nat.lt_irrefl _)]
        exact .inl ⟨_, rfl, rfl⟩
      | cons c rest =>
        have noted := tracks'.note within' .endOfInput
        have short := (offsetOf_lt_iff within' List.nil_suffix).2 (Nat.succ_pos _)
        rw [offsetOf_nil] at short
        rw [if_pos short]
        refine .inr (.inr ⟨_, noted.within, rfl, ?_⟩)
        exact congrArg (Except.map Prod.fst) (Rule.unexpected_run noted)

end ScentedGrid.Source

namespace ScentedGrid

open Source Text

/-- The error shows a part of the text from one place between characters to another. -/
structure SourceError.Within (error : SourceError) (text : List Char) : Prop where
  forward : error.start.offset ≤ error.stop.offset
  inside : error.stop.offset ≤ byteLength text
  start_between : Boundary text error.start.offset
  stop_between : Boundary text error.stop.offset
  start_eq : error.start = .ofOffset text error.start.offset
  stop_eq : error.stop = .ofOffset text error.stop.offset

theorem SourceError.within_of_ends {text start stop : List Char} (cause : Cause)
    (tail : stop <:+ start) (within : start <:+ text) :
    SourceError.Within ⟨cause, .ofRest text start, .ofRest text stop⟩ text where
  forward := by
    obtain ⟨part, rfl⟩ := tail
    exact Nat.le.intro (offsetOf_add within)
  inside := Nat.sub_le _ _
  start_between := boundary_offsetOf within
  stop_between := boundary_offsetOf (tail.trans within)
  start_eq := rfl
  stop_eq := rfl

/-- A descent through any text ends, and its cursor stays between characters on the way. It ends
with the mission of the text, or with an error that shows a part of the text. -/
theorem Mission.parse_safe (source : String) :
    (∃ found, descend source.toList = .ok (some found) ∧ parse source = .ok found) ∨
    ∃ error, descend source.toList = .error error.halt ∧ parse source = .error error ∧
      error.Within source.toList := by
  rcases descend_cases source.toList with ⟨found, read, run⟩ | ⟨refusal, read, run⟩ |
    ⟨frontier, within, read, run⟩
  · exact .inl ⟨found, run, read⟩
  · refine .inr ⟨_, run, read, ?_⟩
    obtain ⟨before, sentence, after, _, split, same⟩ := breach_of_mission read rfl
    rw [same]
    apply SourceError.within_of_ends
    · exact List.suffix_append sentence after
    · exact ⟨before, by rw [split, List.append_assoc]⟩
  · refine .inr ⟨_, run, read, ?_⟩
    exact SourceError.within_of_ends _ (List.tail_suffix _) within

/-- The cursor goes past a separator of three bytes and comes to a letter of two. -/
example :
    descend "Square 1 1\nA\n\u2028 é".toList =
      .error (.refused "Expected Block or end of line but \"é\" found." ⟨17, 3, 3⟩ ⟨19, 3, 4⟩) := by
  decide +kernel

end ScentedGrid
