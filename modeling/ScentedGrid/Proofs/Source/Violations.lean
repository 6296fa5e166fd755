import ScentedGrid.Proofs.Source.Offences
import ScentedGrid.Proofs.Source.Unexpected

/-! Where a sentence stands that breaks a rule. It is refused as soon as it has been read up to the
character behind it, and every sentence before it has ended with its line. So the refusal depends on
nothing that follows that character, and no text that begins in the same way is a mission. -/

namespace ScentedGrid.Source

open Grammar

/-- What a sentence that breaks a rule begins with. -/
def Violation.Begins (rule : Violation) (sentence : List Char) : Prop :=
  match rule with
  | squareZero | squareTooLarge => "Square".toList <+: sentence
  | nameTooLong => ∃ name, name <+: sentence ∧ 255 < name.length ∧ ∀ c ∈ name, NameChar c
  | landingTooLarge | landingParameters => "Move".toList <+: sentence
  | headingParameters => "Rotate".toList <+: sentence

/-! ## Whole lines before an offence -/

/-- Nothing, or a text whose last character ends a line. -/
def Ended (passed : List Char) : Prop :=
  passed = [] ∨ ∃ c ∈ lineEndChars, passed.getLast? = some c

theorem Ended.append {first second : List Char} (ended : Ended first) (ended' : Ended second) :
    Ended (first ++ second) := by
  rcases ended' with rfl | ⟨c, member, last⟩
  · rwa [List.append_nil]
  · exact .inr ⟨c, member, by rw [List.getLast?_append, last, Option.some_or]⟩

theorem ended_line {mark : List Char} (line : LineEnd mark) (before : List Char) :
    Ended (before ++ mark) := by
  right
  cases line with
  | lineFeed => exact ⟨'\n', by decide, List.getLast?_append⟩
  | returnAndFeed => exact ⟨'\n', by decide, List.getLast?_append⟩
  | carriageReturn => exact ⟨'\r', by decide, List.getLast?_append⟩
  | lineSeparator => exact ⟨'\u2028', by decide, List.getLast?_append⟩
  | paragraphSeparator => exact ⟨'\u2029', by decide, List.getLast?_append⟩

/-- `passed` is made of whole lines, and leads to any text that is put behind it. -/
structure Lined (leads : List Char → List Char → Prop) (passed : List Char) : Prop where
  ended : Ended passed
  leads : ∀ rest, leads (passed ++ rest) rest

/-- The text leads to its rest by whole lines. -/
def Splits (leads : List Char → List Char → Prop) (text rest : List Char) : Prop :=
  ∃ passed, text = passed ++ rest ∧ Lined leads passed

theorem sentenceEnd_line {mark rest : List Char} (ending : SentenceEnd mark rest)
    (more : rest ≠ []) : LineEnd mark := by
  cases ending with
  | line _ line => exact line
  | text => exact absurd rfl more

theorem filled_of_suffix {rest text : List Char} (suffix : rest <:+ text) (more : rest ≠ []) :
    text ≠ [] := by
  rintro rfl
  exact more (List.suffix_nil.1 suffix)

theorem opening_splits {width height : Nat} {text rest : List Char}
    (opening : Opening width height text rest) (more : rest ≠ []) :
    Splits (Opening width height) text rest := by
  obtain ⟨blank, line, ending⟩ := opening
  have mark := sentenceEnd_line ending more
  exact ⟨_, rfl, ended_line mark _, fun other => .mk blank line (.line other mark)⟩

theorem instructions_splits {text rest : List Char} {found : List Instruction}
    (spelled : Instructions text found rest) (more : rest ≠ []) :
    Splits (Instructions · found ·) text rest := by
  induction spelled with
  | nil rest => exact ⟨[], rfl, .inl rfl, fun other => .nil other⟩
  | @cons blanks sentence mark after rest first others blank spelled ending inside ih =>
    obtain ⟨passed, rfl, lined⟩ := ih more
    have line := sentenceEnd_line ending (filled_of_suffix (List.suffix_append _ _) more)
    refine ⟨blanks ++ sentence ++ mark ++ passed, by simp, (ended_line line _).append lined.ended,
      fun other => ?_⟩
    have longer := Instructions.cons blank spelled (.line (passed ++ other) line)
      (lined.leads other)
    simpa only [List.append_assoc] using longer

theorem block_splits {text rest : List Char} {robot : Robot} (spelled : Block text robot rest)
    (more : rest ≠ []) : ∃ passed, passed ≠ [] ∧ text = passed ++ rest ∧
      Lined (Block · robot ·) passed := by
  cases spelled with
  | @mk name mark body _ found named ending inside =>
    obtain ⟨passed, rfl, lined⟩ := instructions_splits inside more
    have line := sentenceEnd_line ending (filled_of_suffix (List.suffix_append _ _) more)
    refine ⟨name ++ mark ++ passed, by simp [named.filled], by simp,
      (ended_line line name).append lined.ended, fun other => ?_⟩
    rw [List.append_assoc]
    exact .mk named (.line _ line) (lined.leads other)

theorem Ended.behind {passed : List Char} (ended : Ended passed) (filled : passed ≠ [])
    (before : List Char) : Ended (before ++ passed) := by
  rcases ended with rfl | ⟨c, member, last⟩
  · exact absurd rfl filled
  · exact .inr ⟨c, member, by rw [List.getLast?_append, last, Option.some_or]⟩

theorem passage_splits {text rest : List Char} (passage : Passage text rest) (more : rest ≠ []) :
    Splits Passage text rest := by
  induction passage with
  | nil rest => exact ⟨[], rfl, .inl rfl, fun other => .nil other⟩
  | @blankLine blanks text rest separator blank separates _ ih =>
    obtain ⟨passed, rfl, lined⟩ := ih more
    have line : Ended (blanks ++ [separator]) := by
      rcases separates with rfl | rfl
      · exact ended_line .lineSeparator blanks
      · exact ended_line .paragraphSeparator blanks
    refine ⟨blanks ++ [separator] ++ passed, by simp, line.append lined.ended, fun other => ?_⟩
    have longer := Passage.blankLine blank separates (lined.leads other)
    simpa only [List.append_assoc, List.cons_append, List.nil_append] using longer
  | @block blanks text after rest robot blank block passage ih =>
    obtain ⟨passed, rfl, lined⟩ := ih more
    obtain ⟨before, filled, rfl, whole⟩ :=
      block_splits block (filled_of_suffix (List.suffix_append _ _) more)
    refine ⟨blanks ++ before ++ passed, by simp,
      (whole.ended.behind filled blanks).append lined.ended, fun other => ?_⟩
    have longer := Passage.block blank (whole.leads (passed ++ other)) (lined.leads other)
    simpa only [List.append_assoc] using longer

theorem leads_splits {width height : Nat} {text rest : List Char}
    (leads : Leads width height text rest) (more : rest ≠ []) :
    Splits (Leads width height) text rest := by
  obtain ⟨body, opening, passage⟩ := leads
  obtain ⟨passed, rfl, lined⟩ := passage_splits passage more
  obtain ⟨line, rfl, whole⟩ :=
    opening_splits opening (filled_of_suffix (List.suffix_append _ _) more)
  refine ⟨line ++ passed, by rw [List.append_assoc], whole.ended.append lined.ended,
    fun other => ⟨passed ++ other, ?_, lined.leads other⟩⟩
  rw [List.append_assoc]
  exact whole.leads (passed ++ other)

/-! ## Breaches -/

/-- Where an offence stands: at the start of a text, or behind whole lines that lead there. -/
inductive Breach : List Char → Violation → List Char → List Char → Prop where
  | square {blanks sentence rest : List Char} {rule : Violation} :
      Blanks blanks → SquareOffence rule sentence rest → Breach blanks rule sentence rest
  | name {side : Square} {passed blanks sentence rest : List Char} {rule : Violation} :
      side.Positive → Lined (Leads side.width.toNat side.height.toNat) passed → Blanks blanks →
      NameOffence rule sentence rest → Breach (passed ++ blanks) rule sentence rest
  | instruction {side : Square} {passed blanks name mark lines indent sentence rest : List Char}
      {found : List Instruction} {rule : Violation} :
      side.Positive → Lined (Leads side.width.toNat side.height.toNat) passed → Blanks blanks →
      Name name → LineEnd mark → Lined (Instructions · found ·) lines → Blanks indent →
      InstructionOffence rule sentence rest →
      Breach (passed ++ blanks ++ name ++ mark ++ lines ++ indent) rule sentence rest

theorem mission_of_square {text : List Char} {refusal : Refusal}
    (read : square (skipBlanks text) = .error refusal) :
    mission text = .error (refusal.report text) := by
  rw [mission, read]

theorem mission_of_robots {text body : List Char} {side : Square} {refusal : Refusal}
    (opening : square (skipBlanks text) = .ok (some (side, body)))
    (read : robots body (.start text) = .error refusal) :
    mission text = .error (refusal.report text) := by
  rw [mission, opening]
  simp only [read]

theorem square_of_opening {side : Square} {text rest : List Char}
    (opening : Opening side.width.toNat side.height.toNat text rest) (positive : side.Positive) :
    ∃ after, square (skipBlanks text) = .ok (some (side, after)) ∧ Past rest after := by
  obtain ⟨blank, line, ending⟩ := opening
  rename_i mark
  obtain ⟨spaced, wide, spaced', high⟩ := line
  have read := opening_read blank spaced wide spaced' high positive ending
  refine ⟨_, Eq.trans (congrArg (fun text => square (skipBlanks text)) ?_) read,
    past_following mark rest⟩
  simp only [List.append_assoc]

/-- A robot that is refused behind whole lines is what the text is refused for. -/
theorem Lined.refused {side : Square} {passed blanks text : List Char} {refusal : Refusal}
    (lined : Lined (Leads side.width.toNat side.height.toNat) passed) (positive : side.Positive)
    (blank : Blanks blanks) (read : robot text = .error refusal) :
    mission (passed ++ blanks ++ text) =
      .error (refusal.report (passed ++ blanks ++ text)) := by
  have named : robot text ≠ .ok none := fun none => by cases read.symm.trans none
  obtain ⟨solid, _, _⟩ := robot_opening named
  obtain ⟨body, opening, passage⟩ := lined.leads (blanks ++ text)
  rw [← List.append_assoc] at opening
  obtain ⟨after, side', past⟩ := square_of_opening opening positive
  have refused : robot (skipBlanks (blanks ++ text)) = .error refusal := by
    rw [skipBlanks_append blank, solid, read]
  exact mission_of_robots side' (robots_refused passage refused past _)

theorem squareLine_word {line : List Char} {width height : Nat}
    (spelled : SquareLine line width height) : "Square".toList <+: line := by
  obtain ⟨_, _, _, _⟩ := spelled
  simp only [List.append_assoc]
  exact List.prefix_append _ _

theorem landingLine_word {line : List Char} {x y : Nat} (spelled : LandingLine line x y) :
    "Move".toList <+: line := by
  obtain ⟨_, _, _, _⟩ := spelled
  simp only [List.append_assoc]
  exact List.prefix_append _ _

theorem Breach.begins {before sentence rest : List Char} {rule : Violation}
    (breach : Breach before rule sentence rest) : rule.Begins sentence := by
  cases breach with
  | square _ offence =>
    cases offence with
    | zero line => exact (squareLine_word line).trans (List.prefix_append _ _)
    | tooLarge line => exact (squareLine_word line).trans (List.prefix_append _ _)
  | name _ _ _ offence =>
    cases offence with
    | tooLong spelled long => exact ⟨_, List.prefix_append _ _, long, spelled⟩
  | instruction _ _ _ _ _ _ _ offence =>
    cases offence with
    | landingTooLarge _ line => exact landingLine_word line
    | landingParameters _ line => exact landingLine_word line
    | headingParameters =>
      rw [List.append_assoc]
      exact List.prefix_append _ _

theorem skipBlanks_begins {c : Char} {word sentence : List Char} (solid : isBlank c = false)
    (begins : c :: word <+: sentence) (rest : List Char) :
    skipBlanks (sentence ++ rest) = sentence ++ rest := by
  obtain ⟨more, rfl⟩ := begins
  exact skipBlanks_cons solid _

theorem Breach.refused {before sentence rest : List Char} {rule : Violation}
    (breach : Breach before rule sentence rest) :
    mission (before ++ sentence ++ rest) =
      .error (Refusal.report ⟨rule, sentence ++ rest, rest⟩ (before ++ sentence ++ rest)) := by
  have begins := breach.begins
  cases breach with
  | square blank offence =>
    have solid : skipBlanks (sentence ++ rest) = sentence ++ rest := by
      cases offence with
      | zero line => exact skipBlanks_begins rfl begins rest
      | tooLarge line => exact skipBlanks_begins rfl begins rest
    apply mission_of_square
    rw [List.append_assoc, skipBlanks_append blank, solid, square_of_offence offence]
  | name positive lined blank offence =>
    rw [List.append_assoc _ sentence]
    exact lined.refused positive blank (robot_of_offence offence)
  | @instruction side passed blanks name mark lines indent _ _ found _ positive lined blank named
      line lines' indent' offence =>
    have solid : skipBlanks (sentence ++ rest) = sentence ++ rest := by
      cases offence with
      | landingTooLarge rest => exact skipBlanks_begins rfl begins rest
      | landingParameters => exact skipBlanks_begins rfl begins _
      | headingParameters => exact skipBlanks_begins rfl begins _
    have start : skipBlanks (indent ++ (sentence ++ rest)) = sentence ++ rest := by
      rw [skipBlanks_append indent', solid]
    have inside := instructions_refused (lines'.leads (indent ++ (sentence ++ rest)))
      (instruction_of_offence offence start) (past_following mark _)
    have read : robot (name ++ mark ++ (lines ++ (indent ++ (sentence ++ rest)))) =
        .error ⟨rule, sentence ++ rest, rest⟩ := by
      rw [robot_read named (.line _ line), inside]
      rfl
    simpa only [List.append_assoc] using lined.refused positive blank read

/-! ## Refusals are breaches -/

theorem breach_of_robot {side : Square} {text body rest : List Char} {refusal : Refusal}
    (opening : square (skipBlanks text) = .ok (some (side, body))) (passage : Passage body rest)
    (read : robot (skipBlanks rest) = .error refusal) :
    ∃ before rule sentence after, Breach before rule sentence after ∧
      text = before ++ sentence ++ after ∧ refusal = ⟨rule, sentence ++ after, after⟩ := by
  have positive : side.Positive := by
    obtain ⟨_, _, _, _, _, _, _, _, _, positive, _⟩ := square_of_read opening
    exact positive
  have more : rest ≠ [] := by
    rintro rfl
    cases read
  obtain ⟨passed, rfl, lined⟩ := leads_splits ⟨body, opening_of_square opening, passage⟩ more
  obtain ⟨blanks, blank, same⟩ := blanks_of_skipBlanks rest
  -- Either the name is at fault or an instruction under it.
  rcases robot_of_refused read with ⟨rule, sentence, after, offence, split, rfl⟩ |
    ⟨name, mark, inside, named, ending, split, refused⟩
  · refine ⟨passed ++ blanks, rule, sentence, after, .name positive lined blank offence, ?_, ?_⟩
    · rw [same, split]
      simp only [List.append_assoc]
    · rw [split]
  · obtain ⟨found, stop, spelled, refused⟩ := instructions_of_refused refused
    obtain ⟨rule, sentence, after, offence, start, rfl⟩ := instruction_of_refused refused
    obtain ⟨indent, indent', stop'⟩ := blanks_of_skipBlanks stop
    have more' : stop ≠ [] := by
      rintro rfl
      cases refused
    obtain ⟨lines, rfl, lined'⟩ := instructions_splits spelled more'
    have line := sentenceEnd_line ending (filled_of_suffix (List.suffix_append _ _) more')
    refine ⟨_, rule, sentence, after,
      .instruction positive lined blank named line lined' indent' offence, ?_, ?_⟩
    · rw [same, split, stop', start]
      simp only [List.append_assoc]
    · rw [start]

theorem breach_of_mission {text : List Char} {error : SourceError} {rule : Violation}
    (read : mission text = .error error) (cause : error.cause = .violation rule) :
    ∃ before sentence after, Breach before rule sentence after ∧
      text = before ++ sentence ++ after ∧
      error = Refusal.report ⟨rule, sentence ++ after, after⟩ text := by
  unfold mission at read
  split at read
  · next refusal refused =>
    cases read
    obtain ⟨rule', sentence, after, offence, start, rfl⟩ := square_of_refused refused
    obtain ⟨blanks, blank, same⟩ := blanks_of_skipBlanks text
    cases cause
    refine ⟨blanks, sentence, after, .square blank offence, ?_, ?_⟩
    · rw [List.append_assoc, ← start, ← same]
    · rw [start]
  · cases read
    cases cause
  · next side body opening =>
    split at read
    · next refusal refused =>
      cases read
      obtain ⟨rest, passage, refused⟩ := passage_of_refused refused
      obtain ⟨before, rule', sentence, after, breach, same, rfl⟩ :=
        breach_of_robot opening passage refused
      cases cause
      exact ⟨before, sentence, after, breach, same, rfl⟩
    · cases read
    · cases read
      cases cause

/-! ## What a breach depends on -/

section

variable {mark rest : List Char} {c : Char}

end

/-! ## Where a breach stands -/

/-- The start of a text, or a place behind a blank or an end of a line. -/
def Apart (before : List Char) : Prop :=
  before = [] ∨
    ∃ c ∈ [' ', '\t', '\n', '\r', '\u2028', '\u2029'], before.getLast? = some c

theorem Ended.apart {passed blanks : List Char} (ended : Ended passed) (blank : Blanks blanks) :
    Apart (passed ++ blanks) := by
  rcases List.eq_nil_or_concat blanks with rfl | ⟨more, c, rfl⟩
  · rw [List.append_nil]
    refine ended.imp_right fun ⟨c, member, last⟩ => ⟨c, ?_, last⟩
    exact List.mem_cons_of_mem _ (List.mem_cons_of_mem _ member)
  · refine .inr ⟨c, ?_, by simp⟩
    rcases blank c (by simp) with rfl | rfl | rfl | rfl <;> decide

theorem Breach.apart {before sentence rest : List Char} {rule : Violation}
    (breach : Breach before rule sentence rest) : Apart before := by
  cases breach with
  | square blank => exact Ended.apart (.inl rfl) blank
  | name _ lined blank => exact lined.ended.apart blank
  | instruction _ _ _ _ line lines indent =>
    exact ((ended_line line _).append lines.ended).apart indent

end ScentedGrid.Source

namespace ScentedGrid

open Source Text

end ScentedGrid
