import ScentedGrid.Proofs.Source.Stages

/-! Blank lines between sentences. Line feeds and carriage returns are blanks and separators are
not, so a blank line changes nothing at some places and is refused at the others. -/

namespace ScentedGrid.Grammar

/-- Spaces and tabs, then a line end of any kind. -/
inductive BlankLine : List Char → Prop where
  | mk {blanks mark : List Char} :
      (∀ c ∈ blanks, c = ' ' ∨ c = '\t') → LineEnd mark → BlankLine (blanks ++ mark)

/-- The start of a text, or a place behind the line end of one of its sentences. -/
inductive Boundary : List Char → List Char → Prop where
  | start (text : List Char) : Boundary [] text
  | behind {before rest : List Char} {stage : Stage} :
      Reaches before stage → ¬ InsideLineEnd before rest → Boundary before rest

def InstructionAhead (text : List Char) : Prop :=
  ∃ blanks sentence found mark rest, Blanks blanks ∧ Sentence sentence found ∧
    SentenceEnd mark rest ∧ text = blanks ++ sentence ++ mark ++ rest

/-- The places where a blank line changes nothing. A line of blanks needs a sentence or a separator
behind it, unless it makes the line end before it longer; a line with a separator must stand
neither before the square nor before an instruction. -/
inductive Free (before line rest : List Char) : Prop where
  | blanks : Blanks line → rest ≠ [] → Free before line rest
  | longer : InsideLineEnd before line → line = ['\n'] → Free before line rest
  | separator : ¬ Blanks line → before ≠ [] → ¬ InstructionAhead rest → Free before line rest

end ScentedGrid.Grammar

namespace ScentedGrid.Source

open Grammar

/-! ## A line more -/

/-- A blank line is made of blanks, or of blanks and a separator, which is none. -/
theorem blankLine_kind {line : List Char} (blank : BlankLine line) :
    (line ≠ [] ∧ Blanks line) ∨ ¬ Blanks line ∧ ∃ blanks separator, Blanks blanks ∧
      (separator = '\u2028' ∨ separator = '\u2029') ∧ line = blanks ++ [separator] := by
  obtain ⟨inside, ending⟩ := blank
  rename_i blanks mark
  have spaces : Blanks blanks := by
    intro c member
    rcases inside c member with rfl | rfl
    · exact .inl rfl
    · exact .inr (.inl rfl)
  have blanks_append {mark : List Char} (marks : Blanks mark) : Blanks (blanks ++ mark) := by
    intro c member
    rcases List.mem_append.1 member with early | late
    · exact spaces c early
    · exact marks c late
  have solid {separator : Char} (separates : separator = '\u2028' ∨ separator = '\u2029') :
      ¬ Blanks (blanks ++ [separator]) := by
    intro all
    have last := (isBlank_iff separator).2 (all separator (by simp))
    rcases separates with rfl | rfl <;> cases last
  cases ending with
  | lineFeed => exact .inl ⟨by simp, blanks_append (by simp [Blanks])⟩
  | returnAndFeed => exact .inl ⟨by simp, blanks_append (by simp [Blanks])⟩
  | carriageReturn => exact .inl ⟨by simp, blanks_append (by simp [Blanks])⟩
  | lineSeparator => exact .inr ⟨solid (.inl rfl), blanks, _, spaces, .inl rfl, rfl⟩
  | paragraphSeparator => exact .inr ⟨solid (.inr rfl), blanks, _, spaces, .inr rfl, rfl⟩

theorem blankLine_feed {line : List Char} (blank : BlankLine line)
    (first : line.head? = some '\n') : line = ['\n'] := by
  obtain ⟨inside, ending⟩ := blank
  rename_i blanks mark
  cases blanks with
  | nil => cases ending <;> first | rfl | cases first
  | cons c blanks =>
    cases first
    exact absurd (inside '\n' List.mem_cons_self) (by decide)

theorem mission_blanks {before line rest : List Char} (boundary : Boundary before rest)
    (filled : line ≠ []) (blank : Blanks line) (more : rest ≠ []) :
    (mission (before ++ line ++ rest)).toOption = (mission (before ++ rest)).toOption := by
  cases boundary with
  | start => exact mission_congr (skipBlanks_append blank rest)
  | @behind _ _ stage reached apart =>
    have past := past_following before (line ++ rest)
    have same : skipBlanks (following before (line ++ rest)) = skipBlanks rest := by
      rw [past.skipBlanks_eq, skipBlanks_append blank]
    have left : following before (line ++ rest) ≠ [] := by
      intro empty
      have long : 2 ≤ (line ++ rest).length := by
        have := List.length_pos_iff.2 filled
        have := List.length_pos_iff.2 more
        rw [List.length_append]
        omega
      rcases past with kept | dropped
      · rw [← kept, empty] at long
        exact absurd long (by decide)
      · rw [dropped, empty] at long
        exact absurd long (by decide)
    rw [List.append_assoc, mission_reaches reached, mission_reaches reached, following_apart apart,
      resume?, resume?, goingOn?_congr same left more]

/-- A line feed behind a carriage return belongs to the line end that is there already. -/
theorem mission_longer {before rest : List Char} (boundary : Boundary before rest)
    (joined : InsideLineEnd before ['\n']) :
    (mission (before ++ ['\n'] ++ rest)).toOption = (mission (before ++ rest)).toOption := by
  cases boundary with
  | start => cases joined.1
  | behind reached apart =>
    have dropped : following before (['\n'] ++ rest) = rest := if_pos ⟨joined.1, rfl⟩
    rw [List.append_assoc, mission_reaches reached, mission_reaches reached, following_apart apart,
      dropped]

theorem mission_trailing {before line : List Char} {stage : Stage} (reached : Reaches before stage)
    (filled : line ≠ []) (blank : Blanks line) (apart : ¬ InsideLineEnd before line) :
    (mission (before ++ line)).toOption = none := by
  rw [mission_reaches reached, following_apart apart, resume?, goingOn?_blanks blank filled]
  rfl

/-- Behind a separator robots go on, whether or not instructions could have gone on before. -/
theorem mission_separator {before blanks rest : List Char} {separator : Char} {stage : Stage}
    (reached : Reaches before stage) (blank : Blanks blanks)
    (separates : separator = '\u2028' ∨ separator = '\u2029') :
    (mission (before ++ (blanks ++ separator :: rest))).toOption =
      (robots? rest).map fun more => ⟨stage.square, stage.robots ++ more⟩ := by
  have past := past_following before (blanks ++ separator :: rest)
  have left : following before (blanks ++ separator :: rest) ≠ [] := by
    intro empty
    have skipped := past.skipBlanks_eq
    rw [empty, skipBlanks_append blank] at skipped
    rcases separates with rfl | rfl <;> cases skipped
  rw [mission_reaches reached, resume?, goingOn?_congr past.skipBlanks_eq left (by simp),
    goingOn?_separator blank separates, Option.map_map]
  simp only [Function.comp_def, Stage.robots, List.append_assoc]

theorem instruction_ahead_iff (text : List Char) :
    InstructionAhead text ↔ ∃ found rest, instruction text = .ok (some (found, rest)) := by
  constructor
  · rintro ⟨blanks, sentence, found, mark, rest, blank, spelled, ending, rfl⟩
    exact ⟨found, _, instruction_read spelled ending (sentence_start blank spelled mark rest)⟩
  · rintro ⟨found, rest, read⟩
    obtain ⟨blanks, sentence, mark, blank, spelled, ending, same⟩ := instruction_of_read read
    exact ⟨blanks, sentence, found, mark, rest, blank, spelled, ending, same⟩

theorem instruction_of_robots? {text : List Char} {found : List Robot}
    (read : robots? text = some found) : instruction text = .ok none :=
  instruction_unspaced (blocks_unspaced ((whole_eq_some_iff text _ found).1 read))

/-- Where a mission goes on, either an instruction stands or only robots can follow. -/
theorem instruction_of_goingOn? {text : List Char} {current : Option Robot} {more : List Robot}
    (read : goingOn? current text = some more) (last : ¬ InstructionAhead text) :
    instruction text = .ok none := by
  cases step : instruction text with
  | ok found =>
    cases found with
    | none => rfl
    | some found => exact absurd ((instruction_ahead_iff text).2 ⟨_, _, step⟩) last
  | error refusal =>
    cases current with
    | none => exact step.symm.trans (instruction_of_robots? read)
    | some current =>
      rw [goingOn?, instructions_error step] at read
      cases read

theorem mission_free {before line rest : List Char} {found : Mission}
    (read : (mission (before ++ rest)).toOption = some found) (boundary : Boundary before rest)
    (blank : BlankLine line) (free : Free before line rest) :
    (mission (before ++ line ++ rest)).toOption = some found := by
  rcases blankLine_kind blank with ⟨filled, blanks⟩ | ⟨solid, blanks, separator, indent, separates,
    rfl⟩
  · cases free with
    | blanks _ more => rw [mission_blanks boundary filled blanks more, read]
    | longer joined same =>
      subst same
      rw [mission_longer boundary joined, read]
    | separator solid => exact absurd blanks solid
  · cases free with
    | blanks blanks => exact absurd blanks solid
    | longer _ same =>
      rw [same] at solid
      exact absurd (by simp [Blanks]) solid
    | separator _ behind last =>
      cases boundary with
      | start => exact absurd rfl behind
      | @behind _ _ stage reached apart =>
        rw [mission_reaches reached, following_apart apart] at read
        obtain ⟨more, goes, _⟩ := Option.map_eq_some_iff.1 read
        have ended := instruction_of_goingOn? goes last
        rw [resume?_done stage ended] at read
        rw [List.append_assoc, List.append_assoc, List.singleton_append,
          mission_separator reached indent separates, read]

theorem mission_not_free {before line rest : List Char} {found : Mission}
    (read : (mission (before ++ rest)).toOption = some found) (boundary : Boundary before rest)
    (blank : BlankLine line) (kept : ¬ Free before line rest) :
    (mission (before ++ line ++ rest)).toOption = none := by
  rcases blankLine_kind blank with ⟨filled, blanks⟩ | ⟨solid, blanks, separator, indent, separates,
    rfl⟩
  · have ended : rest = [] := by
      by_contra more
      exact kept (.blanks blanks more)
    subst ended
    cases boundary with
    | start => cases read
    | behind reached apart =>
      have apart' : ¬ InsideLineEnd before line := fun joined =>
        kept (.longer joined (blankLine_feed blank joined.2))
      rw [List.append_nil, mission_trailing reached filled blanks apart']
  · cases boundary with
    | start =>
      have start : skipBlanks (blanks ++ [separator] ++ rest) = separator :: rest := by
        rw [List.append_assoc, skipBlanks_append indent]
        rcases separates with rfl | rfl <;> rfl
      rw [List.nil_append, mission_toOption, start]
      rcases separates with rfl | rfl <;> rfl
    | @behind _ _ stage reached apart =>
      have ahead : InstructionAhead rest := by
        by_contra last
        exact kept (.separator solid (reaches_filled reached) last)
      obtain ⟨found, after, step⟩ := (instruction_ahead_iff rest).1 ahead
      have none : robots? rest = none := by
        cases robots : robots? rest with
        | none => rfl
        | some more => cases step.symm.trans (instruction_of_robots? robots)
      rw [List.append_assoc, List.append_assoc, List.singleton_append,
        mission_separator reached indent separates, none]
      rfl

end ScentedGrid.Source

namespace ScentedGrid

open Source Grammar

/-- A blank line between sentences leaves the mission as it was, or is refused; `Free` says which. -/
theorem Mission.parse_blankLine {before line rest : List Char} {mission : Mission}
    (read : parse (String.ofList (before ++ rest)) = .ok mission) (boundary : Boundary before rest)
    (blank : BlankLine line) :
    (Free before line rest → parse (String.ofList (before ++ line ++ rest)) = .ok mission) ∧
      (¬ Free before line rest →
        ∃ error, parse (String.ofList (before ++ line ++ rest)) = .error error) := by
  unfold parse at read ⊢
  rw [String.toList_ofList] at read ⊢
  have whole : (Source.mission (before ++ rest)).toOption = some mission := by
    rw [read]
    rfl
  constructor
  · intro free
    have same := mission_free whole boundary blank free
    cases step : Source.mission (before ++ line ++ rest) with
    | error error => rw [step] at same; cases same
    | ok found => rw [step] at same; cases same; rfl
  · intro kept
    have refused := mission_not_free whole boundary blank kept
    cases step : Source.mission (before ++ line ++ rest) with
    | error error => exact ⟨error, rfl⟩
    | ok found => rw [step] at refused; cases refused

theorem square_reaches : Reaches "Square 5 3\n".toList ⟨⟨5, 3⟩, [], none⟩ := by
  have empty : Blanks [] := fun c member => by cases member
  have space : Spaces [' '] := ⟨List.cons_ne_nil _ _, by simp⟩
  have wide : Numeral ['5'] 5 := ⟨List.cons_ne_nil _ _, by simp, rfl⟩
  have high : Numeral ['3'] 3 := ⟨List.cons_ne_nil _ _, by simp, rfl⟩
  exact @Reaches.square [] [' '] ['5'] [' '] ['3'] ['\n'] ⟨5, 3⟩ empty space wide space high
    (by decide) .lineFeed

/-- Before an instruction a line of blanks is free and a separator is not. -/
theorem Mission.parse_blankLine_instruction :
    let before := "Square 5 3\nA\n".toList
    let rest := "Move 1 1 E\n".toList
    let mission : Mission := ⟨⟨5, 3⟩, [⟨"A", [.landing 1 1 .east]⟩]⟩
    parse (String.ofList (before ++ rest)) = .ok mission ∧ Boundary before rest ∧
      Free before ['\t', '\n'] rest ∧
      parse (String.ofList (before ++ ['\t', '\n'] ++ rest)) = .ok mission ∧
      ¬ Free before ['\u2028'] rest ∧
      ∃ error, parse (String.ofList (before ++ ['\u2028'] ++ rest)) = .error error := by
  intro before rest mission
  have read : parse (String.ofList (before ++ rest)) = .ok mission := by decide +kernel
  have empty : Blanks [] := fun c member => by cases member
  have named : Name ['A'] :=
    ⟨List.cons_ne_nil _ _, ((isName_iff ['A']).1 rfl).2, by decide⟩
  have reached : Reaches before ⟨⟨5, 3⟩, [], some ⟨"A", []⟩⟩ :=
    @Reaches.name _ [] [] ['A'] ['\n'] _ square_reaches .nil empty named .lineFeed
  have boundary : Boundary before rest := .behind reached (by decide)
  have blank : BlankLine ['\t', '\n'] := @BlankLine.mk ['\t'] ['\n'] (by simp) .lineFeed
  have separator : BlankLine ['\u2028'] := @BlankLine.mk [] ['\u2028'] (by simp) .lineSeparator
  have free : Free before ['\t', '\n'] rest := .blanks (by simp [Blanks]) (by decide)
  have ahead : InstructionAhead rest :=
    (instruction_ahead_iff rest).2 ⟨.landing 1 1 .east, [], rfl⟩
  have kept : ¬ Free before ['\u2028'] rest := by
    intro free
    cases free with
    | blanks blanks => exact absurd (blanks '\u2028' List.mem_cons_self) (by decide)
    | longer _ same => exact absurd same (by decide)
    | separator _ _ last => exact last ahead
  exact ⟨read, boundary, free, (parse_blankLine read boundary blank).1 free, kept,
    (parse_blankLine read boundary separator).2 kept⟩

/-- A line feed behind the last sentence is refused, so not every blank line is free. -/
theorem Mission.parse_blankLine_refused :
    ¬ ∀ (before line rest : List Char) (mission : Mission),
      parse (String.ofList (before ++ rest)) = .ok mission → Boundary before rest →
      BlankLine line → parse (String.ofList (before ++ line ++ rest)) = .ok mission := by
  intro every
  have blank : BlankLine ['\n'] := @BlankLine.mk [] ['\n'] (by simp) .lineFeed
  have read : parse (String.ofList ("Square 5 3\n".toList ++ [])) = .ok ⟨⟨5, 3⟩, []⟩ := by
    decide +kernel
  have accepted := every _ ['\n'] [] _ read (.behind square_reaches (by decide)) blank
  have refused : parse (String.ofList ("Square 5 3\n".toList ++ ['\n'] ++ [])) ≠
      .ok ⟨⟨5, 3⟩, []⟩ := by decide +kernel
  exact refused accepted

end ScentedGrid
