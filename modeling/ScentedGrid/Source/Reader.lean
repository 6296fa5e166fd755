import ScentedGrid.Source.Error
import ScentedGrid.Source.Sentence

/-! Mission text as a whole: a square, then robots with their instructions, each sentence on a
line of its own. Every part that is read leaves less text, so reading ends. -/

namespace ScentedGrid.Source

/-- As many instructions as follow one another; blanks before anything else are left unread. -/
def instructions (text : List Char) : Except Refusal (List Instruction × List Char) :=
  match _ : instruction text with
  | .error refusal => .error refusal
  | .ok none => .ok ([], text)
  | .ok (some (found, rest)) =>
    match instructions rest with
    | .error refusal => .error refusal
    | .ok (more, rest) => .ok (found :: more, rest)
termination_by text.length
decreasing_by exact (instruction_suffix (by assumption)).2

/-- A name on a line of its own, and the instructions under it. -/
def robot (text : List Char) : Reading Robot :=
  let name := text.takeWhile isNameChar
  if name.isEmpty then .ok none
  else
    match sentenceEnd? (text.dropWhile isNameChar) with
    | none => .ok none
    | some body =>
      if 255 < name.length then .error ⟨.nameTooLong, text, body⟩
      else
        match instructions body with
        | .error refusal => .error refusal
        | .ok (found, rest) => .ok (some (⟨String.ofList name, found⟩, rest))

/-- The robots that were read, the text after the last of them and the furthest failure. -/
structure Robots where
  found : List Robot
  rest : List Char
  frontier : Frontier

theorem instructions_suffix {text rest : List Char} {found : List Instruction}
    (read : instructions text = .ok (found, rest)) : rest <:+ text := by
  fun_induction instructions text generalizing found rest with
  | case1 => cases read
  | case2 =>
    cases read
    exact List.suffix_refl _
  | case3 => cases read
  | case4 text first after step more rest' deeper ih =>
    cases read
    exact (ih deeper).trans (instruction_suffix step).1

theorem robot_suffix {text rest : List Char} {found : Robot}
    (read : robot text = .ok (some (found, rest))) :
    rest <:+ text ∧ rest.length < text.length := by
  unfold robot at read
  simp only at read
  split at read
  · cases read
  · next named =>
    split at read
    · cases read
    · next body ending =>
      split at read
      · cases read
      · split at read
        · cases read
        · next deeper =>
          cases read
          have suffix := (instructions_suffix deeper).trans (sentenceEnd_suffix ending)
          refine ⟨suffix.trans (List.dropWhile_suffix _), ?_⟩
          have parts := congrArg List.length
            (List.takeWhile_append_dropWhile (p := isNameChar) (l := text))
          have nonempty : (text.takeWhile isNameChar).length ≠ 0 := by
            simpa [List.isEmpty_iff] using named
          have := suffix.length_le
          simp only [List.length_append] at parts
          omega

/-- Robots one after another, with blank lines and blanks between them. -/
def robots (text : List Char) (frontier : Frontier) : Except Refusal Robots :=
  match _ : blankLine? text with
  | some rest => robots rest frontier
  | none =>
    let start := skipBlanks text
    let frontier := frontier.note start .endOfLine
    match _ : robot start with
    | .error refusal => .error refusal
    | .ok none => .ok ⟨[], text, frontier.note start .robot⟩
    | .ok (some (first, rest)) =>
      match robots rest frontier with
      | .error refusal => .error refusal
      | .ok more => .ok { more with found := first :: more.found }
termination_by text.length
decreasing_by
  · exact blankLine_shorter (by assumption)
  · exact Nat.lt_of_lt_of_le (robot_suffix (by assumption)).2 (skipBlanks_suffix text).length_le

/-- The error that a refused sentence of a text is reported as. -/
def Refusal.report (refusal : Refusal) (text : List Char) : SourceError :=
  { cause := .violation refusal.rule
    start := .ofRest text refusal.start
    stop := .ofRest text refusal.stop }

/-- The mission that a whole text spells. -/
def mission (text : List Char) : Except SourceError Mission :=
  match square (skipBlanks text) with
  | .error refusal => .error (refusal.report text)
  | .ok none => .error (((Frontier.start text).note text .square).report text)
  | .ok (some (found, body)) =>
    match robots body (.start text) with
    | .error refusal => .error (refusal.report text)
    | .ok ⟨robots, [], _⟩ => .ok ⟨found, robots⟩
    | .ok ⟨_, rest, frontier⟩ => .error ((frontier.note rest .endOfInput).report text)

end ScentedGrid.Source

namespace ScentedGrid

def Mission.parse (source : String) : Except SourceError Mission := Source.mission source.toList

end ScentedGrid
