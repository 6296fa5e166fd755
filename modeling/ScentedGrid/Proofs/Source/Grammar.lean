import ScentedGrid.Proofs.Expressible

/-! The grammar of mission text, apart from any reader. A sentence may end with the text instead
of a line, so the larger parts are related to the text they begin and to the rest after them. -/

namespace ScentedGrid.Grammar

def Blanks (text : List Char) : Prop := ∀ c ∈ text, c = ' ' ∨ c = '\t' ∨ c = '\r' ∨ c = '\n'

def Spaces (text : List Char) : Prop := text ≠ [] ∧ ∀ c ∈ text, c = ' '

/-- The number that a row of decimal digits stands for, however long it is. -/
def decimalValue (digits : List Char) : Nat :=
  digits.foldl (fun value c => 10 * value + (c.toNat - '0'.toNat)) 0

structure Numeral (text : List Char) (value : Nat) : Prop where
  filled : text ≠ []
  digits : ∀ c ∈ text, '0' ≤ c ∧ c ≤ '9'
  exact : decimalValue text = value

structure Name (text : List Char) : Prop where
  filled : text ≠ []
  spelled : ∀ c ∈ text, NameChar c
  short : text.length ≤ 255

inductive LineEnd : List Char → Prop where
  | lineFeed : LineEnd ['\n']
  | returnAndFeed : LineEnd ['\r', '\n']
  | carriageReturn : LineEnd ['\r']
  | lineSeparator : LineEnd ['\u2028']
  | paragraphSeparator : LineEnd ['\u2029']

/-- Between a carriage return and a line feed there is no end of a line. -/
def InsideLineEnd (before rest : List Char) : Prop :=
  before.getLast? = some '\r' ∧ rest.head? = some '\n'

instance (before rest : List Char) : Decidable (InsideLineEnd before rest) := instDecidableAnd

/-- `mark` ends a sentence that `rest` follows. The end of the text needs no mark. -/
inductive SentenceEnd : List Char → List Char → Prop where
  | line {mark : List Char} (rest : List Char) : LineEnd mark → SentenceEnd mark rest
  | text : SentenceEnd [] []

/-- One space stands before the second number and one before the letter; elsewhere there may be
more. Numbers of a byte's type are at most 255. -/
inductive Sentence : List Char → Instruction → Prop where
  | landing {spaces first second : List Char} {x y : UInt8} (facing : Direction) :
      Spaces spaces → Numeral first x.toNat → Numeral second y.toNat →
      Sentence ("Move".toList ++ spaces ++ first ++ [' '] ++ second ++ [' ', facing.letter])
        (.landing x y facing)
  | heading {spaces : List Char} {commands : List Command} :
      Spaces spaces → commands ≠ [] →
      Sentence ("Rotate".toList ++ spaces ++ commands.map Command.letter) (.heading commands)

inductive Instructions : List Char → List Instruction → List Char → Prop where
  | nil (rest : List Char) : Instructions rest [] rest
  | cons {blanks sentence mark after rest : List Char} {first : Instruction}
      {more : List Instruction} :
      Blanks blanks → Sentence sentence first → SentenceEnd mark after →
      Instructions after more rest →
      Instructions (blanks ++ sentence ++ mark ++ after) (first :: more) rest

inductive Block : List Char → Robot → List Char → Prop where
  | mk {name mark body rest : List Char} {instructions : List Instruction} :
      Name name → SentenceEnd mark body → Instructions body instructions rest →
      Block (name ++ mark ++ body) ⟨String.ofList name, instructions⟩ rest

/-- Lines of blanks that end with a separator. Other line ends are blanks themselves. -/
inductive Gap : List Char → Prop where
  | nil : Gap []
  | cons {blanks gap : List Char} {separator : Char} :
      Blanks blanks → separator = '\u2028' ∨ separator = '\u2029' → Gap gap →
      Gap (blanks ++ separator :: gap)

inductive Blocks : List Char → List Robot → Prop where
  | done {gap : List Char} : Gap gap → Blocks gap []
  | block {gap blanks text rest : List Char} {first : Robot} {more : List Robot} :
      Gap gap → Blanks blanks → Block text first rest → Blocks rest more →
      Blocks (gap ++ blanks ++ text) (first :: more)

inductive MissionText : List Char → Mission → Prop where
  | mk {blanks spaces width between height mark rest : List Char} {square : Square}
      {robots : List Robot} :
      Blanks blanks → Spaces spaces → Numeral width square.width.toNat →
      Spaces between → Numeral height square.height.toNat → square.Positive →
      SentenceEnd mark rest → Blocks rest robots →
      MissionText (blanks ++ "Square".toList ++ spaces ++ width ++ between ++ height ++ mark ++ rest)
        ⟨square, robots⟩

end ScentedGrid.Grammar
