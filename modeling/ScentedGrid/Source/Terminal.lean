import ScentedGrid.Mission

/-! The smallest pieces of mission text. Each reader takes the text that remains and gives back
what remains after its piece, so what it read is what the two differ by. -/

namespace ScentedGrid.Source

/-- Blanks may stand before any sentence; carriage returns and line feeds are blanks too. -/
def isBlank (c : Char) : Bool := c == ' ' || c == '\t' || c == '\r' || c == '\n'

def skipBlanks (text : List Char) : List Char := text.dropWhile isBlank

def lineEnd? : List Char → Option (List Char)
  | '\n' :: rest => some rest
  | '\r' :: '\n' :: rest => some rest
  | '\r' :: rest => some rest
  | '\u2028' :: rest => some rest
  | '\u2029' :: rest => some rest
  | _ => none

/-- A sentence ends with its line or with the text. -/
def sentenceEnd? : List Char → Option (List Char)
  | [] => some []
  | text => lineEnd? text

/-- A line with nothing but blanks on it, as far as the blanks leave a line end to see. -/
def blankLine? (text : List Char) : Option (List Char) := lineEnd? (skipBlanks text)

def word? : List Char → List Char → Option (List Char)
  | [], text => some text
  | _ :: _, [] => none
  | letter :: word, c :: text => if letter = c then word? word text else none

/-- One space or more. -/
def spaces? : List Char → Option (List Char)
  | ' ' :: rest => some (rest.dropWhile (· == ' '))
  | _ => none

/-- The largest number that a numeral stands for; longer numerals stand for it as well. -/
def ceiling : Nat := UInt64.size - 1

def digitValue (c : Char) : Nat := c.toNat - '0'.toNat

/-- One more digit, held at the ceiling after the product and after the sum. -/
def saturatingDigit (value : Nat) (c : Char) : Nat :=
  min (min (value * 10) ceiling + digitValue c) ceiling

def numeralValue (digits : List Char) : Nat := digits.foldl saturatingDigit 0

def numeral? (text : List Char) : Option (Nat × List Char) :=
  if (text.takeWhile Char.isDigit).isEmpty then none
  else some (numeralValue (text.takeWhile Char.isDigit), text.dropWhile Char.isDigit)

def direction? : List Char → Option (Direction × List Char)
  | [] => none
  | c :: rest => (Direction.ofLetter? c).map (·, rest)

/-- The longest run of command letters, which may be empty. -/
def commandRun (text : List Char) : List Command × List Char :=
  let isCommand := fun c => (Command.ofLetter? c).isSome
  ((text.takeWhile isCommand).filterMap Command.ofLetter?, text.dropWhile isCommand)

theorem skipBlanks_suffix (text : List Char) : skipBlanks text <:+ text :=
  List.dropWhile_suffix isBlank

theorem lineEnd_suffix {text rest : List Char} (read : lineEnd? text = some rest) :
    rest <:+ text := by
  unfold lineEnd? at read
  split at read <;> cases read
  case h_2 => exact ⟨['\r', '\n'], rfl⟩
  all_goals exact List.suffix_cons _ _

theorem lineEnd_shorter {text rest : List Char} (read : lineEnd? text = some rest) :
    rest.length < text.length := by
  unfold lineEnd? at read
  split at read <;> cases read <;> simp only [List.length_cons] <;> omega

theorem sentenceEnd_suffix {text rest : List Char} (read : sentenceEnd? text = some rest) :
    rest <:+ text := by
  unfold sentenceEnd? at read
  split at read
  · simp_all
  · exact lineEnd_suffix read

theorem blankLine_suffix {text rest : List Char} (read : blankLine? text = some rest) :
    rest <:+ text :=
  (lineEnd_suffix read).trans (skipBlanks_suffix text)

theorem blankLine_shorter {text rest : List Char} (read : blankLine? text = some rest) :
    rest.length < text.length :=
  Nat.lt_of_lt_of_le (lineEnd_shorter read) (skipBlanks_suffix text).length_le

theorem word_append {word text rest : List Char} (read : word? word text = some rest) :
    word ++ rest = text := by
  fun_induction word? word text with
  | case1 text => simpa using read.symm
  | case2 => simp at read
  | case3 letter word text deeper => simp [deeper read]
  | case4 => simp at read

theorem word_suffix {word text rest : List Char} (read : word? word text = some rest) :
    rest <:+ text :=
  ⟨word, word_append read⟩

theorem spaces_suffix {text rest : List Char} (read : spaces? text = some rest) :
    rest <:+ text := by
  unfold spaces? at read
  split at read
  · cases read
    exact (List.dropWhile_suffix _).trans (List.suffix_cons _ _)
  · cases read

theorem numeral_suffix {text rest : List Char} {value : Nat}
    (read : numeral? text = some (value, rest)) : rest <:+ text := by
  unfold numeral? at read
  split at read
  · cases read
  · cases read
    exact List.dropWhile_suffix _

theorem direction_suffix {text rest : List Char} {facing : Direction}
    (read : direction? text = some (facing, rest)) : rest <:+ text := by
  cases text with
  | nil => cases read
  | cons c text =>
    simp only [direction?, Option.map_eq_some_iff, Prod.mk.injEq] at read
    obtain ⟨_, _, _, rfl⟩ := read
    exact List.suffix_cons _ _

theorem commandRun_suffix (text : List Char) : (commandRun text).2 <:+ text :=
  List.dropWhile_suffix _

end ScentedGrid.Source
