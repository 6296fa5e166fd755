import ScentedGrid.Proofs.Source.Unexpected
import Mathlib.Data.List.Destutter
import Mathlib.Data.List.Sort

/-! Mission text read with a cursor. A descent keeps the whole text and counts bytes: its rules move
the cursor on by characters, by words or by one, put it back where they fail, and note on the way
how far any of them came. Nothing here makes sure that the cursor stays between characters or that
a loop ends; a descent that goes wrong halts and says so. -/

namespace ScentedGrid.Source

open Text

/-- The text before and behind a byte offset. There is none inside a character or past the end. -/
def cut? : List Char → Nat → Option (List Char × List Char)
  | text, 0 => some ([], text)
  | [], _ + 1 => none
  | c :: rest, offset + 1 =>
    if c.utf8Size ≤ offset + 1 then
      (cut? rest (offset + 1 - c.utf8Size)).map fun (before, behind) => (c :: before, behind)
    else none

/-- The cursor, the furthest failure and the names of what failed there, and how many rules keep
the failures inside them to themselves. -/
structure Descent where
  cursor : Nat
  furthest : Nat
  expected : List String
  silence : Nat

namespace Descent

def start : Descent := ⟨0, 0, [], 0⟩

/-- A failure at the cursor. Names of an earlier place give way, and silence keeps nothing. -/
def note (descent : Descent) (name : String) : Descent :=
  if 0 < descent.silence ∨ descent.cursor < descent.furthest then descent
  else if descent.furthest < descent.cursor then
    { descent with furthest := descent.cursor, expected := [name] }
  else { descent with expected := descent.expected ++ [name] }

/-- Why a descent goes no further: a cursor that is not between characters, a loop that has gone
through more rounds than there are characters, or an error in the text. -/
inductive Halt where
  | astray
  | endless
  | refused (message : String) (start stop : Location)
  deriving DecidableEq

end Descent

open Descent

/-- A rule finds its piece or fails, and leaves the descent somewhere in either case. -/
def Rule (α : Type) : Type := Descent → Except Halt (Option α × Descent)

namespace Rule

variable {α : Type}

instance : Monad Rule where
  pure found := fun descent => .ok (some found, descent)
  bind rule next := fun descent =>
    match rule descent with
    | .error halt => .error halt
    | .ok (none, descent) => .ok (none, descent)
    | .ok (some found, descent) => next found descent

/-- The rule with its failure as an answer. -/
def attempt (rule : Rule α) : Rule (Option α) := fun descent =>
  match rule descent with
  | .error halt => .error halt
  | .ok (found, descent) => .ok (some found, descent)

def orElse (first second : Rule α) : Rule α := do
  match ← first.attempt with
  | some found => pure found
  | none => second

def fail : Rule α := fun descent => .ok (none, descent)

def halt (reason : Halt) : Rule α := fun _ => .error reason

/-- Fails for want of what has this name. -/
def miss (name : String) : Rule α := fun descent => .ok (none, descent.note name)

def position : Rule Nat := fun descent => .ok (some descent.cursor, descent)

/-- The place so many bytes before the cursor. -/
def positionBefore (count : Nat) : Rule Nat := fun descent =>
  if count ≤ descent.cursor then .ok (some (descent.cursor - count), descent) else .error .astray

def silently (rule : Rule α) : Rule α := fun descent =>
  match rule { descent with silence := descent.silence + 1 } with
  | .error halt => .error halt
  | .ok (found, descent) => .ok (found, { descent with silence := descent.silence - 1 })

variable (text : List Char)

/-! ## The cursor -/

def ahead : Rule (List Char) := fun descent =>
  match cut? text descent.cursor with
  | some (_, rest) => .ok (some rest, descent)
  | none => .error .astray

/-- No other rule sets the cursor. -/
def moveTo (offset : Nat) : Rule Unit := fun descent =>
  match cut? text offset with
  | some _ => .ok (some (), { descent with cursor := offset })
  | none => .error .astray

def advance (count : Nat) : Rule Unit := do moveTo text ((← position) + count)

/-- The text from an offset to another. -/
def slice (start stop : Nat) : Rule (List Char) := fun descent =>
  match cut? text start with
  | some (_, rest) =>
    match cut? rest (stop - start) with
    | some (part, _) => if start ≤ stop then .ok (some part, descent) else .error .astray
    | none => .error .astray
  | none => .error .astray

/-- More rounds than any loop over the text needs. -/
def rounds : Nat := text.length + 1

/-- Puts the cursor back where the rule fails, and notes the name of the rule only. -/
def named (name : String) (rule : Rule α) : Rule α := do
  let start ← position
  match ← rule.silently.attempt with
  | some found => pure found
  | none => do
    moveTo text start
    miss name

def refuse (rule : Violation) (start : Nat) : Rule α := fun descent =>
  .error (.refused rule.text (.ofOffset text start) (.ofOffset text descent.cursor))

/-! ## Pieces -/

def takeWhile (inside : Char → Bool) : Nat → Rule Unit
  | 0 => halt .endless
  | rounds + 1 => do
    match (← ahead text).head? with
    | none => pure ()
    | some c =>
      if inside c then do
        advance text c.utf8Size
        takeWhile inside rounds
      else pure ()

def blanks : Rule Unit := takeWhile text isBlank (rounds text)

def spaces : Rule Unit := do
  let start ← position
  takeWhile text (· == ' ') (rounds text)
  if (← position) = start then miss "\" \"" else pure ()

def numeral : Rule Nat := do
  let start ← position
  takeWhile text Char.isDigit (rounds text)
  let stop ← position
  if stop = start then miss "[0-9]"
  else do
    let digits ← slice text start stop
    pure (numeralValue digits)

def word (word : String) : Rule Unit := do
  if word.toList.isPrefixOf (← ahead text) then advance text (byteLength word.toList)
  else miss word

/-- The first of the marks that the text goes on with. -/
def oneOf : List String → Rule Unit
  | [] => miss "end of line"
  | mark :: marks => do
    if mark.toList.isPrefixOf (← ahead text) then advance text (byteLength mark.toList)
    else oneOf marks

def lineEnds : List String := ["\n", "\r\n", "\r", "\u2028", "\u2029"]

def lineEnd : Rule Unit := oneOf text lineEnds

def endOfText : Rule Unit := do
  if (← position) = byteLength text then pure () else miss "End Of File"

def sentenceEnd : Rule Unit := named text "End Of Sentence" ((lineEnd text).orElse (endOfText text))

def direction : Rule Direction := do
  match (← ahead text).head?.bind Direction.ofLetter? with
  | some facing => do
    advance text 1
    pure facing
  | none => miss "Direction"

def commands : Nat → Rule (List Command)
  | 0 => halt .endless
  | rounds + 1 => do
    match (← ahead text).head?.bind Command.ofLetter? with
    | some command => do
      advance text 1
      let more ← commands rounds
      pure (command :: more)
    | none => pure []

/-! ## Sentences -/

def squareShape : Rule (Nat × Nat) := do
  word text "Square"
  spaces text
  let width ← numeral text
  spaces text
  let height ← numeral text
  sentenceEnd text
  pure (width, height)

def square : Rule Square := named text "Planet Definition" do
  blanks text
  let start ← position
  let (width, height) ← squareShape text
  if width = 0 ∨ height = 0 then refuse text .squareZero start
  else if width ≤ 255 ∧ height ≤ 255 then pure ⟨UInt8.ofNat width, UInt8.ofNat height⟩
  else refuse text .squareTooLarge start

def landingShape : Rule (Nat × Nat × Direction) := do
  word text "Move"
  spaces text
  let x ← numeral text
  word text " "
  let y ← numeral text
  word text " "
  let facing ← direction text
  pure (x, y, facing)

def landing : Rule Instruction := named text "Movement" do
  let start ← position
  let (x, y, facing) ← landingShape text
  if x ≤ 255 ∧ y ≤ 255 then pure (.landing (UInt8.ofNat x) (UInt8.ofNat y) facing)
  else refuse text .landingTooLarge start

def headingShape : Rule (List Command) := do
  word text "Rotate"
  spaces text
  let found ← commands text (rounds text)
  if found.isEmpty then miss "\"R\", \"F\", or \"L\"" else pure found

def heading : Rule Instruction := named text "Rotation Type" do
  pure (.heading (← headingShape text))

/-- The sentence ends behind the piece, or `rule` is broken. -/
def ended (rule : Violation) (start : Nat) (found : Instruction) : Rule Instruction := do
  match ← (sentenceEnd text).attempt with
  | some _ => pure found
  | none => refuse text rule start

def instruction : Rule Instruction := do
  let start ← position
  blanks text
  let keyword ← position
  match ← (landing text).attempt with
  | some found => ended text .landingParameters keyword found
  | none => do
    moveTo text start
    blanks text
    let keyword ← position
    match ← (heading text).attempt with
    | some found => ended text .headingParameters keyword found
    | none => do
      moveTo text start
      fail

def instructions : Nat → Rule (List Instruction)
  | 0 => halt .endless
  | rounds + 1 => do
    let start ← position
    match ← (instruction text).attempt with
    | some first => do
      let more ← instructions rounds
      pure (first :: more)
    | none => do
      moveTo text start
      pure []

/-! ## Texts -/

def name : Rule (List Char) := named text "Robot Name" do
  blanks text
  let start ← position
  takeWhile text isNameChar (rounds text)
  let stop ← position
  if stop = start then miss "[a-zA-Z0-9_]" else slice text start stop

def robot : Rule Robot := named text "Block" do
  let name ← name text
  let start ← positionBefore (byteLength name)
  sentenceEnd text
  if 255 < byteLength name then refuse text .nameTooLong start
  else do
    let found ← instructions text (rounds text)
    pure ⟨String.ofList name, found⟩

def robots : Nat → Rule (List Robot)
  | 0 => halt .endless
  | rounds + 1 => do
    let start ← position
    match ← (do blanks text; lineEnd text).attempt with
    | some _ => robots rounds
    | none => do
      moveTo text start
      blanks text
      match ← (robot text).attempt with
      | some first => do
        let more ← robots rounds
        pure (first :: more)
      | none => do
        moveTo text start
        pure []

/-- Names in the order of their characters, each of them once. -/
def listed (names : List String) : List String := (names.insertionSort (· ≤ ·)).destutter (· ≠ ·)

def unexpected : Rule α := fun descent =>
  match cut? text descent.furthest with
  | none => .error .astray
  | some (_, rest) =>
    .error (.refused
      ("Expected " ++ alternatives (listed descent.expected) ++ " but " ++
        standing rest.head? ++ " found.")
      (.ofOffset text descent.furthest)
      (.ofOffset text (descent.furthest + rest.head?.elim 0 Char.utf8Size)))

def mission : Rule Mission := do
  match ← (square text).attempt with
  | none => unexpected text
  | some square => do
    let robots ← robots text (rounds text)
    if (← position) < byteLength text then do
      let _ ← (miss "end of input" : Rule Unit).attempt
      unexpected text
    else pure ⟨square, robots⟩

end Rule

/-- The answer of a descent through a whole text. -/
def descend (text : List Char) : Except Halt (Option Mission) :=
  (Rule.mission text .start).map Prod.fst

end ScentedGrid.Source
