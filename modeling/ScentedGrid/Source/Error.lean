import ScentedGrid.Text.Location

/-! Why a text is no mission: either a sentence that is well formed breaks a rule on its
values, or reading came to a character that nothing could go on from, further into the text than any
other way of reading came. -/

namespace ScentedGrid.Source

inductive Violation where
  | squareZero
  | squareTooLarge
  | nameTooLong
  | landingTooLarge
  | landingParameters
  | headingParameters
  deriving DecidableEq

def Violation.text : Violation → String
  | squareZero => "Planet definition must be > 0"
  | squareTooLarge => "Planet definition must be <= 255"
  | nameTooLong => "Robot name must be <= 255 characters"
  | landingTooLarge => "Movement must be <= 255"
  | landingParameters => "Movement expects only 3 params"
  | headingParameters => "Rotation expects only 1 param"

/-- What could have stood where reading came to an end. -/
inductive Expectation where
  | square
  | robot
  | endOfInput
  | endOfLine
  deriving DecidableEq

namespace Expectation

def text : Expectation → String
  | square => "Planet Definition"
  | robot => "Block"
  | endOfInput => "end of input"
  | endOfLine => "end of line"

/-- In the order in which a message lists them. -/
def all : List Expectation := [robot, square, endOfInput, endOfLine]

end Expectation

/-- Names joined by commas and a last "or". -/
def alternatives : List String → String
  | [] => "nothing"
  | [only] => only
  | [first, last] => first ++ " or " ++ last
  | first :: rest => first ++ ", " ++ further rest
where
  further : List String → String
    | [] => ""
    | [last] => "or " ++ last
    | next :: rest => next ++ ", " ++ further rest

def isControl (c : Char) : Bool := c.toNat < 0x20 || (0x7F ≤ c.toNat && c.toNat < 0xA0)

/-- A character as a message shows it. -/
def shown (c : Char) : String :=
  match c with
  | '\\' => "\\\\"
  | '"' => "\\\""
  | '\x00' => "\\0"
  | '\t' => "\\t"
  | '\n' => "\\n"
  | '\r' => "\\r"
  | c => if isControl c then "\\x" ++ Text.hexCapital 2 c.toNat else String.singleton c

inductive Cause where
  | violation (rule : Violation)
  | unexpected (expected : List Expectation) (found : Option Char)
  deriving DecidableEq

def Cause.text : Cause → String
  | violation rule => rule.text
  | unexpected expected found =>
    "Expected " ++ alternatives (expected.map Expectation.text) ++ " but " ++
      (match found with
        | some c => "\"" ++ shown c ++ "\""
        | none => "end of input") ++ " found."

end ScentedGrid.Source

namespace ScentedGrid

open Source Text

/-- The first fault of a text, and the part of the text that shows it. -/
structure SourceError where
  cause : Cause
  start : Location
  stop : Location
  deriving DecidableEq

def SourceError.message (error : SourceError) : String :=
  error.cause.text ++ " at " ++ error.start.describe

namespace Source

/-- The furthest point at which reading failed. Of all failures only those furthest into the text are
reported, with everything that could have stood there. -/
structure Frontier where
  rest : List Char
  expected : List Expectation

namespace Frontier

def start (text : List Char) : Frontier := ⟨text, []⟩

/-- A failure further on replaces what was expected before, one at the same point adds to it,
and one that lies behind is forgotten. -/
def note (frontier : Frontier) (rest : List Char) (missing : Expectation) : Frontier :=
  if frontier.rest.length < rest.length then frontier
  else if rest.length < frontier.rest.length then ⟨rest, [missing]⟩
  else ⟨frontier.rest, missing :: frontier.expected⟩

/-- Each expectation once, in the order of messages, and the character that stood in the way. -/
def report (frontier : Frontier) (text : List Char) : SourceError :=
  { cause := .unexpected (Expectation.all.filter (· ∈ frontier.expected)) frontier.rest.head?
    start := .ofRest text frontier.rest
    stop := .ofRest text frontier.rest.tail }

end Frontier

end Source
end ScentedGrid
