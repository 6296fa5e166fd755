import ScentedGrid.Text.Digits

/-! Reading the arguments of a command line. A form says which options there are and whether an
operand is wanted. An option's value stands in the same argument or in the next one; after two
dashes alone everything is an operand. -/

namespace ScentedGrid.CommandLine

inductive Value where
  | path (path : String)
  | number (number : Nat)

inductive Kind where
  | path
  | byte
  | word

/-- The number that a non-empty run of decimal digits stands for. -/
def digitsValue? (digits : List Char) : Option Nat :=
  if !digits.isEmpty && digits.all Char.isDigit then
    some (digits.foldl (fun value c => value * 10 + (c.toNat - '0'.toNat)) 0)
  else none

/-- Any number of 64 bits, with or without a plus sign. -/
def word? (characters : List Char) : Option Nat :=
  let digits := match characters with
    | '+' :: digits => digits
    | digits => digits
  (digitsValue? digits).filter (· < UInt64.size)

/-- At most 255, with or without a plus sign; a minus sign may stand before zero. -/
def byte? (characters : List Char) : Option Nat :=
  match characters with
  | '-' :: digits => (digitsValue? digits).filter (· == 0)
  | characters => (word? characters).filter (· ≤ 255)

/-- An empty path is no path. -/
def Kind.read? (kind : Kind) (text : String) : Option Value :=
  match kind with
  | path => if text.isEmpty then none else some (.path text)
  | byte => (byte? text.toList).map .number
  | word => (word? text.toList).map .number

structure Flag where
  long : String
  short : Option Char
  kind : Kind

structure Form where
  operand : Bool
  flags : List Flag

/-- What the arguments gave, with the values under the long names of their options. -/
structure Given where
  operand : Option String
  values : List (String × Value)

inductive Misuse where
  | noCommand
  | unknownCommand (name : String)
  | unexpected (argument : String)
  | missing (name : String)
  | repeated (name : String)
  | invalid (name text : String)

def Misuse.text : Misuse → String
  | noCommand => "a command is required"
  | unknownCommand name => "unrecognized command '" ++ name ++ "'"
  | unexpected argument => "unexpected argument '" ++ argument ++ "'"
  | missing name => "a value is required for '" ++ name ++ "'"
  | repeated name => "the argument '" ++ name ++ "' cannot be used multiple times"
  | invalid name text => "invalid value '" ++ text ++ "' for '" ++ name ++ "'"

inductive Token where
  | dashes
  | long (name : String) (value : Option String)
  | short (letter : Char) (value : Option String)
  | plain

/-- A dash alone is an operand or a value like any other text. -/
def Token.ofArgument (argument : String) : Token :=
  match argument.toList with
  | ['-', '-'] => dashes
  | '-' :: '-' :: rest =>
    match rest.dropWhile (· != '=') with
    | [] => long (String.ofList rest) none
    | _ :: value => long (String.ofList (rest.takeWhile (· != '='))) (some (String.ofList value))
  | ['-', letter] => short letter none
  | '-' :: letter :: '=' :: value => short letter (some (String.ofList value))
  | '-' :: letter :: value => short letter (some (String.ofList value))
  | _ => plain

/-- Help ends the reading where it is asked for. -/
def Token.asksHelp : Token → Bool
  | long "help" none => true
  | short 'h' _ => true
  | _ => false

namespace Form

/-- The option that a token names, and the value that stands in the same argument. -/
def flag? (form : Form) : Token → Option (Flag × Option String)
  | .long name value => (form.flags.find? (·.long == name)).map (·, value)
  | .short letter value => (form.flags.find? (·.short == some letter)).map (·, value)
  | _ => none

def withOperand (form : Form) (given : Given) (text : String) : Except Misuse Given :=
  if !form.operand || given.operand.isSome then .error (.unexpected text)
  else if text.isEmpty then .error (.missing "path")
  else .ok { given with operand := some text }

def withValue (given : Given) (flag : Flag) (text : String) : Except Misuse Given :=
  if given.values.any (·.1 == flag.long) then .error (.repeated flag.long)
  else
    match flag.kind.read? text with
    | none => .error (.invalid flag.long text)
    | some value => .ok { given with values := (flag.long, value) :: given.values }

def operands (form : Form) : List String → Given → Except Misuse Given
  | [], given => .ok given
  | argument :: rest, given =>
    match form.withOperand given argument with
    | .error misuse => .error misuse
    | .ok given => operands form rest given

/-- What all arguments give, or nothing if they ask for help. -/
def collect (form : Form) : List String → Given → Except Misuse (Option Given)
  | [], given => .ok (some given)
  | argument :: rest, given =>
    match Token.ofArgument argument with
    | .dashes => (operands form rest given).map some
    | .plain =>
      match form.withOperand given argument with
      | .error misuse => .error misuse
      | .ok given => collect form rest given
    | token =>
      if token.asksHelp then .ok none
      else
        match form.flag? token with
        | none => .error (.unexpected argument)
        | some (flag, some text) =>
          match withValue given flag text with
          | .error misuse => .error misuse
          | .ok given => collect form rest given
        | some (flag, none) =>
          match rest with
          | [] => .error (.missing flag.long)
          | text :: rest =>
            match Token.ofArgument text with
            | .plain =>
              match withValue given flag text with
              | .error misuse => .error misuse
              | .ok given => collect form rest given
            | _ => .error (.missing flag.long)

end Form

namespace Given

def path? (given : Given) (name : String) : Option String :=
  match given.values.lookup name with
  | some (.path path) => some path
  | _ => none

def number? (given : Given) (name : String) : Option Nat :=
  match given.values.lookup name with
  | some (.number number) => some number
  | _ => none

end Given
end ScentedGrid.CommandLine
