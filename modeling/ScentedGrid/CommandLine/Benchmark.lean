import ScentedGrid.Execution
import ScentedGrid.Generator

/-! Compiling and running one mission over and over, and what is reported about it. Each round
begins with the text and a fresh grid. -/

namespace ScentedGrid.CommandLine

open Text

structure Totals where
  bytes : Nat
  lost : Nat
  deriving DecidableEq

inductive RoundError where
  | compile (error : CompileError)
  | execute (error : ExecuteError)

def RoundError.message (visible : Char → Bool) : RoundError → String
  | compile error => error.message visible
  | execute error => error.message

namespace Totals

def zero : Totals := ⟨0, 0⟩

def add (first second : Totals) : Totals := ⟨first.bytes + second.bytes, first.lost + second.lost⟩

/-- What one round adds. -/
def ofRound (source : String) : Except RoundError Totals :=
  match ScentedGrid.compile source with
  | .error error => .error (.compile error)
  | .ok bytes =>
    match ScentedGrid.execute .silent bytes () with
    | (.error error, _) => .error (.execute error)
    | (.ok outcomes, _) => .ok ⟨bytes.length, outcomes.countP Outcome.lost⟩

def ofRounds (source : String) : Nat → Totals → Except RoundError Totals
  | 0, totals => .ok totals
  | rounds + 1, totals =>
    match ofRound source with
    | .error error => .error error
    | .ok round => ofRounds source rounds (totals.add round)

def report (totals : Totals) (mission : Mission) (rounds : Nat) : List String :=
  ["Benchmark results:",
    "  Iterations:        " ++ decimal rounds,
    "  Grid:              " ++ decimal mission.square.width.toNat ++ "x" ++
      decimal mission.square.height.toNat,
    "  Robots per run:    " ++ decimal mission.robots.length,
    "  Bytecode bytes:    " ++ decimal (totals.bytes / max rounds 1),
    "  Robots lost:       " ++ decimal totals.lost]

end Totals

/-- A quotient with a fixed number of decimal places, rounded to nearest. -/
def quotient (places numerator denominator : Nat) : String :=
  if denominator = 0 then if numerator = 0 then "NaN" else "inf"
  else
    let unit := Nat.pow 10 places
    let scaled := (numerator * unit * 2 + denominator) / (denominator * 2)
    if places = 0 then decimal scaled
    else
      decimal (scaled / unit) ++ "." ++
        String.ofList (zeroPadded places (decimal (scaled % unit)).toList)

/-- A time in the largest unit of which there is at least one. -/
def elapsed (nanoseconds : Nat) : String :=
  if 1000000000 ≤ nanoseconds then quotient 2 nanoseconds 1000000000 ++ "s"
  else if 1000000 ≤ nanoseconds then quotient 2 nanoseconds 1000000 ++ "ms"
  else if 1000 ≤ nanoseconds then quotient 2 nanoseconds 1000 ++ "µs"
  else quotient 2 nanoseconds 1 ++ "ns"

def timing (nanoseconds rounds robots : Nat) : List String :=
  ["  Elapsed:           " ++ elapsed nanoseconds,
    "  Runs/sec:          " ++ quotient 1 (rounds * 1000000000) nanoseconds,
    "  Robots/sec:        " ++ quotient 0 (rounds * robots * 1000000000) nanoseconds]

end ScentedGrid.CommandLine
