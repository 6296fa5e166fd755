import ScentedGrid.Bytecode.Decoding
import ScentedGrid.Bytecode.Encoding
import ScentedGrid.Simulation
import ScentedGrid.Source.Reader

/-! From mission text to bytecode, and from bytecode to a run. -/

namespace ScentedGrid

inductive CompileError where
  | source (error : SourceError)
  | encode (error : EncodeError)
  deriving DecidableEq

def CompileError.message (visible : Char → Bool) : CompileError → String
  | source error => error.message
  | encode error => error.message visible

def compile (source : String) : Except CompileError (List UInt8) :=
  match Mission.parse source with
  | .error error => .error (.source error)
  | .ok mission =>
    match mission.encode with
    | .error error => .error (.encode error)
    | .ok bytes => .ok bytes

inductive ExecuteError where
  | decode (error : DecodeError)
  | run (error : RunError)
  deriving DecidableEq

def ExecuteError.message : ExecuteError → String
  | decode error => error.message
  | run error => error.message

/-- Bytes that hold no mission leave the sink as it is. -/
def execute {σ : Type} (sink : Sink σ) (bytes : List UInt8) (out : σ) :
    Except ExecuteError (List Outcome) × σ :=
  match Mission.decode bytes with
  | .error error => (.error (.decode error), out)
  | .ok mission =>
    match mission.simulate sink out with
    | (.error error, world) => (.error (.run error), world.out)
    | (.ok outcomes, world) => (.ok outcomes, world.out)

section

variable {σ : Type} {bytes : List UInt8}

theorem execute_of_refused {error : DecodeError} (refused : Mission.decode bytes = .error error)
    (sink : Sink σ) (out : σ) : execute sink bytes out = (.error (.decode error), out) := by
  simp only [execute, refused]

/-- Bytes of a mission are run as the mission is. -/
theorem execute_of_decode {mission : Mission} (decoded : Mission.decode bytes = .ok mission)
    (sink : Sink σ) (out : σ) :
    execute sink bytes out =
      ((mission.simulate sink out).1.mapError .run, (mission.simulate sink out).2.out) := by
  simp only [execute, decoded]
  cases mission.simulate sink out with
  | mk answer world => cases answer <;> rfl

end

end ScentedGrid
