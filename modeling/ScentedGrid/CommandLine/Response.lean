import ScentedGrid.Bytecode.Listing
import ScentedGrid.CommandLine.Benchmark
import ScentedGrid.CommandLine.Files
import ScentedGrid.CommandLine.Invocation
import ScentedGrid.Trace

/-! What a command does: the files it writes, its exit code and the two texts it prints. Both texts
are taken to reach their reader whole, and the log that a command may keep on `stderr` is left out:
what a closed output or a log setting changes is no part of a response. -/

namespace ScentedGrid.CommandLine

open Text

structure Response where
  exit : Nat
  stdout : String
  stderr : String
  deriving DecidableEq

/-- Lines, each with its end. -/
def lined (lines : List String) : String := String.join (lines.map fun line => line ++ "\n")

/-- What a command takes from the platform it runs on, besides files: the source of its random draws
and the characters that a message shows as they are. -/
structure Platform (σ : Type) where
  sampler : Sampler σ
  visible : Char → Bool

/-- The engine, with more patience than any draw asks for. -/
def Platform.standard : Platform Draw.Engine := ⟨.engine Plan.patience, isVisible⟩

inductive Failure where
  | read (path : String) (fault : FileFault)
  | notText (path : String)
  | write (path : String) (fault : FileFault)
  | compile (path : String) (error : CompileError)
  | execute (error : ExecuteError)
  | round (error : RoundError)
  /-- Stands for a draw that never ends. Where a source of draws finds no value, a command would go on
  drawing and give no answer at all. -/
  | noMission

variable (visible : Char → Bool)

namespace Failure

def text : Failure → String
  | read path fault => "failed to read " ++ path ++ ": " ++ fault.text
  | notText path => "failed to read " ++ path ++ ": stream did not contain valid UTF-8"
  | write path fault => "failed to write " ++ path ++ ": " ++ fault.text
  | compile path error => "failed to compile " ++ path ++ ": " ++ error.message visible
  | execute error => error.message
  | round error => error.message visible
  | noMission => "the seed gives no mission"

def response (failure : Failure) (stdout : String) : Response :=
  ⟨1, stdout, lined ["error: " ++ failure.text visible]⟩

end Failure

def Response.done (stdout : String) : Response := ⟨0, stdout, ""⟩

/-- The bytecode of a source file, from what reading the file gave. -/
def compileFile (path : String) (content : Except FileFault (List UInt8)) :
    Except Failure (List UInt8) :=
  match content with
  | .error fault => .error (.read path fault)
  | .ok bytes =>
    match Utf8.decode? bytes with
    | none => .error (.notText path)
    | some source =>
      match ScentedGrid.compile source with
      | .error error => .error (.compile path error)
      | .ok bytecode => .ok bytecode

/-- Prints the trace of a run, as far as the run came. -/
def trace (bytecode : List UInt8) : Response :=
  match ScentedGrid.execute .jsonText bytecode "" with
  | (.ok _, text) => .done text
  | (.error error, text) => (Failure.execute error).response visible text

def benchmark (mission : Mission) (rounds : Nat) : Response :=
  match Totals.ofRounds mission.source rounds .zero with
  | .error error => (Failure.round error).response visible ""
  | .ok totals => ⟨0, "", lined (totals.report mission rounds)⟩

def usage : String :=
  "Compile and run robot missions on a scented grid\n\n" ++
    "  compile SOURCE [-o OUTPUT]\n" ++
    "  run BYTECODE\n" ++
    "  exec SOURCE\n" ++
    "  disasm BYTECODE\n" ++
    "  generate --seed SEED [--width W] [--height H] [--robots N] [--commands N] [-o OUTPUT]\n" ++
    "  bench --seed SEED [--width W] [--height H] [--robots N] [--commands N] [--iterations N]\n"

section

variable {m : Type → Type} [Monad m] {σ : Type}

def writeFile (files : FileAccess m) (path : String) (content : List UInt8) : m Response := do
  match ← files.write path content with
  | .error fault => return (Failure.write path fault).response visible ""
  | .ok () => return .done ""

def Invocation.respond (platform : Platform σ) (files : FileAccess m) : Invocation → m Response
  | help => return .done usage
  | compile source output => do
    match compileFile source (← files.read source) with
    | .error failure => return failure.response platform.visible ""
    | .ok bytecode => writeFile platform.visible files output bytecode
  | run path => do
    match ← files.read path with
    | .error fault => return (Failure.read path fault).response platform.visible ""
    | .ok bytecode => return trace platform.visible bytecode
  | exec source => do
    match compileFile source (← files.read source) with
    | .error failure => return failure.response platform.visible ""
    | .ok bytecode => return trace platform.visible bytecode
  | disasm path => do
    match ← files.read path with
    | .error fault => return (Failure.read path fault).response platform.visible ""
    | .ok bytecode => return .done (Bytecode.listing platform.visible bytecode)
  | generate plan seed output =>
    match platform.sampler.mission? plan (platform.sampler.ofSeed seed) with
    | none => return Failure.noMission.response platform.visible ""
    | some mission =>
      match output with
      | none => return .done mission.source
      | some path => writeFile platform.visible files path (Utf8.encode mission.source)
  | bench plan seed rounds =>
    match platform.sampler.mission? plan (platform.sampler.ofSeed seed) with
    | none => return Failure.noMission.response platform.visible ""
    | some mission => return benchmark platform.visible mission rounds

/-- Arguments that name nothing to do change nothing. -/
def respond (platform : Platform σ) (files : FileAccess m) (arguments : List String) : m Response :=
  match Invocation.parse arguments with
  | .error misuse => return ⟨2, "", lined ["error: " ++ misuse.text]⟩
  | .ok invocation => invocation.respond platform files

end

/-- What a command adds to `stderr` about the time it took. -/
def timingText (arguments : List String) (response : Response) (nanoseconds : Nat) : String :=
  match Invocation.parse arguments with
  | .ok (.bench plan _ rounds) =>
    if response.exit = 0 then lined (timing nanoseconds rounds plan.robots) else ""
  | _ => ""

end ScentedGrid.CommandLine
