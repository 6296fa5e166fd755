import ScentedGrid.CommandLine.Arguments
import ScentedGrid.Generator

/-! The commands and what each of them is asked to do. -/

namespace ScentedGrid.CommandLine

inductive Invocation where
  | help
  | compile (source output : String)
  | run (bytecode : String)
  | exec (source : String)
  | disasm (bytecode : String)
  | generate (plan : Plan) (seed : UInt64) (output : Option String)
  | bench (plan : Plan) (seed : UInt64) (iterations : Nat)

inductive Subcommand where
  | compile
  | run
  | exec
  | disasm
  | generate
  | bench

namespace Subcommand

def ofName? : String → Option Subcommand
  | "compile" => some compile
  | "run" => some run
  | "exec" => some exec
  | "disasm" => some disasm
  | "generate" => some generate
  | "bench" => some bench
  | _ => none

def output : Flag := ⟨"output", some 'o', .path⟩

def planFlags : List Flag :=
  [⟨"seed", none, .word⟩, ⟨"width", none, .byte⟩, ⟨"height", none, .byte⟩,
    ⟨"robots", none, .word⟩, ⟨"commands", none, .word⟩]

def form : Subcommand → Form
  | compile => ⟨true, [output]⟩
  | run => ⟨true, []⟩
  | exec => ⟨true, []⟩
  | disasm => ⟨true, []⟩
  | generate => ⟨false, output :: planFlags⟩
  | bench => ⟨false, ⟨"iterations", none, .word⟩ :: planFlags⟩

def plan (given : Given) : Plan :=
  { width := UInt8.ofNat ((given.number? "width").getD Plan.standard.width.toNat)
    height := UInt8.ofNat ((given.number? "height").getD Plan.standard.height.toNat)
    robots := (given.number? "robots").getD Plan.standard.robots
    commands := (given.number? "commands").getD Plan.standard.commands }

def withOperand (given : Given) (name : String) (asked : String → Invocation) :
    Except Misuse Invocation :=
  match given.operand with
  | some path => .ok (asked path)
  | none => .error (.missing name)

def withSeed (given : Given) (asked : UInt64 → Invocation) : Except Misuse Invocation :=
  match given.number? "seed" with
  | some seed => .ok (asked (UInt64.ofNat seed))
  | none => .error (.missing "seed")

def invocation (command : Subcommand) (given : Given) : Except Misuse Invocation :=
  match command with
  | compile =>
    withOperand given "source" fun source =>
      .compile source ((given.path? "output").getD "output.bytecode")
  | run => withOperand given "bytecode" .run
  | exec => withOperand given "source" .exec
  | disasm => withOperand given "bytecode" .disasm
  | generate => withSeed given fun seed => .generate (plan given) seed (given.path? "output")
  | bench =>
    withSeed given fun seed =>
      .bench (plan given) seed ((given.number? "iterations").getD 10000)

end Subcommand

/-- Help may be asked about the whole or about one command. -/
def helpTopic : List String → Except Misuse Invocation
  | [] => .ok .help
  | [topic] =>
    if topic == "help" || (Subcommand.ofName? topic).isSome then .ok .help
    else .error (.unknownCommand topic)
  | _ :: extra :: _ => .error (.unknownCommand extra)

def Invocation.parse : List String → Except Misuse Invocation
  | [] => .error .noCommand
  | first :: rest =>
    match Subcommand.ofName? first with
    | some command =>
      match command.form.collect rest ⟨none, []⟩ with
      | .error misuse => .error misuse
      | .ok none => .ok .help
      | .ok (some given) => command.invocation given
    | none =>
      if first == "help" then helpTopic rest
      else
        match Token.ofArgument first with
        | .plain => .error (.unknownCommand first)
        | token => if token.asksHelp then .ok .help else .error (.unexpected first)

end ScentedGrid.CommandLine
