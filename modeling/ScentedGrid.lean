import ScentedGrid.Bytecode.Decoding
import ScentedGrid.Bytecode.Encoding
import ScentedGrid.Bytecode.Listing
import ScentedGrid.CommandLine.Response
import ScentedGrid.Execution
import ScentedGrid.Generator
import ScentedGrid.Main
import ScentedGrid.Proofs.Bytecode.RoundTrip
import ScentedGrid.Proofs.Expressible
import ScentedGrid.Proofs.Run
import ScentedGrid.Simulation
import ScentedGrid.Source.Reader
import ScentedGrid.Trace
import ScentedGrid.Proofs.Bytecode.Canonical
import ScentedGrid.Proofs.Source.Grammar
import ScentedGrid.Proofs.Source.Pieces
import ScentedGrid.Proofs.Source.Sentences
import ScentedGrid.Proofs.Source.Acceptance
import ScentedGrid.Proofs.Source.Printing
import ScentedGrid.Proofs.Simulation.Telling
import ScentedGrid.Proofs.Simulation.Walk
import ScentedGrid.Proofs.Simulation.Report
import ScentedGrid.Proofs.Execution
import ScentedGrid.Proofs.Simulation.History
import ScentedGrid.Proofs.Simulation.Replay
import ScentedGrid.Proofs.Simulation.Insertion
import ScentedGrid.Proofs.Generator
import ScentedGrid.Proofs.Simulation.Border
import ScentedGrid.Proofs.Simulation.Refusal
import ScentedGrid.Proofs.Trace.Cut
import ScentedGrid.Proofs.Simulation.Symmetry
import ScentedGrid.Proofs.Bytecode.Agreement
import ScentedGrid.Proofs.Simulation.Turns
import ScentedGrid.Proofs.Trace.Reading
import ScentedGrid.Proofs.Trace.Unambiguous
import ScentedGrid.Proofs.Bytecode.Truncation
import ScentedGrid.Proofs.Source.BlankLines
import ScentedGrid.Proofs.CommandLine
import ScentedGrid.Proofs.Pipeline
import ScentedGrid.Proofs.Simulation.Survivor
import ScentedGrid.Proofs.Bytecode.Faults
import ScentedGrid.Proofs.Bytecode.Continuation
import ScentedGrid.Proofs.Bytecode.Entries
import ScentedGrid.Proofs.Extension
import ScentedGrid.Proofs.Location
import ScentedGrid.Proofs.Source.Passage
import ScentedGrid.Proofs.Source.Unexpected
import ScentedGrid.Proofs.Source.Offences
import ScentedGrid.Proofs.Source.Violations
import ScentedGrid.Proofs.Source.Descent
import ScentedGrid.Proofs.Source.Cursor
import ScentedGrid.Proofs.Source.Rules
import ScentedGrid.Proofs.Source.Safety
import ScentedGrid.Proofs.Source.Numerals
import ScentedGrid.Proofs.Arguments
import ScentedGrid.Proofs.Benchmark
