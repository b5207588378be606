import IntcodeMachine.Text.Blank
import IntcodeMachine.Text.DecimalDigit
import IntcodeMachine.Text.Quoted
import IntcodeMachine.Text.Lines
import IntcodeMachine.Numeral.Reader
import IntcodeMachine.Value
import IntcodeMachine.Failure
import IntcodeMachine.Tape
import IntcodeMachine.Tape.Program
import IntcodeMachine.Tape.Difference
import IntcodeMachine.Tape.Dump
import IntcodeMachine.Instruction
import IntcodeMachine.Signal
import IntcodeMachine.Log
import IntcodeMachine.Channel.Console
import IntcodeMachine.Channel
import IntcodeMachine.Host
import IntcodeMachine.Action
import IntcodeMachine.Operation
import IntcodeMachine.Operation.Standard
import IntcodeMachine.Operation.Routine
import IntcodeMachine.Operation.Procedure
import IntcodeMachine.Table
import IntcodeMachine.Machine.Trace
import IntcodeMachine.Machine
import IntcodeMachine.Machine.Run
import IntcodeMachine.Machine.Collect
import IntcodeMachine.Text.Utf8
import IntcodeMachine.CommandLine.Path
import IntcodeMachine.CommandLine.Files
import IntcodeMachine.CommandLine.Word
import IntcodeMachine.CommandLine.Options
import IntcodeMachine.CommandLine.Report
import IntcodeMachine.CommandLine.Run
import IntcodeMachine.Main
import IntcodeMachine.Proofs.Execution.Attempt
import IntcodeMachine.Proofs.Execution.Runs
import IntcodeMachine.Proofs.Execution.Calls
import IntcodeMachine.Proofs.Execution.Fetching
import IntcodeMachine.Proofs.Execution.Invariants
import IntcodeMachine.Proofs.Semantics.Rules
import IntcodeMachine.Proofs.Semantics.Checks
import IntcodeMachine.Proofs.Semantics.Assembly
import IntcodeMachine.Proofs.Semantics.Supply
import IntcodeMachine.Proofs.Semantics.Resumption
import IntcodeMachine.Proofs.Simulation.Decoding
import IntcodeMachine.Proofs.Simulation.Execution
import IntcodeMachine.Proofs.Simulation.Dispatch
import IntcodeMachine.Proofs.Simulation.Runs
import IntcodeMachine.Proofs.Simulation.Collection
import IntcodeMachine.Proofs.Simulation.Scripted
import IntcodeMachine.Proofs.Failure.Stages
import IntcodeMachine.Proofs.Failure.Frame
import IntcodeMachine.Proofs.Failure.Faults
import IntcodeMachine.Proofs.Failure.Origin
import IntcodeMachine.Proofs.Suspension.Schedule
import IntcodeMachine.Proofs.Suspension.Transparency
import IntcodeMachine.Proofs.Tracing.Agreement
import IntcodeMachine.Proofs.Tracing.Neutrality
import IntcodeMachine.Proofs.Tracing.Path
import IntcodeMachine.Proofs.Numeral.Decimal
import IntcodeMachine.Proofs.Text.Pieces
import IntcodeMachine.Proofs.Text.Words
import IntcodeMachine.Proofs.Tracing.Lines
import IntcodeMachine.Proofs.Tape.Grammar
import IntcodeMachine.Proofs.Tape.RoundTrip
import IntcodeMachine.Proofs.Simulation.Comparisons
import IntcodeMachine.Proofs.Execution.Replacement
import IntcodeMachine.Proofs.Execution.Bounds
import IntcodeMachine.Proofs.Execution.States
import IntcodeMachine.Proofs.Execution.Prediction
import IntcodeMachine.Proofs.Execution.Forward
import IntcodeMachine.Proofs.Execution.Stepping
import IntcodeMachine.Proofs.Simulation.Causality
import IntcodeMachine.Proofs.Semantics.Extension
import IntcodeMachine.Proofs.Simulation.Extension
import IntcodeMachine.Proofs.Execution.Requests
import IntcodeMachine.Proofs.Execution.Confinement
import IntcodeMachine.Proofs.Execution.Outputs
import IntcodeMachine.Proofs.Tape.Dumping
import IntcodeMachine.Proofs.Tape.Regions
import IntcodeMachine.Proofs.Tape.Columns
import IntcodeMachine.Proofs.CommandLine.Ending
import IntcodeMachine.Proofs.CommandLine.Exit
import IntcodeMachine.Proofs.Simulation.Echo
import IntcodeMachine.Proofs.CommandLine.Library
import IntcodeMachine.Proofs.Instruction.Digits
import IntcodeMachine.Proofs.Table.Overriding
import IntcodeMachine.Proofs.Table.Histories
import IntcodeMachine.Proofs.Channel.Console
import IntcodeMachine.Proofs.Tape.Changes
import IntcodeMachine.Proofs.Execution.Snapshots
