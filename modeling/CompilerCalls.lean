import CompilerCalls.CommandLine.Run
import CompilerCalls.Flag.Gnu
import CompilerCalls.Main
import CompilerCalls.Proofs.Flag.Gnu
import CompilerCalls.Proofs.Call.Answers
import CompilerCalls.Proofs.Call.SingleSource
import CompilerCalls.Proofs.Path.NormalForm
import CompilerCalls.Proofs.Call.Replay
import CompilerCalls.Proofs.Call.IncludeSuffix
import CompilerCalls.Proofs.Flag.Cursor
import CompilerCalls.Proofs.Flag.Priority
import CompilerCalls.Proofs.Flag.TableOrder
import CompilerCalls.Proofs.Call.OtherSources
import CompilerCalls.Proofs.Flag.Concatenation
import CompilerCalls.Proofs.Call.OpaqueValues
import CompilerCalls.Proofs.Call.AsideFlags
import CompilerCalls.Proofs.Call.OptionSources
import CompilerCalls.Proofs.Call.Totality
import CompilerCalls.Proofs.Settings.Recognition
import CompilerCalls.Proofs.CommandLine.Closing
import CompilerCalls.Proofs.Report.Recovery
import CompilerCalls.Proofs.Flag.FirstFault
import CompilerCalls.Proofs.Flag.GluedValue
import CompilerCalls.Proofs.Call.ValueSpelling
import CompilerCalls.Proofs.DriverName
import CompilerCalls.Proofs.Flag.LiveRows
import CompilerCalls.Proofs.Flag.AddedRow
import CompilerCalls.Proofs.Environment.IncludePaths
import CompilerCalls.Proofs.Settings.WellTyped
import CompilerCalls.Proofs.Path.Action
import CompilerCalls.Proofs.Call.Program
import CompilerCalls.Proofs.Settings.Nearest
import CompilerCalls.Proofs.CommandLine.ErrorModes
import CompilerCalls.Proofs.Environment.PathList
