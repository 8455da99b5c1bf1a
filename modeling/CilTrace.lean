import CilTrace.Command.PlainLibrary
import CilTrace.Command.Run
import CilTrace.Files.Tree
import CilTrace.LogLine
import CilTrace.Main
import CilTrace.Proofs.ResolverIndependence
import CilTrace.Proofs.Concatenation
import CilTrace.Proofs.Snippets
import CilTrace.Proofs.OperandTexts
import CilTrace.Proofs.LosslessListing
import CilTrace.Proofs.FrameLines
import CilTrace.Proofs.TraceBlocks
import CilTrace.Proofs.CapturedErrors
import CilTrace.Proofs.Containment
import CilTrace.Proofs.CommandReports
import CilTrace.Proofs.DecimalTexts
import CilTrace.Proofs.DecoderRuns
import CilTrace.Proofs.JumpTargets
import CilTrace.Proofs.Rounding
import CilTrace.Proofs.SingleReadings
import CilTrace.Proofs.ModularWindows
import CilTrace.Proofs.SingleShortest
import CilTrace.Proofs.BodyTexts
import CilTrace.Proofs.BufferEdits
import CilTrace.Proofs.CursorRuns
import CilTrace.Proofs.StackFrames
import CilTrace.Proofs.SymbolLookups
