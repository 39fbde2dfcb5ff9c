import RenderCheck.Main
import RenderCheck.Backend.Scripted
import RenderCheck.Proofs.CommandLine.Faithful
import RenderCheck.Proofs.CommandLine.Parsing
import RenderCheck.Proofs.DiffImage.Kept
import RenderCheck.Proofs.DiffImage.Place
import RenderCheck.Proofs.DiffImage.ReadBack
import RenderCheck.Proofs.Glob.Grammar
import RenderCheck.Proofs.Image.Difference
import RenderCheck.Proofs.Metric.RoundTrip
import RenderCheck.Proofs.Outcome
import RenderCheck.Proofs.Path.Components
import RenderCheck.Proofs.Run.Inputs
import RenderCheck.Proofs.Run.Lines
import RenderCheck.Proofs.Run.Report
import RenderCheck.Proofs.Run.Subtrees
import RenderCheck.Proofs.Run.Threshold
import RenderCheck.Proofs.Run.Truncation
import RenderCheck.Proofs.Run.Verdict
import RenderCheck.Proofs.Settings
import RenderCheck.Proofs.Tool.Output
import RenderCheck.Proofs.Walk.Order
