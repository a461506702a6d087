import TemplateMachine.Failure
import TemplateMachine.Format.NumberFormat
import TemplateMachine.Format.TextFormat
import TemplateMachine.Render.Rendering
import TemplateMachine.Session
import TemplateMachine.Template.Listing
import TemplateMachine.Value.Equality
import TemplateMachine.Proofs.Except
import TemplateMachine.Proofs.Program.RoundTrip
import TemplateMachine.Proofs.Entries
import TemplateMachine.Proofs.Sound.Instance
import TemplateMachine.Proofs.Bounds.Checked
import TemplateMachine.Proofs.Bounds.Rendering
import TemplateMachine.Proofs.Cutoff.Rendering
import TemplateMachine.Proofs.Indentation.Abandonment
import TemplateMachine.Proofs.Nesting.Depth
import TemplateMachine.Proofs.Nesting.Deeper
import TemplateMachine.Proofs.Events.Intervals
import TemplateMachine.Proofs.Imports.Order
import TemplateMachine.Proofs.Imports.Super
import TemplateMachine.Proofs.Imports.Registration
import TemplateMachine.Proofs.Imports.Lookup
import TemplateMachine.Proofs.Newline.Translation
import TemplateMachine.Proofs.Newline.Writing
import TemplateMachine.Proofs.Newline.Separator
import TemplateMachine.Proofs.Tally.Machine
import TemplateMachine.Proofs.Termination.Machine
import TemplateMachine.Proofs.Indentation.Disabled
import TemplateMachine.Proofs.Indentation.LineWidth
import TemplateMachine.Proofs.Output.Accounts
import TemplateMachine.Proofs.Output.Segments
import TemplateMachine.Proofs.Output.LineStart
import TemplateMachine.Proofs.Output.Retries
import TemplateMachine.Proofs.Anchors.Rendering
import TemplateMachine.Proofs.Slots.Rendering
import TemplateMachine.Proofs.Slots.Zipping
import TemplateMachine.Proofs.Slots.Rotation
import TemplateMachine.Proofs.Slots.Implicit
import TemplateMachine.Proofs.Slots.Construction
import TemplateMachine.Proofs.Slots.PassThrough
import TemplateMachine.Proofs.Slots.Completion
import TemplateMachine.Proofs.Elements.Joining
import TemplateMachine.Proofs.Elements.Missing
import TemplateMachine.Proofs.Elements.Wrapping
import TemplateMachine.Proofs.Elements.Sequence
import TemplateMachine.Proofs.Newline.Suppression
import TemplateMachine.Proofs.Termination.Proxies
import TemplateMachine.Proofs.Fusion.Writes
import TemplateMachine.Proofs.Program.Rejection
import TemplateMachine.Proofs.Assembly.Validation
import TemplateMachine.Proofs.Assembly.History
import TemplateMachine.Proofs.Assembly.Listing
import TemplateMachine.Proofs.Slots.Accumulation
import TemplateMachine.Proofs.Format.Range
import TemplateMachine.Proofs.Source.Location
import TemplateMachine.Proofs.Names.Dots
import TemplateMachine.Proofs.Format.Numerals
import TemplateMachine.Proofs.Format.Encodings
import TemplateMachine.Proofs.Datum.Refusal
