import SchemaDesk.Definition.Printer
import SchemaDesk.Logging
import SchemaDesk.Main
import SchemaDesk.Model.Edit
import SchemaDesk.Session.Request
import SchemaDesk.Proofs.Block.Faithful
import SchemaDesk.Proofs.Draws.Fresh
import SchemaDesk.Proofs.Model.Distinct
import SchemaDesk.Proofs.Session.Upkeep
import SchemaDesk.Proofs.Session.Queue
import SchemaDesk.Proofs.Session.Relay
import SchemaDesk.Proofs.Session.Eviction
import SchemaDesk.Proofs.Session.Hold
import SchemaDesk.Proofs.Session.Linear
import SchemaDesk.Proofs.Service.Moves
import SchemaDesk.Proofs.Service.Discarded
import SchemaDesk.Proofs.Service.Linear
import SchemaDesk.Proofs.Service.Records
import SchemaDesk.Proofs.Service.Replay
import SchemaDesk.Proofs.Service.Distinct
import SchemaDesk.Proofs.Block.Values
import SchemaDesk.Proofs.Http.Paths
import SchemaDesk.Proofs.Shape.Written
import SchemaDesk.Proofs.Http.Rendering
import SchemaDesk.Proofs.Definition.Grammar
import SchemaDesk.Proofs.Session.Failure
import SchemaDesk.Proofs.Text.LetterCase
import SchemaDesk.Proofs.Definition.RoundTrip
import SchemaDesk.Proofs.Model.Whole
import SchemaDesk.Proofs.Shape.Whole
import SchemaDesk.Proofs.Service.Settled
import SchemaDesk.Proofs.Http.Unchanged
import SchemaDesk.Proofs.Block.Retouched
import SchemaDesk.Proofs.Shape.Faithful
import SchemaDesk.Proofs.Definition.Drafted
import SchemaDesk.Proofs.Model.Reused
import SchemaDesk.Proofs.CommandLine.Defaults
import SchemaDesk.Proofs.Shape.Slots
import SchemaDesk.Proofs.Shape.Local
import SchemaDesk.Proofs.Shape.Effective
import SchemaDesk.Proofs.Model.Merged
import SchemaDesk.Proofs.Model.Algebra
import SchemaDesk.Proofs.Model.Attributes
import SchemaDesk.Proofs.Model.Built
import SchemaDesk.Proofs.Text.Numeral
import SchemaDesk.Proofs.Settings.Readings
import SchemaDesk.Proofs.Draws.Search
import SchemaDesk.Proofs.Text.Padded
import SchemaDesk.Proofs.Model.Addition
import SchemaDesk.Proofs.Definition.Segments
import SchemaDesk.Proofs.Definition.Rearranged
