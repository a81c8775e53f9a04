import Compositor.Address.Authority
import Compositor.Address.Host
import Compositor.Address.Label.Context
import Compositor.Address.Label.Mapping
import Compositor.Address.Label.Permitted
import Compositor.Address.Label.Registered
import Compositor.Address.Label.Replacement
import Compositor.Address.Label.Web
import Compositor.Address.Parts
import Compositor.Address.Path
import Compositor.Address.Punycode
import Compositor.Address.Target
import Compositor.Address.Web
import Compositor.Archive
import Compositor.Archive.Directory
import Compositor.Archive.Inflate
import Compositor.Background
import Compositor.Composition.Basic
import Compositor.Composition.Command
import Compositor.Composition.Export
import Compositor.Composition.Picture
import Compositor.Composition.Sound
import Compositor.Composition.Studio
import Compositor.Context
import Compositor.Decimal.Binary64
import Compositor.Decimal.Places
import Compositor.Decimal.Reading
import Compositor.Decimal.Shortest
import Compositor.Download
import Compositor.Encoder
import Compositor.Fault
import Compositor.Foreground
import Compositor.Graph.Basic
import Compositor.Graph.Builder
import Compositor.Graph.Record
import Compositor.Job.Client
import Compositor.Job.Format
import Compositor.Job.Polling
import Compositor.Job.Record
import Compositor.Job.Removal
import Compositor.Json.Arithmetic
import Compositor.Json.Basic
import Compositor.Json.Conversion
import Compositor.Json.Notation
import Compositor.Json.Reader
import Compositor.Json.Writer
import Compositor.Layer
import Compositor.Layout.Anchor
import Compositor.Layout.Position
import Compositor.Layout.Size
import Compositor.Locator
import Compositor.MediaType
import Compositor.Order.Insertion
import Compositor.Proofs.Address.Ascii
import Compositor.Proofs.Address.Extensions
import Compositor.Proofs.Address.Groups
import Compositor.Proofs.Address.Lettering
import Compositor.Proofs.Address.Normal
import Compositor.Proofs.Address.Queries
import Compositor.Proofs.Address.Slashes
import Compositor.Proofs.Address.Suffixes
import Compositor.Proofs.Command.Arguments
import Compositor.Proofs.Command.Inputs
import Compositor.Proofs.Command.Inspection
import Compositor.Proofs.Command.Legible
import Compositor.Proofs.Command.Limit
import Compositor.Proofs.Command.Meaning
import Compositor.Proofs.Command.Outputs
import Compositor.Proofs.Command.Preview
import Compositor.Proofs.Command.Reading
import Compositor.Proofs.Command.Rendering
import Compositor.Proofs.Command.Repeating
import Compositor.Proofs.Command.Restacking
import Compositor.Proofs.Command.Scoping
import Compositor.Proofs.Command.Wiring
import Compositor.Proofs.Decimal.Digits
import Compositor.Proofs.Decimal.Numerals
import Compositor.Proofs.Decimal.Rounding
import Compositor.Proofs.Decimal.Value
import Compositor.Proofs.Decimal.Whole
import Compositor.Proofs.Download.Choosing
import Compositor.Proofs.Export.Agreement
import Compositor.Proofs.Export.Asking
import Compositor.Proofs.Export.Compiling
import Compositor.Proofs.Export.Foresight
import Compositor.Proofs.Export.Running
import Compositor.Proofs.Export.Tidiness
import Compositor.Proofs.Fault.Values
import Compositor.Proofs.Fault.Wiring
import Compositor.Proofs.Graph.Assembly
import Compositor.Proofs.Graph.Counting
import Compositor.Proofs.Graph.Emission
import Compositor.Proofs.Graph.Grounding
import Compositor.Proofs.Graph.Growing
import Compositor.Proofs.Graph.History
import Compositor.Proofs.Graph.Link
import Compositor.Proofs.Graph.Markup
import Compositor.Proofs.Graph.Refusal
import Compositor.Proofs.Graph.Taking
import Compositor.Proofs.Graph.Term
import Compositor.Proofs.Graph.Wired
import Compositor.Proofs.Graph.Wording
import Compositor.Proofs.Job.Capability
import Compositor.Proofs.Job.Conversing
import Compositor.Proofs.Job.Course
import Compositor.Proofs.Job.Deadline
import Compositor.Proofs.Job.Failing
import Compositor.Proofs.Job.Importing
import Compositor.Proofs.Job.Matching
import Compositor.Proofs.Job.Patience
import Compositor.Proofs.Job.Protocol
import Compositor.Proofs.Job.Publicity
import Compositor.Proofs.Job.Removal
import Compositor.Proofs.Job.Requesting
import Compositor.Proofs.Job.Secrecy
import Compositor.Proofs.Job.Signing
import Compositor.Proofs.Job.Storing
import Compositor.Proofs.Job.Waiting
import Compositor.Proofs.Json.Value
import Compositor.Proofs.Layer.Clamping
import Compositor.Proofs.Layer.Editing
import Compositor.Proofs.Layout.Formula
import Compositor.Proofs.Layout.Literal
import Compositor.Proofs.Layout.Percent
import Compositor.Proofs.Layout.Placing
import Compositor.Proofs.Order.Stable
import Compositor.Proofs.Picture.Appending
import Compositor.Proofs.Picture.Drawing
import Compositor.Proofs.Picture.Meaning
import Compositor.Proofs.Picture.Painting
import Compositor.Proofs.Picture.Shape
import Compositor.Proofs.Picture.Wording
import Compositor.Proofs.Sound.Appending
import Compositor.Proofs.Sound.Mixing
import Compositor.Proofs.Stream.Document
import Compositor.Proofs.Stream.Probing
import Compositor.Proofs.Stream.Regular
import Compositor.Proofs.Studio.Calls
import Compositor.Proofs.Studio.Isolation
import Compositor.Proofs.Studio.Refusing
import Compositor.Proofs.Studio.Sharing
import Compositor.Proofs.Text.Pieces
import Compositor.Proofs.Text.Words
import Compositor.Proofs.Timing.Counting
import Compositor.Proofs.Timing.Extent
import Compositor.Proofs.Timing.Remainder
import Compositor.Proofs.World.Act
import Compositor.Proofs.World.Bundles
import Compositor.Proofs.World.Claiming
import Compositor.Proofs.World.Cleaning
import Compositor.Proofs.World.Consulting
import Compositor.Proofs.World.Following
import Compositor.Proofs.World.Inquiring
import Compositor.Proofs.World.Interleaving
import Compositor.Proofs.World.Keeping
import Compositor.Proofs.World.Listing
import Compositor.Proofs.World.Members
import Compositor.Proofs.World.Mirroring
import Compositor.Proofs.World.Naming
import Compositor.Proofs.World.Owning
import Compositor.Proofs.World.Silence
import Compositor.Proofs.World.Soundness
import Compositor.Proofs.World.Staging
import Compositor.Proofs.World.Steadiness
import Compositor.Proofs.World.Steps
import Compositor.Proofs.World.Supporting
import Compositor.Proofs.World.Talking
import Compositor.Proofs.World.Trees
import Compositor.Proofs.World.Unpacking
import Compositor.Record
import Compositor.Stream.Document
import Compositor.Stream.Info
import Compositor.Stream.Probe
import Compositor.Text.Alphanumeric
import Compositor.Text.Blank
import Compositor.Text.Composed
import Compositor.Text.Digit
import Compositor.Text.Direction
import Compositor.Text.Hex
import Compositor.Text.Joining
import Compositor.Text.Lowercase
import Compositor.Text.Mark
import Compositor.Text.Percent
import Compositor.Text.Printable
import Compositor.Text.Quoted
import Compositor.Text.Table
import Compositor.Text.Utf8
import Compositor.Timing.Length
import Compositor.Timing.Placement
import Compositor.Timing.Quantity
import Compositor.Timing.Trim
import Compositor.Video
import Compositor.World.Argument
import Compositor.World.Basic
import Compositor.World.Files
import Compositor.World.Network
import Compositor.World.Processes
import Compositor.World.Record
import Compositor.World.Script
