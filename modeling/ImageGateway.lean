import ImageGateway.Service.Basic
import ImageGateway.Config.Environment
import ImageGateway.Proofs.Codec.Percent
import ImageGateway.Proofs.Codec.Unescaping
import ImageGateway.Proofs.Preset.Acceptance
import ImageGateway.Proofs.Preset.Depth
import ImageGateway.Proofs.Request.Authorization
import ImageGateway.Proofs.Service.Start
import ImageGateway.Proofs.Signature
import ImageGateway.Proofs.UrlOption
import ImageGateway.Proofs.Request.Written
import ImageGateway.Proofs.Preset.Directives
import ImageGateway.Proofs.Request.Dialects
import ImageGateway.Proofs.Request.Directives
import ImageGateway.Proofs.Options.Asked
import ImageGateway.Proofs.Options.Bounds
import ImageGateway.Proofs.Request.Assurance
import ImageGateway.Proofs.Gravity
import ImageGateway.Proofs.Request.Offsets
import ImageGateway.Proofs.Preset.Effect
import ImageGateway.Proofs.Request.Headers
import ImageGateway.Proofs.Preset.Reach
import ImageGateway.Proofs.Request.Translation
import ImageGateway.Proofs.Text.Blank
import ImageGateway.Proofs.Preset.Definition
import ImageGateway.Proofs.Preset.Macro
import ImageGateway.Proofs.Preset.Table
import ImageGateway.Proofs.Preset.RoundTrip
import ImageGateway.Proofs.Binary.Order
import ImageGateway.Proofs.Json.Content
import ImageGateway.Proofs.Json.Overlay
import ImageGateway.Proofs.Json.Change
import ImageGateway.Proofs.Options.Difference
import ImageGateway.Proofs.Codec.Hex
import ImageGateway.Proofs.Config.Environment
import ImageGateway.Proofs.Service.Answers
import ImageGateway.Proofs.Options.Leaf
import ImageGateway.Proofs.Preset.Overwrite
import ImageGateway.Proofs.SourceUrl.Accepted
import ImageGateway.Proofs.SourceUrl.Verdict
import ImageGateway.Proofs.Options.Projection
import ImageGateway.Proofs.Request.Slots
import ImageGateway.Proofs.Request.Numbers
import ImageGateway.Proofs.Preset.Warnings
import ImageGateway.Proofs.Service.Events
import ImageGateway.Proofs.Preset.Flattening
import ImageGateway.Proofs.Preset.Verdict
import ImageGateway.Proofs.Options.Composite
import ImageGateway.Proofs.Options.Placement
import ImageGateway.Proofs.Options.Footprint
import ImageGateway.Proofs.Request.Reordering
import ImageGateway.Proofs.Request.Extension
import ImageGateway.Proofs.Request.Watermark
import ImageGateway.Proofs.Text.Numeral
import ImageGateway.Proofs.Options.Integers
import ImageGateway.Proofs.Options.Framing
import ImageGateway.Proofs.Color
import ImageGateway.Proofs.Options.Background
import ImageGateway.Proofs.Json.Leaves
import ImageGateway.Proofs.Options.Display
