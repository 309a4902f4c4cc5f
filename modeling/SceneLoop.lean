import SceneLoop.Color
import SceneLoop.Command.Files
import SceneLoop.Command.Inspection
import SceneLoop.Command.Options
import SceneLoop.Command.Request
import SceneLoop.Command.Run
import SceneLoop.Digest.Frames
import SceneLoop.Digest.Sha256
import SceneLoop.Drawing.Demo
import SceneLoop.Drawing.Figure
import SceneLoop.Drawing.Op
import SceneLoop.Drawing.Painter
import SceneLoop.Drawing.Surface
import SceneLoop.Fault
import SceneLoop.Frame
import SceneLoop.Glyph.Face
import SceneLoop.Glyph.FontBook
import SceneLoop.Glyph.Sheet
import SceneLoop.Json.Reader
import SceneLoop.Json.Value
import SceneLoop.Json.Writer
import SceneLoop.Main
import SceneLoop.Number.Binary
import SceneLoop.Number.Reading
import SceneLoop.Number.Shortest
import SceneLoop.Payload.Extraction
import SceneLoop.Payload.Normalization
import SceneLoop.Playback.Host
import SceneLoop.Playback.Pipeline
import SceneLoop.Playback.Player
import SceneLoop.Playback.Reel
import SceneLoop.Png
import SceneLoop.Proofs.Color.HexNotation
import SceneLoop.Proofs.Color.Range
import SceneLoop.Proofs.Command.SurfaceLimit
import SceneLoop.Proofs.Drawing.Agreement
import SceneLoop.Proofs.Drawing.Blocks
import SceneLoop.Proofs.Drawing.Finite
import SceneLoop.Proofs.Drawing.Ineffective
import SceneLoop.Proofs.Drawing.Recolored
import SceneLoop.Proofs.Drawing.Recorded
import SceneLoop.Proofs.Drawing.Unread
import SceneLoop.Proofs.Json.Leading
import SceneLoop.Proofs.Json.Reading
import SceneLoop.Proofs.Json.Sorted
import SceneLoop.Proofs.Number.Arithmetic
import SceneLoop.Proofs.Number.Bounds
import SceneLoop.Proofs.Number.Extrema
import SceneLoop.Proofs.Number.Integral
import SceneLoop.Proofs.Number.Order
import SceneLoop.Proofs.Number.Remainder
import SceneLoop.Proofs.Number.Rounding
import SceneLoop.Proofs.Number.Single
import SceneLoop.Proofs.Number.Undefined
import SceneLoop.Proofs.Number.Value
import SceneLoop.Proofs.Number.Whole
import SceneLoop.Proofs.Payload.Fences
import SceneLoop.Proofs.Payload.RoundTrip
import SceneLoop.Proofs.Payload.Scanning
import SceneLoop.Proofs.Payload.Spellings
import SceneLoop.Proofs.Payload.TextPayloads
import SceneLoop.Proofs.Payload.Unwrapping
import SceneLoop.Proofs.Playback.Clock
import SceneLoop.Proofs.Playback.Controls
import SceneLoop.Proofs.Playback.Frames
import SceneLoop.Proofs.Playback.Loop
import SceneLoop.Proofs.Playback.Overflow
import SceneLoop.Proofs.Playback.Pause
import SceneLoop.Proofs.Playback.Refreshes
import SceneLoop.Proofs.Playback.Session
import SceneLoop.Proofs.Playback.Stalled
import SceneLoop.Proofs.Playback.Status
import SceneLoop.Proofs.Raster.Brackets
import SceneLoop.Proofs.Raster.Canvas
import SceneLoop.Proofs.Raster.Closing
import SceneLoop.Proofs.Raster.Corners
import SceneLoop.Proofs.Raster.Extent
import SceneLoop.Proofs.Raster.Isolation
import SceneLoop.Proofs.Raster.Painting
import SceneLoop.Proofs.Raster.Pointwise
import SceneLoop.Proofs.Raster.Rectangles
import SceneLoop.Proofs.Raster.Refusal
import SceneLoop.Proofs.Raster.Regions
import SceneLoop.Proofs.Scene.Clashes
import SceneLoop.Proofs.Scene.Finite
import SceneLoop.Proofs.Scene.Partition
import SceneLoop.Proofs.Scene.Props
import SceneLoop.Proofs.Scene.Resolved
import SceneLoop.Proofs.Scene.Written
import SceneLoop.Raster.Canvas
import SceneLoop.Raster.Coverage
import SceneLoop.Raster.Path
import SceneLoop.Scene.Animation
import SceneLoop.Scene.Basic
import SceneLoop.Scene.Builder
import SceneLoop.Scene.Layer
import SceneLoop.Scene.Property
import SceneLoop.Scene.Props
import SceneLoop.Scene.Warning
import SceneLoop.Settings.Basic
import SceneLoop.Settings.Document
import SceneLoop.Text.Blank
import SceneLoop.Text.Printable
import SceneLoop.Text.Quoted
import SceneLoop.Theme
import SceneLoop.Time
import SceneLoop.Toml.Reader
import SceneLoop.Toml.Scalar
import SceneLoop.Toml.Value
import SceneLoop.Toml.Writer
import SceneLoop.Viewport
import SceneLoop.Proofs.Number.Saturation
import SceneLoop.Proofs.Glyph.Placement
import SceneLoop.Proofs.Raster.InBounds
import SceneLoop.Proofs.Glyph.Histories
import SceneLoop.Proofs.Digest.Encoding
import SceneLoop.Proofs.Payload.Candidates
import SceneLoop.Proofs.Number.Formats
import SceneLoop.Proofs.Number.Neighbourhoods
import SceneLoop.Proofs.Number.Shortest
import SceneLoop.Proofs.Number.Decimals
import SceneLoop.Proofs.Number.Positional
import SceneLoop.Proofs.Number.Printed
import SceneLoop.Proofs.Color.WrittenForms
