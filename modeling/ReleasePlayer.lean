import ReleasePlayer.Bar
import ReleasePlayer.Compensation
import ReleasePlayer.Config
import ReleasePlayer.Config.Attributes
import ReleasePlayer.Config.Document
import ReleasePlayer.Decimal.Layout
import ReleasePlayer.Decimal.Reading
import ReleasePlayer.Decimal.Shortest
import ReleasePlayer.Effect
import ReleasePlayer.Effect.Document
import ReleasePlayer.Endpoint
import ReleasePlayer.Error
import ReleasePlayer.Follower
import ReleasePlayer.Headroom
import ReleasePlayer.InMemory.Deck
import ReleasePlayer.InMemory.Frames
import ReleasePlayer.InMemory.Gain
import ReleasePlayer.InMemory.Runtime
import ReleasePlayer.InMemory.Store
import ReleasePlayer.Json.Fault
import ReleasePlayer.Json.Reader
import ReleasePlayer.Json.Shape
import ReleasePlayer.Json.Value
import ReleasePlayer.Keyed
import ReleasePlayer.Log
import ReleasePlayer.Negotiation
import ReleasePlayer.Page
import ReleasePlayer.Page.Classes
import ReleasePlayer.Page.Document
import ReleasePlayer.Page.Environment
import ReleasePlayer.Page.Media
import ReleasePlayer.Page.Mount
import ReleasePlayer.Page.Selector
import ReleasePlayer.Page.Widget
import ReleasePlayer.Player
import ReleasePlayer.Player.Description
import ReleasePlayer.Preferences
import ReleasePlayer.Proofs.Bar
import ReleasePlayer.Proofs.Config.Accepted
import ReleasePlayer.Proofs.Config.Document
import ReleasePlayer.Proofs.Config.Forms
import ReleasePlayer.Proofs.Config.RoundTrip
import ReleasePlayer.Proofs.Config.Settings
import ReleasePlayer.Proofs.Double.Amount
import ReleasePlayer.Proofs.Double.Arithmetic
import ReleasePlayer.Proofs.Double.Decimals
import ReleasePlayer.Proofs.Double.Digits
import ReleasePlayer.Proofs.Double.Finite
import ReleasePlayer.Proofs.Double.Monotone
import ReleasePlayer.Proofs.Double.Nearest
import ReleasePlayer.Proofs.Double.Order
import ReleasePlayer.Proofs.Double.Packing
import ReleasePlayer.Proofs.Double.Products
import ReleasePlayer.Proofs.Double.ReadBack
import ReleasePlayer.Proofs.Double.Returning
import ReleasePlayer.Proofs.Double.Rounding
import ReleasePlayer.Proofs.Double.Text
import ReleasePlayer.Proofs.Double.WholePart
import ReleasePlayer.Proofs.Effect.Document
import ReleasePlayer.Proofs.Endpoint
import ReleasePlayer.Proofs.Endpoint.Shape
import ReleasePlayer.Proofs.Follower.Lyrics
import ReleasePlayer.Proofs.Follower.Trail
import ReleasePlayer.Proofs.Guarded
import ReleasePlayer.Proofs.Json.Finite
import ReleasePlayer.Proofs.Json.Number
import ReleasePlayer.Proofs.Json.Run
import ReleasePlayer.Proofs.Json.Shape
import ReleasePlayer.Proofs.Json.Taken
import ReleasePlayer.Proofs.Json.Text
import ReleasePlayer.Proofs.Json.Writer
import ReleasePlayer.Proofs.Json.Written
import ReleasePlayer.Proofs.Negotiation
import ReleasePlayer.Proofs.Page.Button
import ReleasePlayer.Proofs.Page.Element
import ReleasePlayer.Proofs.Page.GlobalButton
import ReleasePlayer.Proofs.Page.LyricsPanels
import ReleasePlayer.Proofs.Page.Mounted
import ReleasePlayer.Proofs.Page.Notices
import ReleasePlayer.Proofs.Page.OneClass
import ReleasePlayer.Proofs.Page.RowButtons
import ReleasePlayer.Proofs.Page.Run
import ReleasePlayer.Proofs.Page.Shown
import ReleasePlayer.Proofs.Player.AlbumIndependence
import ReleasePlayer.Proofs.Player.Command
import ReleasePlayer.Proofs.Player.Commuting
import ReleasePlayer.Proofs.Player.CurrentTrack
import ReleasePlayer.Proofs.Player.Display
import ReleasePlayer.Proofs.Player.FailuresUnseen
import ReleasePlayer.Proofs.Player.FiniteVolume
import ReleasePlayer.Proofs.Player.FrameAccount
import ReleasePlayer.Proofs.Player.Guarded
import ReleasePlayer.Proofs.Player.Handover
import ReleasePlayer.Proofs.Player.InBounds
import ReleasePlayer.Proofs.Player.InRange
import ReleasePlayer.Proofs.Player.PointerRelease
import ReleasePlayer.Proofs.Player.Round
import ReleasePlayer.Proofs.Player.Run
import ReleasePlayer.Proofs.Player.Saved
import ReleasePlayer.Proofs.Player.SeekDrag
import ReleasePlayer.Proofs.Player.SeekFill
import ReleasePlayer.Proofs.Player.Session
import ReleasePlayer.Proofs.Player.Setup
import ReleasePlayer.Proofs.Player.Skip
import ReleasePlayer.Proofs.Player.Source
import ReleasePlayer.Proofs.Player.Step
import ReleasePlayer.Proofs.Player.TickerAgreement
import ReleasePlayer.Proofs.Player.TickerUnseen
import ReleasePlayer.Proofs.Player.TrackButton
import ReleasePlayer.Proofs.Player.VolumeDrag
import ReleasePlayer.Proofs.Preferences
import ReleasePlayer.Proofs.Scalar.Exact
import ReleasePlayer.Proofs.Scalar.Order
import ReleasePlayer.Proofs.Stream
import ReleasePlayer.Proofs.Ticker
import ReleasePlayer.Proofs.TimeLabel
import ReleasePlayer.Proofs.TimeLabel.Clock
import ReleasePlayer.Proofs.TrackTable.Order
import ReleasePlayer.Proofs.TrackTable.Search
import ReleasePlayer.Proofs.TrackTable.Verdict
import ReleasePlayer.Proofs.Url.Base
import ReleasePlayer.Proofs.Url.Encoding
import ReleasePlayer.Proofs.Url.Form
import ReleasePlayer.Proofs.Url.Marks
import ReleasePlayer.Proofs.Volume.Doubles
import ReleasePlayer.Proofs.Volume.Ledger
import ReleasePlayer.Scalar
import ReleasePlayer.Scalar.Double
import ReleasePlayer.Stream
import ReleasePlayer.Surroundings
import ReleasePlayer.Text.Blank
import ReleasePlayer.Text.Fields
import ReleasePlayer.Text.Hexadecimal
import ReleasePlayer.Text.Quoted
import ReleasePlayer.Text.Spelled
import ReleasePlayer.Ticker
import ReleasePlayer.TimeLabel
import ReleasePlayer.Track
import ReleasePlayer.TrackTable
import ReleasePlayer.Url
import ReleasePlayer.Url.Host
import ReleasePlayer.Url.Percent
import ReleasePlayer.Url.Reading
import ReleasePlayer.Volume
