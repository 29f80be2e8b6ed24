import DepthRig.Calibration.Icp
import DepthRig.Calibration.Refine
import DepthRig.Capture.Outcome
import DepthRig.Compression.Bits
import DepthRig.Compression.Checksum
import DepthRig.Compression.Fse
import DepthRig.Compression.Huffman
import DepthRig.Compression.Zstd
import DepthRig.Compression.Zstd.Error
import DepthRig.Compression.Zstd.Literals
import DepthRig.Compression.Zstd.Sequences
import DepthRig.Config.Session
import DepthRig.Config.SessionJson
import DepthRig.Control.Api
import DepthRig.Control.Debug
import DepthRig.Control.Routes
import DepthRig.Control.Script
import DepthRig.Control.Station
import DepthRig.Control.SyncPage
import DepthRig.Control.Views
import DepthRig.Decimal.Binary
import DepthRig.Decimal.Literal
import DepthRig.Decimal.Text
import DepthRig.Duration
import DepthRig.Export.Ply
import DepthRig.Export.PlySink
import DepthRig.Fault
import DepthRig.Fleet.Commands
import DepthRig.Fleet.Json
import DepthRig.Fleet.Member
import DepthRig.Fleet.Preview
import DepthRig.Fleet.Recording
import DepthRig.Fleet.Rig
import DepthRig.Fleet.Steps
import DepthRig.Fleet.Threads
import DepthRig.Fleet.Reconfigure
import DepthRig.Geometry.Affine
import DepthRig.Geometry.Json
import DepthRig.Geometry.Rigid
import DepthRig.Http.Form
import DepthRig.Http.MediaType
import DepthRig.Http.Message
import DepthRig.Http.Multipart
import DepthRig.Http.Mux
import DepthRig.Json.Fault
import DepthRig.Json.Fit
import DepthRig.Json.Numbers
import DepthRig.Json.Scan
import DepthRig.Json.Value
import DepthRig.Json.Write
import DepthRig.Launch.Host
import DepthRig.Launch.Options
import DepthRig.Launch.Run
import DepthRig.Launch.Server
import DepthRig.Launch.Simulator
import DepthRig.Linear.Bidiagonal
import DepthRig.Linear.Dense
import DepthRig.Linear.Householder
import DepthRig.Linear.Svd
import DepthRig.Link.Commands
import DepthRig.Link.Connection
import DepthRig.Link.Inbound
import DepthRig.Link.Json
import DepthRig.Link.Script
import DepthRig.Link.State
import DepthRig.Main
import DepthRig.Net.Address
import DepthRig.Net.Ip
import DepthRig.Notify.Hub
import DepthRig.Proofs.Calibration.Exact
import DepthRig.Proofs.Calibration.Iterations
import DepthRig.Proofs.Calibration.Refinement
import DepthRig.Proofs.Calibration.Thinning
import DepthRig.Proofs.Decimal.Rounding
import DepthRig.Proofs.Fleet.Control
import DepthRig.Proofs.Fleet.HardwareSync
import DepthRig.Proofs.Fleet.Sessions
import DepthRig.Proofs.Fleet.Members
import DepthRig.Proofs.Fleet.Rounds
import DepthRig.Proofs.Fleet.Saving
import DepthRig.Proofs.Fleet.Reconfigure
import DepthRig.Proofs.Link.Exchange
import DepthRig.Proofs.Link.ConfigurationPush
import DepthRig.Proofs.Link.StateMachine
import DepthRig.Proofs.Link.Stream
import DepthRig.Proofs.Registry.Snapshots
import DepthRig.Proofs.Simulator.Serve
import DepthRig.Proofs.Sync.Relabel
import DepthRig.Proofs.Sync.Matching
import DepthRig.Proofs.Sync.Plans
import DepthRig.Proofs.Sync.PostSync
import DepthRig.Proofs.Sync.Reconciling
import DepthRig.Proofs.Sync.FreeRun
import DepthRig.Proofs.Wire.Configuration
import DepthRig.Proofs.Wire.CountedLists
import DepthRig.Proofs.Wire.FrameRecords
import DepthRig.Proofs.Wire.FrameRoundTrip
import DepthRig.Proofs.Wire.Framing
import DepthRig.Proofs.Wire.Millimetres
import DepthRig.Proofs.Wire.Payloads
import DepthRig.Proofs.Wire.Reading
import DepthRig.Proofs.Wire.SettingsBlock
import DepthRig.Proofs.Wire.Stream
import DepthRig.Proofs.Text.Paths
import DepthRig.Proofs.Export.FileNames
import DepthRig.Proofs.Notify.Fanout
import DepthRig.Proofs.Time.Civil
import DepthRig.Proofs.Time.Text
import DepthRig.Proofs.Time.Reading
import DepthRig.Proofs.Store.StoredTime
import DepthRig.Proofs.Store.Tables
import DepthRig.Proofs.Store.SessionRecords
import DepthRig.Proofs.Store.SessionListing
import DepthRig.Proofs.Store.SessionLifecycle
import DepthRig.Random.LaggedFibonacci
import DepthRig.Registry.Links
import DepthRig.Scalar
import DepthRig.Simulator.Scene
import DepthRig.Simulator.Sensor
import DepthRig.Slices
import DepthRig.Storage.MemoryFs
import DepthRig.Store.Calibrations
import DepthRig.Store.Cell
import DepthRig.Store.Database
import DepthRig.Store.Migrations
import DepthRig.Store.Numeric
import DepthRig.Store.Scan
import DepthRig.Store.Schema
import DepthRig.Store.Sessions
import DepthRig.Store.Statement
import DepthRig.Sync.Match
import DepthRig.Sync.Plan
import DepthRig.Sync.PlanJson
import DepthRig.Sync.Plot
import DepthRig.Sync.Reconciler
import DepthRig.Text.Blank
import DepthRig.Text.Hex
import DepthRig.Text.Numeral
import DepthRig.Text.Path
import DepthRig.Text.Printable
import DepthRig.Text.Quote
import DepthRig.Text.Utf8
import DepthRig.Time.Layout
import DepthRig.Time.Stamp
import DepthRig.Version
import DepthRig.Wire.BlockJson
import DepthRig.Wire.Bytes
import DepthRig.Wire.Calibration
import DepthRig.Wire.Device
import DepthRig.Wire.Error
import DepthRig.Wire.Frame
import DepthRig.Wire.FrameCodec
import DepthRig.Wire.FrameJson
import DepthRig.Wire.Framing
import DepthRig.Wire.Lists
import DepthRig.Wire.Message
import DepthRig.Wire.Reader
import DepthRig.Wire.Settings
import DepthRig.Proofs.Fleet.Tallies
