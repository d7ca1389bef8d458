import LayerGateway.Command.Arguments
import LayerGateway.Command.Basic
import LayerGateway.Command.Method
import LayerGateway.Customer
import LayerGateway.Decimal.Binary64
import LayerGateway.Decimal.Integer
import LayerGateway.Decimal.Layout
import LayerGateway.Decimal.Scale
import LayerGateway.Decimal.Shortest
import LayerGateway.Files.Path
import LayerGateway.Files.Tree
import LayerGateway.Gateway.Basic
import LayerGateway.Gateway.Dispatch
import LayerGateway.Gateway.Error
import LayerGateway.Geo.Collection
import LayerGateway.Geo.Feature
import LayerGateway.Http.Handler
import LayerGateway.Http.Message
import LayerGateway.Http.Target
import LayerGateway.Http.Resource
import LayerGateway.Import.Basic
import LayerGateway.Import.Converter
import LayerGateway.Journal.Entry
import LayerGateway.Journal.Log
import LayerGateway.Journal.Queue
import LayerGateway.Journal.Writer
import LayerGateway.Json.Basic
import LayerGateway.Json.Decode
import LayerGateway.Json.Document
import LayerGateway.Json.Error
import LayerGateway.Json.Printer
import LayerGateway.Json.Reader
import LayerGateway.Json.Token.Number
import LayerGateway.Json.Token.Text
import LayerGateway.Listen
import LayerGateway.Live.Event
import LayerGateway.Live.Hub
import LayerGateway.Main
import LayerGateway.Names
import LayerGateway.OrderedMap
import LayerGateway.Program.Arguments
import LayerGateway.Program.Basic
import LayerGateway.Program.Node
import LayerGateway.Registry
import LayerGateway.Settings.Basic
import LayerGateway.Settings.Load
import LayerGateway.Shell.Process
import LayerGateway.Shell.Run
import LayerGateway.Shell.Script
import LayerGateway.Socket.Peer
import LayerGateway.Socket.Request
import LayerGateway.Socket.Session
import LayerGateway.Store.Backend
import LayerGateway.Store.Basic
import LayerGateway.Store.Disk
import LayerGateway.Store.Error
import LayerGateway.Store.Layers
import LayerGateway.Store.TableFile
import LayerGateway.Supply
import LayerGateway.Text.Pieces
import LayerGateway.Text.Utf8
import LayerGateway.Text.Quoted
import LayerGateway.Toml.Basic
import LayerGateway.Toml.Reader
import LayerGateway.Toml.Scalar
import LayerGateway.Toml.Text
import LayerGateway.Toml.Token
import LayerGateway.Proofs.Gateway.Action
import LayerGateway.Proofs.Gateway.Permission
import LayerGateway.Proofs.Gateway.Pipeline
import LayerGateway.Proofs.Json.Nesting
import LayerGateway.Proofs.Json.Printing
import LayerGateway.Proofs.Json.OneLine
import LayerGateway.Proofs.Text.Order
import LayerGateway.Proofs.Text.Pieces
import LayerGateway.Proofs.Geo.RoundTrip
import LayerGateway.Proofs.Geo.Parsing
import LayerGateway.Proofs.Geo.Legible
import LayerGateway.Proofs.Store.SnapshotKey
import LayerGateway.Proofs.Store.Isolation
import LayerGateway.Proofs.Store.Listing
import LayerGateway.Proofs.Store.Versions
import LayerGateway.Proofs.Store.History
import LayerGateway.Proofs.Store.Separation
import LayerGateway.Proofs.Store.Readable
import LayerGateway.Proofs.Store.Legible
import LayerGateway.Proofs.Store.TimeTravel
import LayerGateway.Proofs.Store.Alike
import LayerGateway.Proofs.Store.Agreement
import LayerGateway.Proofs.Store.Restart
import LayerGateway.Proofs.Customer
import LayerGateway.Proofs.Gateway.Layers
import LayerGateway.Proofs.Gateway.Registry
import LayerGateway.Proofs.Gateway.Confinement
import LayerGateway.Proofs.Gateway.Ordinary
import LayerGateway.Proofs.Gateway.Atomicity
import LayerGateway.Proofs.Gateway.Run
import LayerGateway.Proofs.Gateway.Success
import LayerGateway.Proofs.Gateway.Ownership
import LayerGateway.Proofs.Gateway.Replay
import LayerGateway.Proofs.Gateway.Recovery
import LayerGateway.Proofs.Gateway.Reconstruction
import LayerGateway.Proofs.Files.Tree
import LayerGateway.Proofs.Journal.Lines
import LayerGateway.Proofs.Journal.Writing
import LayerGateway.Proofs.Journal.Faithful
import LayerGateway.Proofs.Live.Viewer
import LayerGateway.Proofs.Live.Delivery
import LayerGateway.Proofs.Gateway.Secrecy
import LayerGateway.Proofs.Socket.Session
import LayerGateway.Proofs.Http.Form
import LayerGateway.Proofs.Http.Permission
import LayerGateway.Proofs.Registry.Ledger
import LayerGateway.Proofs.Json.Members
import LayerGateway.Proofs.Json.Records
import LayerGateway.Proofs.Geo.Members
import LayerGateway.Proofs.Geo.Preservation
import LayerGateway.Proofs.Http.Encoding
import LayerGateway.Proofs.Socket.Request
import LayerGateway.Proofs.Gateway.LayerWrite
import LayerGateway.Proofs.Http.LayerWrite
import LayerGateway.Proofs.Socket.LayerWrite
import LayerGateway.Proofs.Gateway.Transports
import LayerGateway.Proofs.Gateway.Deletion
import LayerGateway.Proofs.Geo.Address
import LayerGateway.Proofs.Gateway.Finding
import LayerGateway.Proofs.Store.Snapshots
import LayerGateway.Proofs.Store.Editing
import LayerGateway.Proofs.Live.Bookkeeping
import LayerGateway.Proofs.Store.Insertion
import LayerGateway.Proofs.Gateway.Addressing
import LayerGateway.Proofs.Files.Path
import LayerGateway.Proofs.Json.Trailing
import LayerGateway.Proofs.Journal.Appending
import LayerGateway.Proofs.Command.Table
import LayerGateway.Proofs.Json.Integers
import LayerGateway.Proofs.Live.Event
import LayerGateway.Proofs.Http.EventStream
import LayerGateway.Proofs.Live.Streaming
import LayerGateway.Proofs.Import.Loading
import LayerGateway.Proofs.Store.NewLayers
import LayerGateway.Proofs.Gateway.Importing
import LayerGateway.Proofs.Store.Slots
import LayerGateway.Proofs.Socket.Reply
