import StorageGateway.Adapter.Basic
import StorageGateway.Adapter.Conversion
import StorageGateway.Catalog
import StorageGateway.CommandLine
import StorageGateway.Disk.Adapters
import StorageGateway.Disk.Beta
import StorageGateway.Disk.Model
import StorageGateway.Disk.Plan
import StorageGateway.Endpoint.Address
import StorageGateway.Endpoint.Registry
import StorageGateway.Endpoint.Socket
import StorageGateway.Fault
import StorageGateway.Files.Adapters
import StorageGateway.Files.Listing
import StorageGateway.Files.Operations
import StorageGateway.Files.Requests
import StorageGateway.Files.SystemError
import StorageGateway.Files.Tree
import StorageGateway.Group
import StorageGateway.Host.Machine
import StorageGateway.Host.Powershell
import StorageGateway.Host.Script
import StorageGateway.Host.Shell
import StorageGateway.Iscsi.Adapters
import StorageGateway.Iscsi.Model
import StorageGateway.Iscsi.Plan
import StorageGateway.Json.Basic
import StorageGateway.Json.Binary64
import StorageGateway.Json.Document
import StorageGateway.Json.Printer
import StorageGateway.Json.Reader
import StorageGateway.Json.Record
import StorageGateway.Json.Token
import StorageGateway.Lifecycle.Activity
import StorageGateway.Lifecycle.Caller
import StorageGateway.Lifecycle.Coordinator
import StorageGateway.Lifecycle.Gateway
import StorageGateway.Lifecycle.Memory
import StorageGateway.Lifecycle.Provisioner
import StorageGateway.Lifecycle.Session
import StorageGateway.Main
import StorageGateway.Path.Basic
import StorageGateway.Path.Roots
import StorageGateway.Proofs.Adapter.Calls
import StorageGateway.Proofs.Adapter.Effects
import StorageGateway.Proofs.Adapter.OldVersions
import StorageGateway.Proofs.Adapter.Responses
import StorageGateway.Proofs.Adapter.Views
import StorageGateway.Proofs.CommandLine.Groups
import StorageGateway.Proofs.CommandLine.Values
import StorageGateway.Proofs.Disk.Attachments
import StorageGateway.Proofs.Disk.Identifiers
import StorageGateway.Proofs.Disk.Locations
import StorageGateway.Proofs.Disk.Maps
import StorageGateway.Proofs.Disk.Rows
import StorageGateway.Proofs.Disk.Views
import StorageGateway.Proofs.Endpoint.Addresses
import StorageGateway.Proofs.Endpoint.Holders
import StorageGateway.Proofs.Endpoint.Occupants
import StorageGateway.Proofs.Endpoint.Registrations
import StorageGateway.Proofs.Endpoint.Sockets
import StorageGateway.Proofs.Files.Confinement
import StorageGateway.Proofs.Files.Parents
import StorageGateway.Proofs.Files.Reach
import StorageGateway.Proofs.Files.Tree
import StorageGateway.Proofs.Files.Views
import StorageGateway.Proofs.Files.Ways
import StorageGateway.Proofs.Host.Credentials
import StorageGateway.Proofs.Host.Injection
import StorageGateway.Proofs.Host.Listings
import StorageGateway.Proofs.Host.Literals
import StorageGateway.Proofs.Host.Operations
import StorageGateway.Proofs.Host.Quotes
import StorageGateway.Proofs.Host.Rejection
import StorageGateway.Proofs.Iscsi.Ports
import StorageGateway.Proofs.Iscsi.Views
import StorageGateway.Proofs.Json.Keys
import StorageGateway.Proofs.Json.Layouts
import StorageGateway.Proofs.Json.Narrowing
import StorageGateway.Proofs.Json.Numerals
import StorageGateway.Proofs.Json.Records
import StorageGateway.Proofs.Json.Relations
import StorageGateway.Proofs.Json.RoundTrip
import StorageGateway.Proofs.Json.Secrets
import StorageGateway.Proofs.Json.Tokens
import StorageGateway.Proofs.Lifecycle.Accounting
import StorageGateway.Proofs.Lifecycle.Calls
import StorageGateway.Proofs.Lifecycle.Control
import StorageGateway.Proofs.Lifecycle.Exchange
import StorageGateway.Proofs.Lifecycle.Listeners
import StorageGateway.Proofs.Lifecycle.Opening
import StorageGateway.Proofs.Lifecycle.Routing
import StorageGateway.Proofs.Lifecycle.Run
import StorageGateway.Proofs.Lifecycle.Sessions
import StorageGateway.Proofs.Lifecycle.Trace
import StorageGateway.Proofs.Lifecycle.Transitions
import StorageGateway.Proofs.Path.Names
import StorageGateway.Proofs.Path.Resolution
import StorageGateway.Proofs.Rpc.Abandonment
import StorageGateway.Proofs.Rpc.Connections
import StorageGateway.Proofs.Rpc.Faults
import StorageGateway.Proofs.Rpc.Frames
import StorageGateway.Proofs.Rpc.Messages
import StorageGateway.Proofs.Rpc.Moves
import StorageGateway.Proofs.Rpc.Replies
import StorageGateway.Proofs.Rpc.Servers
import StorageGateway.Proofs.Rpc.SharedCalls
import StorageGateway.Proofs.Rpc.SharedClients
import StorageGateway.Proofs.Rpc.Shutdown
import StorageGateway.Proofs.Rpc.Slots
import StorageGateway.Proofs.Rpc.Streams
import StorageGateway.Proofs.Smb.Views
import StorageGateway.Proofs.Table
import StorageGateway.Proofs.Version.Grammar
import StorageGateway.Proofs.Version.Order
import StorageGateway.Proofs.Version.Precedence
import StorageGateway.Proofs.Version.Text
import StorageGateway.Proofs.Volume.Usage
import StorageGateway.Proofs.Volume.Views
import StorageGateway.Rpc.Answer
import StorageGateway.Rpc.Client
import StorageGateway.Rpc.Connection
import StorageGateway.Rpc.Frame
import StorageGateway.Rpc.Message
import StorageGateway.Rpc.Server
import StorageGateway.Rpc.SharedClient
import StorageGateway.Services.Adapters
import StorageGateway.Services.Model
import StorageGateway.Services.Plan
import StorageGateway.Settings
import StorageGateway.Smb.Adapters
import StorageGateway.Smb.Model
import StorageGateway.Smb.Plan
import StorageGateway.Table
import StorageGateway.Text.Hex
import StorageGateway.Text.Hidden
import StorageGateway.Text.Numeral
import StorageGateway.Text.Quoted
import StorageGateway.Text.Split
import StorageGateway.Text.Utf8
import StorageGateway.Version.Basic
import StorageGateway.Version.Precedence
import StorageGateway.Version.Shape
import StorageGateway.Volume.Adapters
import StorageGateway.Volume.Beta
import StorageGateway.Volume.Model
import StorageGateway.Volume.Plan
