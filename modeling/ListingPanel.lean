import ListingPanel.CommandLine
import ListingPanel.CommandLine.Arguments
import ListingPanel.CommandLine.Help
import ListingPanel.Config
import ListingPanel.Config.File
import ListingPanel.Config.Json
import ListingPanel.Config.Schema
import ListingPanel.Decimal.Binary64
import ListingPanel.Decimal.Shortest
import ListingPanel.Diagnostic
import ListingPanel.Disassembler
import ListingPanel.Disassembler.Helper
import ListingPanel.Environment
import ListingPanel.Event
import ListingPanel.FileTree
import ListingPanel.Highlights
import ListingPanel.Host
import ListingPanel.Json.Fault
import ListingPanel.Json.Reader
import ListingPanel.Json.Skip
import ListingPanel.Json.Typed
import ListingPanel.Json.Value
import ListingPanel.Listeners
import ListingPanel.Listing.Block
import ListingPanel.Listing.Head
import ListingPanel.Listing.Index
import ListingPanel.ListingView
import ListingPanel.Machine
import ListingPanel.Main
import ListingPanel.Panel
import ListingPanel.Path
import ListingPanel.Proofs.Association
import ListingPanel.Proofs.CommandLine.Printed
import ListingPanel.Proofs.Config.Meaning
import ListingPanel.Proofs.Config.Overlay
import ListingPanel.Proofs.Config.RoundTrip
import ListingPanel.Proofs.Config.Schema
import ListingPanel.Proofs.Disassembler
import ListingPanel.Proofs.Disassembler.Outcome
import ListingPanel.Proofs.Disassembler.Scratch
import ListingPanel.Proofs.FileTree
import ListingPanel.Proofs.FileTree.Removal
import ListingPanel.Proofs.Json.Decoding
import ListingPanel.Proofs.Json.Document
import ListingPanel.Proofs.Json.Layout
import ListingPanel.Proofs.Json.Numbers
import ListingPanel.Proofs.Json.Printing
import ListingPanel.Proofs.Json.Record
import ListingPanel.Proofs.Json.Schema
import ListingPanel.Proofs.Json.Skipping
import ListingPanel.Proofs.Json.Strings
import ListingPanel.Proofs.Json.Token
import ListingPanel.Proofs.Json.Variation
import ListingPanel.Proofs.Listeners
import ListingPanel.Proofs.Listing.Blocks
import ListingPanel.Proofs.Listing.Checked
import ListingPanel.Proofs.Listing.Coverage
import ListingPanel.Proofs.Listing.Position
import ListingPanel.Proofs.Listing.Query
import ListingPanel.Proofs.Listing.Representation
import ListingPanel.Proofs.Listing.Rows
import ListingPanel.Proofs.Listing.Scan
import ListingPanel.Proofs.Listing.Tiling
import ListingPanel.Proofs.Panel.Alike
import ListingPanel.Proofs.Panel.Checked
import ListingPanel.Proofs.Panel.Diagnosis
import ListingPanel.Proofs.Panel.Documents
import ListingPanel.Proofs.Panel.Ledger
import ListingPanel.Proofs.Panel.Operation
import ListingPanel.Proofs.Panel.Printed
import ListingPanel.Proofs.Panel.State
import ListingPanel.Proofs.Panel.Words
import ListingPanel.Proofs.Path.Joined
import ListingPanel.Proofs.Path.NormalForm
import ListingPanel.Proofs.Path.Place
import ListingPanel.Proofs.Registry.Accounting
import ListingPanel.Proofs.Registry.Action
import ListingPanel.Proofs.Run
import ListingPanel.Proofs.Search
import ListingPanel.Proofs.Selection
import ListingPanel.Proofs.Shell.Builtins
import ListingPanel.Proofs.Shell.Execution
import ListingPanel.Proofs.Shell.Launch
import ListingPanel.Proofs.Shell.Pattern
import ListingPanel.Proofs.Shell.Process
import ListingPanel.Proofs.Text.Utf8
import ListingPanel.Proofs.Toolchain
import ListingPanel.Proofs.View.Highlights
import ListingPanel.Proofs.View.LineEnds
import ListingPanel.Proofs.View.Order
import ListingPanel.Proofs.View.Overlays
import ListingPanel.Proofs.View.Rendering
import ListingPanel.Proofs.View.Reveal
import ListingPanel.Proofs.View.Run
import ListingPanel.Proofs.View.State
import ListingPanel.Proofs.View.Window
import ListingPanel.Proofs.Workspace.Action
import ListingPanel.Proofs.Workspace.Alongside
import ListingPanel.Proofs.Workspace.Attachment
import ListingPanel.Proofs.Workspace.Delivery
import ListingPanel.Proofs.Workspace.Diagnosis
import ListingPanel.Proofs.Workspace.Disposal
import ListingPanel.Proofs.Workspace.Documents
import ListingPanel.Proofs.Workspace.Subscriptions
import ListingPanel.Proofs.Workspace.Synchronization
import ListingPanel.Proofs.Workspace.Turn
import ListingPanel.Proofs.Workspace.Undisturbed
import ListingPanel.Registry
import ListingPanel.Run
import ListingPanel.Screen
import ListingPanel.Search
import ListingPanel.Selection
import ListingPanel.Selection.Text
import ListingPanel.Shell.Arithmetic
import ListingPanel.Shell.Builtins
import ListingPanel.Shell.Commands
import ListingPanel.Shell.Execution
import ListingPanel.Shell.Expansion
import ListingPanel.Shell.Launch
import ListingPanel.Shell.Pattern
import ListingPanel.Shell.Printing
import ListingPanel.Shell.Process
import ListingPanel.Shell.Programs
import ListingPanel.Shell.Syntax
import ListingPanel.Shell.Test
import ListingPanel.Shell.Words
import ListingPanel.Surface
import ListingPanel.Text.Blank
import ListingPanel.Text.Cluster
import ListingPanel.Text.Cluster.Table
import ListingPanel.Text.DecimalDigit
import ListingPanel.Text.Lines
import ListingPanel.Text.Numeral
import ListingPanel.Text.Quoted
import ListingPanel.Text.Quoted.Table
import ListingPanel.Text.Utf8
import ListingPanel.Text.Width
import ListingPanel.Text.Width.Table
import ListingPanel.Toolchain
import ListingPanel.Typography
import ListingPanel.Viewport
import ListingPanel.Workspace
