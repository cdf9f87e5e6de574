import RootedStore.Cli
import RootedStore.Context
import RootedStore.Decimal.Layout
import RootedStore.Decimal.Shortest
import RootedStore.Disk
import RootedStore.Error.Client
import RootedStore.Error.Storage
import RootedStore.Json.Decode
import RootedStore.Json.Numeral
import RootedStore.Json.Printer
import RootedStore.Json.Syntax
import RootedStore.Json.Value
import RootedStore.LocalFile
import RootedStore.Manager.Backend
import RootedStore.Manager.Basic
import RootedStore.Manager.Catalog
import RootedStore.NameNode.Call
import RootedStore.Namespace.Basic
import RootedStore.Namespace.Double
import RootedStore.Options
import RootedStore.Path.Basic
import RootedStore.Path.Grammar
import RootedStore.Program
import RootedStore.Proofs.Effects
import RootedStore.Proofs.Namespace.Change
import RootedStore.Proofs.Namespace.Frame
import RootedStore.Proofs.Namespace.Provision
import RootedStore.Proofs.Namespace.Rename
import RootedStore.Proofs.Namespace.Tree
import RootedStore.Proofs.Options
import RootedStore.Proofs.Path.Canonical
import RootedStore.Proofs.Path.Order
import RootedStore.Proofs.Program
import RootedStore.Proofs.Store.Alone
import RootedStore.Proofs.Store.Calls
import RootedStore.Proofs.Store.Confinement
import RootedStore.Proofs.Store.Put
import RootedStore.Proofs.System
import RootedStore.Settings
import RootedStore.Store.Basic
import RootedStore.Store.Keyed
import RootedStore.Store.ReadSession
import RootedStore.Store.Resolve
import RootedStore.Store.WriteSession
import RootedStore.Table
import RootedStore.Text.Blank
import RootedStore.Text.Bytes
import RootedStore.Text.CodeTable
import RootedStore.Text.CombiningClass
import RootedStore.Text.Composed
import RootedStore.Text.Decomposition
import RootedStore.Text.Direction
import RootedStore.Text.Joining
import RootedStore.Text.Mark
import RootedStore.Timestamp
import RootedStore.Url.Basic
import RootedStore.Url.Domain.Basic
import RootedStore.Url.Domain.Label
import RootedStore.Url.Domain.Mapping
import RootedStore.Url.Host
import RootedStore.Url.Parser
import RootedStore.Url.Percent
import RootedStore.Url.Punycode
import RootedStore.WebHdfs.Client
import RootedStore.WebHdfs.Exchange
import RootedStore.WebHdfs.Link
import RootedStore.WebHdfs.Message
import RootedStore.WebHdfs.Reply
import RootedStore.Main
import RootedStore.Proofs.Store.Session
import RootedStore.Proofs.Store.History
import RootedStore.Proofs.Store.Commit
import RootedStore.Proofs.Path.Key
import RootedStore.Proofs.Root
import RootedStore.Proofs.Text.Utf8
import RootedStore.Proofs.Url.Percent
import RootedStore.Proofs.WebHdfs.WirePath
import RootedStore.Proofs.WebHdfs.Rename
import RootedStore.Proofs.Store.Interrupted
import RootedStore.Proofs.Store.Failures
import RootedStore.Proofs.Store.Writers
import RootedStore.Proofs.Store.Reading
import RootedStore.Proofs.Store.Upload
import RootedStore.Proofs.Store.Discard
import RootedStore.Proofs.Store.Independent
import RootedStore.Proofs.Store.Keys
import RootedStore.Proofs.Store.Move
import RootedStore.Proofs.Manager.History
import RootedStore.Proofs.WebHdfs.Session
import RootedStore.Proofs.Store.Delete
import RootedStore.Proofs.Store.Directories
import RootedStore.Proofs.WebHdfs.Missing
import RootedStore.Proofs.Path.Child
import RootedStore.Proofs.Store.Entries
import RootedStore.Proofs.Store.Listing
import RootedStore.Proofs.Namespace.Atomic
import RootedStore.Proofs.Store.Stream
import RootedStore.Proofs.Text.Numeral
import RootedStore.Proofs.Text.Trim
import RootedStore.Proofs.Url.Form
import RootedStore.Proofs.WebHdfs.Parameters
import RootedStore.Proofs.Options.Field
import RootedStore.Proofs.Options.Mode
import RootedStore.Proofs.Options.Again
import RootedStore.Proofs.Path.Evaluation
import RootedStore.Proofs.WebHdfs.Counter
import RootedStore.Proofs.Settings
import RootedStore.Proofs.Cli.Append
import RootedStore.Proofs.Path.Segments
