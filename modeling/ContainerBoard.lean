import ContainerBoard.CommandLine
import ContainerBoard.Daemon.Sample
import ContainerBoard.Feed
import ContainerBoard.Json.Printer
import ContainerBoard.Log.Files
import ContainerBoard.Log.Filter
import ContainerBoard.Log.Place
import ContainerBoard.Main
import ContainerBoard.Proofs.ByteCount
import ContainerBoard.Proofs.Cache.LastWrite
import ContainerBoard.Proofs.Cache.Removal
import ContainerBoard.Proofs.Cache.Staleness
import ContainerBoard.Proofs.Config
import ContainerBoard.Proofs.Daemon.InPlace
import ContainerBoard.Proofs.Daemon.NetworkOrder
import ContainerBoard.Proofs.Daemon.NetworkRows
import ContainerBoard.Proofs.Daemon.Pruning
import ContainerBoard.Proofs.Daemon.Removal
import ContainerBoard.Proofs.Daemon.Streams
import ContainerBoard.Proofs.Daemon.Survival
import ContainerBoard.Proofs.Dashboard.Closing
import ContainerBoard.Proofs.Dashboard.CursorReset
import ContainerBoard.Proofs.Dashboard.Enter
import ContainerBoard.Proofs.Dashboard.Gathering
import ContainerBoard.Proofs.Dashboard.Keys
import ContainerBoard.Proofs.Dashboard.NetworkDetails
import ContainerBoard.Proofs.Dashboard.NetworkLists
import ContainerBoard.Proofs.Dashboard.NetworkSnapshot
import ContainerBoard.Proofs.Dashboard.Opening
import ContainerBoard.Proofs.Dashboard.Prune
import ContainerBoard.Proofs.Dashboard.Received
import ContainerBoard.Proofs.Dashboard.Redraw
import ContainerBoard.Proofs.Dashboard.Reporting
import ContainerBoard.Proofs.Dashboard.RowCommands
import ContainerBoard.Proofs.Dashboard.Selection
import ContainerBoard.Proofs.Dashboard.Sorting
import ContainerBoard.Proofs.Feed.Accounting
import ContainerBoard.Proofs.Input.Bindings
import ContainerBoard.Proofs.Input.Cursor
import ContainerBoard.Proofs.Navigation
import ContainerBoard.Proofs.Outbox.Delivery
import ContainerBoard.Proofs.Outbox.Draining
import ContainerBoard.Proofs.Record.KnownFields
import ContainerBoard.Proofs.Record.Lossless
import ContainerBoard.Proofs.Record.Members
import ContainerBoard.Proofs.Record.Reading
import ContainerBoard.Proofs.Record.RoundTrip
import ContainerBoard.Proofs.Time.Digits
import ContainerBoard.Proofs.Time.RoundTrip
import ContainerBoard.Screen.Run
import ContainerBoard.Session
import ContainerBoard.TendedCache
import ContainerBoard.Terminal
