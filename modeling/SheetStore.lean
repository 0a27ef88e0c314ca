import SheetStore.Number.Binary64
import SheetStore.Number.Shortest
import SheetStore.Number.Text
import SheetStore.Json.Basic
import SheetStore.Json.Writer
import SheetStore.Json.Reader
import SheetStore.Text.Escape
import SheetStore.Json.Decode
import SheetStore.Cell
import SheetStore.Grid.Matrix
import SheetStore.Grid.Seed
import SheetStore.Grid.Settings
import SheetStore.Grid.Shared
import SheetStore.Log
import SheetStore.Nav.Location
import SheetStore.Nav.History
import SheetStore.Nav.Route
import SheetStore.Action
import SheetStore.Nav.Listening
import SheetStore.State
import SheetStore.Reducer
import SheetStore.Page
import SheetStore.Store.Engine
import SheetStore.Store.Responder
import SheetStore.Store.Counter
import SheetStore.App.Effects
import SheetStore.App.Channel
import SheetStore.App.Store
import SheetStore.App.Body
import SheetStore.App.Request
import SheetStore.App.Http
import SheetStore.App.Shell
import SheetStore.Text.Similarity
import SheetStore.Cli.Config
import SheetStore.Cli.Args
import SheetStore.Cli.Program
import SheetStore.Main
import SheetStore.Proofs.Reducer.Allocation
import SheetStore.Proofs.Store.Serial
import SheetStore.Proofs.Store.Yields
import SheetStore.Proofs.Nav.Timeline
import SheetStore.Proofs.App.Rounds
import SheetStore.Proofs.App.Refinement
import SheetStore.Proofs.Store.Stops
import SheetStore.Proofs.App.Routing
import SheetStore.Proofs.App.ReadOnly
import SheetStore.Proofs.Grid.Edits
import SheetStore.Proofs.Reducer.Sharing
import SheetStore.Proofs.Reducer.Growth
import SheetStore.Proofs.Nav.Listening
import SheetStore.Proofs.Nav.Session
import SheetStore.Proofs.Store.Recovery
import SheetStore.Proofs.Grid.Outcome
import SheetStore.Proofs.Nav.Pattern
import SheetStore.Proofs.Nav.Matching
import SheetStore.Proofs.Action.Wire
import SheetStore.Proofs.Nav.LocationText
import SheetStore.Proofs.App.Logger
import SheetStore.Proofs.Store.Tracing
import SheetStore.Proofs.Store.Subscribers
import SheetStore.Proofs.Text.Replace
import SheetStore.Proofs.Text.Bytes
import SheetStore.Proofs.Page.Render
import SheetStore.Proofs.Json.Mirror
import SheetStore.Proofs.Json.MirrorNumbers
import SheetStore.Proofs.Json.ReadEscaped
import SheetStore.Proofs.Cell.Names
import SheetStore.Proofs.App.EffectRunner
