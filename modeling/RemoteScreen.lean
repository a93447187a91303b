import RemoteScreen.Action.Basic
import RemoteScreen.Action.Codec
import RemoteScreen.Boundary
import RemoteScreen.Condition.Basic
import RemoteScreen.Condition.Codec
import RemoteScreen.Condition.Eval
import RemoteScreen.Config
import RemoteScreen.Context
import RemoteScreen.Element.Basic
import RemoteScreen.Element.Outline
import RemoteScreen.Element.Trigger
import RemoteScreen.Engine.Basic
import RemoteScreen.Engine.Flight
import RemoteScreen.Error
import RemoteScreen.Event.Basic
import RemoteScreen.Event.Bus
import RemoteScreen.Host.Basic
import RemoteScreen.Host.Codec
import RemoteScreen.Host.Console
import RemoteScreen.InputMeaning
import RemoteScreen.Json.Basic
import RemoteScreen.Json.Decode
import RemoteScreen.Json.Printer
import RemoteScreen.Json.Reader
import RemoteScreen.Json.Shown
import RemoteScreen.Json.Source
import RemoteScreen.Keyed
import RemoteScreen.Library
import RemoteScreen.Library.Standard
import RemoteScreen.Main
import RemoteScreen.Metrics
import RemoteScreen.Node.Basic
import RemoteScreen.Node.Codec
import RemoteScreen.Number.Binary64
import RemoteScreen.Number.Decimal
import RemoteScreen.Path
import RemoteScreen.Pattern.Basic
import RemoteScreen.Pattern.Cache
import RemoteScreen.Pattern.CharSet
import RemoteScreen.Pattern.Parser
import RemoteScreen.Pattern.Regex
import RemoteScreen.Preview
import RemoteScreen.Primitive
import RemoteScreen.Proofs.Action.Written
import RemoteScreen.Proofs.Condition.Alike
import RemoteScreen.Proofs.Condition.Cached
import RemoteScreen.Proofs.Condition.Laws
import RemoteScreen.Proofs.Condition.Transport
import RemoteScreen.Proofs.Condition.Written
import RemoteScreen.Proofs.Context
import RemoteScreen.Proofs.Context.Access
import RemoteScreen.Proofs.Context.Removal
import RemoteScreen.Proofs.Element.Outline
import RemoteScreen.Proofs.Element.Texts
import RemoteScreen.Proofs.Engine.AtOnce
import RemoteScreen.Proofs.Engine.Backoff
import RemoteScreen.Proofs.Engine.Books
import RemoteScreen.Proofs.Engine.Chain
import RemoteScreen.Proofs.Engine.Chronicle
import RemoteScreen.Proofs.Engine.Duplicate
import RemoteScreen.Proofs.Engine.Effort
import RemoteScreen.Proofs.Engine.Fleet
import RemoteScreen.Proofs.Engine.InFlight
import RemoteScreen.Proofs.Engine.Key
import RemoteScreen.Proofs.Engine.Landing
import RemoteScreen.Proofs.Engine.Lifecycle
import RemoteScreen.Proofs.Engine.Move
import RemoteScreen.Proofs.Engine.Saga
import RemoteScreen.Proofs.Engine.Skip
import RemoteScreen.Proofs.Engine.Snapshot
import RemoteScreen.Proofs.Engine.Stored
import RemoteScreen.Proofs.Engine.Success
import RemoteScreen.Proofs.Engine.Tally
import RemoteScreen.Proofs.Engine.Throttle
import RemoteScreen.Proofs.Engine.Told
import RemoteScreen.Proofs.Engine.Watch
import RemoteScreen.Proofs.Event.Delivery
import RemoteScreen.Proofs.Event.Follow
import RemoteScreen.Proofs.Event.Lag
import RemoteScreen.Proofs.Json.Ordered
import RemoteScreen.Proofs.Json.Records
import RemoteScreen.Proofs.Json.Strings
import RemoteScreen.Proofs.Json.Text
import RemoteScreen.Proofs.Metrics
import RemoteScreen.Proofs.Node.Alike
import RemoteScreen.Proofs.Node.Numbers
import RemoteScreen.Proofs.Node.Same
import RemoteScreen.Proofs.Node.Written
import RemoteScreen.Proofs.Number.Rounding
import RemoteScreen.Proofs.Number.Shortest
import RemoteScreen.Proofs.Number.Written
import RemoteScreen.Proofs.Path.Segments
import RemoteScreen.Proofs.Path.Take
import RemoteScreen.Proofs.Path.Write
import RemoteScreen.Proofs.Pattern.Matches
import RemoteScreen.Proofs.Primitive
import RemoteScreen.Proofs.Render.Alike
import RemoteScreen.Proofs.Render.Fresh
import RemoteScreen.Proofs.Render.Handlers
import RemoteScreen.Proofs.Render.Memo
import RemoteScreen.Proofs.Render.Plain
import RemoteScreen.Proofs.Render.Prune
import RemoteScreen.Proofs.Render.Reads
import RemoteScreen.Proofs.Render.Registry
import RemoteScreen.Proofs.Render.Repeat
import RemoteScreen.Proofs.Render.Room
import RemoteScreen.Proofs.Render.Texts
import RemoteScreen.Proofs.Render.Trigger
import RemoteScreen.Proofs.Render.Watch
import RemoteScreen.Proofs.Render.Yields
import RemoteScreen.Proofs.Screen.Written
import RemoteScreen.Proofs.Session.Contained
import RemoteScreen.Proofs.Session.Errand
import RemoteScreen.Proofs.Session.Failed
import RemoteScreen.Proofs.Session.Override
import RemoteScreen.Proofs.Session.Transparent
import RemoteScreen.Proofs.Session.Trigger
import RemoteScreen.Proofs.Session.Typed
import RemoteScreen.Proofs.Template.Exact
import RemoteScreen.Proofs.Template.Fixed
import RemoteScreen.Proofs.Template.Pieces
import RemoteScreen.Proofs.Template.Search
import RemoteScreen.Proofs.Verb.Atomic
import RemoteScreen.Proofs.Verb.Field
import RemoteScreen.Proofs.Verb.Form
import RemoteScreen.Proofs.Verb.Performance
import RemoteScreen.Render.Basic
import RemoteScreen.Render.Memo
import RemoteScreen.Screen
import RemoteScreen.Session.Basic
import RemoteScreen.Session.Job
import RemoteScreen.Session.Timeline
import RemoteScreen.Template
import RemoteScreen.Text.Blank
import RemoteScreen.Text.Case
import RemoteScreen.Text.CaseTable
import RemoteScreen.Text.Category
import RemoteScreen.Text.CategoryTable
import RemoteScreen.Text.MarkTable
import RemoteScreen.Text.Quoted
import RemoteScreen.Text.Script
import RemoteScreen.Text.ScriptTable
import RemoteScreen.Url.Basic
import RemoteScreen.Url.Reader
import RemoteScreen.Verb.Basic
import RemoteScreen.Verb.Data
import RemoteScreen.Verb.Device
import RemoteScreen.Verb.Form
import RemoteScreen.Verb.Registry
import RemoteScreen.Verb.Request
