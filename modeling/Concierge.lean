import Concierge.Address.Basic
import Concierge.Address.Escape
import Concierge.Address.Label
import Concierge.Address.LabelTable
import Concierge.Address.MarkTable
import Concierge.Address.Puny
import Concierge.Assistant
import Concierge.Audit.Entry
import Concierge.Audit.Log
import Concierge.Audit.Record
import Concierge.Budget
import Concierge.Chat.History
import Concierge.Chat.Prompt
import Concierge.Chat.Turn
import Concierge.Clean.Argument
import Concierge.Clean.Block
import Concierge.Clean.Email
import Concierge.Clean.Host
import Concierge.Clean.Line
import Concierge.Clean.Number
import Concierge.Clean.Url
import Concierge.Completion.Client
import Concierge.Completion.Error
import Concierge.Completion.Response
import Concierge.Completion.Retry
import Concierge.Config
import Concierge.Config.Misfit
import Concierge.Config.Numeral
import Concierge.Console.Arguments
import Concierge.Console.Command
import Concierge.Console.Handler
import Concierge.Console.Handler.Expression
import Concierge.Console.Handler.Fault
import Concierge.Console.Handler.Literal
import Concierge.Console.Handler.Token
import Concierge.Console.Markup
import Concierge.Console.Report
import Concierge.Console.Style
import Concierge.Console.Table
import Concierge.Console.Wrap
import Concierge.Context
import Concierge.Context.Record
import Concierge.Definition
import Concierge.Definition.Record
import Concierge.Dict
import Concierge.Digest
import Concierge.Directive
import Concierge.Dispatch
import Concierge.Executor
import Concierge.Fault
import Concierge.Fault.Named
import Concierge.Json.Reader
import Concierge.Json.Writer
import Concierge.Main
import Concierge.Number.Double
import Concierge.Number.Extended
import Concierge.Number.Reading
import Concierge.Number.Shortest
import Concierge.Pattern.Command
import Concierge.Pattern.Engine
import Concierge.Pattern.Match
import Concierge.Pattern.Reader
import Concierge.Pattern.Search
import Concierge.Pattern.Syntax
import Concierge.Proofs.Assistant.Arguments
import Concierge.Proofs.Assistant.Effect
import Concierge.Proofs.Assistant.Invariant
import Concierge.Proofs.Assistant.Settings
import Concierge.Proofs.Assistant.Trace
import Concierge.Proofs.Audit.Append
import Concierge.Proofs.Audit.Entry
import Concierge.Proofs.Audit.History
import Concierge.Proofs.Audit.Items
import Concierge.Proofs.Audit.Shared
import Concierge.Proofs.Budget.Count
import Concierge.Proofs.Budget.Hit
import Concierge.Proofs.Budget.Remaining
import Concierge.Proofs.Budget.Slip
import Concierge.Proofs.Budget.Window
import Concierge.Proofs.Builtin.Dispatch
import Concierge.Proofs.Builtin.Document
import Concierge.Proofs.Builtin.Effect
import Concierge.Proofs.Builtin.Growth
import Concierge.Proofs.Builtin.Kind
import Concierge.Proofs.Builtin.Mail
import Concierge.Proofs.Builtin.Products
import Concierge.Proofs.Builtin.Scope
import Concierge.Proofs.Chat.Clients
import Concierge.Proofs.Chat.Failure
import Concierge.Proofs.Chat.History
import Concierge.Proofs.Chat.Turn
import Concierge.Proofs.Clean.Argument
import Concierge.Proofs.Clean.Block
import Concierge.Proofs.Clean.Email
import Concierge.Proofs.Clean.Erase
import Concierge.Proofs.Clean.Line
import Concierge.Proofs.Clean.Link
import Concierge.Proofs.Clean.Number
import Concierge.Proofs.Clean.Url
import Concierge.Proofs.Command.Match
import Concierge.Proofs.Command.Scanner
import Concierge.Proofs.Command.Search
import Concierge.Proofs.Completion.Attempts
import Concierge.Proofs.Completion.Exchange
import Concierge.Proofs.Console.Arguments
import Concierge.Proofs.Console.Settings
import Concierge.Proofs.Dispatch.Allowance
import Concierge.Proofs.Dispatch.Found
import Concierge.Proofs.Dispatch.Isolation
import Concierge.Proofs.Dispatch.Order
import Concierge.Proofs.Dispatch.Run
import Concierge.Proofs.Dispatch.Separate
import Concierge.Proofs.Display.Settle
import Concierge.Proofs.Display.Tidy
import Concierge.Proofs.Executor.Calls
import Concierge.Proofs.Executor.Effect
import Concierge.Proofs.Executor.Execute
import Concierge.Proofs.Executor.Invariant
import Concierge.Proofs.Executor.Ordinary
import Concierge.Proofs.Executor.Reach
import Concierge.Proofs.Executor.Readings
import Concierge.Proofs.Executor.Required
import Concierge.Proofs.Executor.Scope
import Concierge.Proofs.Executor.Sessions
import Concierge.Proofs.Executor.Spares
import Concierge.Proofs.Executor.Trail
import Concierge.Proofs.Pattern.Advance
import Concierge.Proofs.Pattern.Disjoint
import Concierge.Proofs.Registry.Call
import Concierge.Proofs.Registry.Change
import Concierge.Proofs.Registry.Only
import Concierge.Proofs.Registry.Ordinary
import Concierge.Proofs.Registry.Quiet
import Concierge.Proofs.Registry.Replay
import Concierge.Proofs.Registry.Script
import Concierge.Proofs.Registry.Serves
import Concierge.Proofs.Registry.Start
import Concierge.Proofs.Store.Depend
import Concierge.Proofs.Store.Ideal
import Concierge.Proofs.Store.Keys
import Concierge.Proofs.Store.Row
import Concierge.Proofs.Store.Settings
import Concierge.Proofs.Store.Use
import Concierge.Proofs.Store.View
import Concierge.Proofs.Template.Render
import Concierge.Proofs.Template.Substitute
import Concierge.Proofs.Text.Pieces
import Concierge.Proofs.Text.Spelling
import Concierge.Proofs.Time.Iso
import Concierge.Proofs.World.Action
import Concierge.Proofs.World.Invariant
import Concierge.Proofs.World.Scope
import Concierge.Registry
import Concierge.Rehearsal
import Concierge.Result
import Concierge.Result.Record
import Concierge.Sequence
import Concierge.Settings
import Concierge.Site.Basic
import Concierge.Site.Content
import Concierge.Site.Record
import Concierge.Site.Sample
import Concierge.Store.Basic
import Concierge.Store.Column
import Concierge.Store.Place
import Concierge.Store.Saved
import Concierge.Template
import Concierge.Text.Ascii
import Concierge.Text.Blank
import Concierge.Text.Bytes
import Concierge.Text.Case
import Concierge.Text.Cased
import Concierge.Text.Digit
import Concierge.Text.Emoji
import Concierge.Text.Excerpt
import Concierge.Text.Letter
import Concierge.Text.Lower
import Concierge.Text.Quoted
import Concierge.Text.Replace
import Concierge.Text.Title
import Concierge.Text.Width
import Concierge.Time.Calendar
import Concierge.Time.Instant
import Concierge.Time.Reading
import Concierge.Time.Timestamp
import Concierge.Trigger.AddToCart
import Concierge.Trigger.Basic
import Concierge.Trigger.Builtin
import Concierge.Trigger.EmailAuthor
import Concierge.Trigger.Scripted
import Concierge.Trigger.ShowProducts
import Concierge.Trigger.Switch
import Concierge.Value.Access
import Concierge.Value.Amount
import Concierge.Value.Basic
import Concierge.Value.Limit
import Concierge.Value.Record
import Concierge.Value.Shown
import Concierge.World
