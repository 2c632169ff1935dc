import GatewayRouting.Address.Domain
import GatewayRouting.Address.Domain.Composition
import GatewayRouting.Address.Domain.Direction
import GatewayRouting.Address.Domain.Joining
import GatewayRouting.Address.Domain.Mapping
import GatewayRouting.Address.Ip
import GatewayRouting.Address.Punycode
import GatewayRouting.Address.Rule
import GatewayRouting.Address.Socket
import GatewayRouting.Address.Url
import GatewayRouting.Cache
import GatewayRouting.Capture
import GatewayRouting.ClaimMapping
import GatewayRouting.CommandLine.Arguments
import GatewayRouting.CommandLine.Command
import GatewayRouting.Config.Decode
import GatewayRouting.Config.Encode
import GatewayRouting.Config.Load
import GatewayRouting.Config.Section
import GatewayRouting.Config.Validate
import GatewayRouting.Dictionary
import GatewayRouting.Document.Decode
import GatewayRouting.Document.Json.Number
import GatewayRouting.Document.Json.Pretty
import GatewayRouting.Document.Json.Reader
import GatewayRouting.Document.Json.Writer
import GatewayRouting.Document.Scalar
import GatewayRouting.Document.Value
import GatewayRouting.Document.Yaml.Block
import GatewayRouting.Document.Yaml.Layout
import GatewayRouting.Document.Yaml.Place
import GatewayRouting.Document.Yaml.Plain
import GatewayRouting.Document.Yaml.Quoted
import GatewayRouting.Document.Yaml.Reader
import GatewayRouting.Document.Yaml.Token
import GatewayRouting.Downstream.Substitution
import GatewayRouting.Downstream.Url
import GatewayRouting.Gateway
import GatewayRouting.HeaderRules
import GatewayRouting.IdentityKey
import GatewayRouting.Log
import GatewayRouting.Main
import GatewayRouting.Number.Binary64
import GatewayRouting.Number.Shortest
import GatewayRouting.Options.Authentication
import GatewayRouting.Options.Basic
import GatewayRouting.Options.Cache
import GatewayRouting.Options.HttpHandler
import GatewayRouting.Options.LoadBalancer
import GatewayRouting.Options.Qos
import GatewayRouting.Options.RateLimit
import GatewayRouting.Options.Security
import GatewayRouting.Options.Transport
import GatewayRouting.Period
import GatewayRouting.Proofs.Address.Blocks
import GatewayRouting.Proofs.Address.RuleForms
import GatewayRouting.Proofs.Address.Texts
import GatewayRouting.Proofs.Cache.Faithful
import GatewayRouting.Proofs.Cache.Key
import GatewayRouting.Proofs.Cache.Occupancy
import GatewayRouting.Proofs.ClaimMapping
import GatewayRouting.Proofs.Config.Duplicates
import GatewayRouting.Proofs.Config.ReadBack
import GatewayRouting.Proofs.Config.RoundTrip
import GatewayRouting.Proofs.Config.Valid
import GatewayRouting.Proofs.Document.Json.Numbers
import GatewayRouting.Proofs.Document.Json.Strings
import GatewayRouting.Proofs.Document.Json.Values
import GatewayRouting.Proofs.Document.ReadBack
import GatewayRouting.Proofs.Downstream.Filling
import GatewayRouting.Proofs.Downstream.Forwarding
import GatewayRouting.Proofs.Downstream.Kept
import GatewayRouting.Proofs.Downstream.NameCuts
import GatewayRouting.Proofs.Downstream.OwnPath
import GatewayRouting.Proofs.Downstream.Parts
import GatewayRouting.Proofs.Downstream.PassedOn
import GatewayRouting.Proofs.Downstream.ProducedQuery
import GatewayRouting.Proofs.Downstream.RoundTrip
import GatewayRouting.Proofs.Downstream.Separation
import GatewayRouting.Proofs.Downstream.Spans
import GatewayRouting.Proofs.Downstream.Spelling
import GatewayRouting.Proofs.Except
import GatewayRouting.Proofs.Headers.Accounting
import GatewayRouting.Proofs.Headers.Rendering
import GatewayRouting.Proofs.Number.Whole
import GatewayRouting.Proofs.Options.AllowList
import GatewayRouting.Proofs.Options.Merging
import GatewayRouting.Proofs.Period.Counts
import GatewayRouting.Proofs.Period.Grammar
import GatewayRouting.Proofs.Period.Writing
import GatewayRouting.Proofs.Query.Agreement
import GatewayRouting.Proofs.Query.MeetsItself
import GatewayRouting.Proofs.Query.Parameters
import GatewayRouting.Proofs.Resolution.HostCase
import GatewayRouting.Proofs.Resolution.HostPort
import GatewayRouting.Proofs.Resolution.Selection
import GatewayRouting.Proofs.Resolution.Services
import GatewayRouting.Proofs.Resolution.Shadowing
import GatewayRouting.Proofs.Route.AssemblyLaws
import GatewayRouting.Proofs.Route.Filters
import GatewayRouting.Proofs.Route.Identity
import GatewayRouting.Proofs.Route.Made
import GatewayRouting.Proofs.Route.Origin
import GatewayRouting.Proofs.Route.Services
import GatewayRouting.Proofs.State.Accounting
import GatewayRouting.Proofs.State.Interleaving
import GatewayRouting.Proofs.State.Occupancy
import GatewayRouting.Proofs.State.Progress
import GatewayRouting.Proofs.State.Run
import GatewayRouting.Proofs.State.Uncached
import GatewayRouting.Proofs.Table.Composition
import GatewayRouting.Proofs.Table.Faults
import GatewayRouting.Proofs.Table.Membership
import GatewayRouting.Proofs.Table.Overlap
import GatewayRouting.Proofs.Table.Protection
import GatewayRouting.Proofs.Table.Providers
import GatewayRouting.Proofs.Table.RoutingHeaders
import GatewayRouting.Proofs.Table.Schemes
import GatewayRouting.Proofs.Table.ServiceIdentity
import GatewayRouting.Proofs.Template.Below
import GatewayRouting.Proofs.Template.Compiled
import GatewayRouting.Proofs.Template.Faults
import GatewayRouting.Proofs.Template.Grammar
import GatewayRouting.Proofs.Template.HeaderCapture
import GatewayRouting.Proofs.Template.Outline
import GatewayRouting.Proofs.Template.OwnText
import GatewayRouting.Proofs.Template.PathCapture
import GatewayRouting.Proofs.Template.PathSplits
import GatewayRouting.Proofs.Template.PathWays
import GatewayRouting.Proofs.Template.PieceEnds
import GatewayRouting.Proofs.Template.PieceLengths
import GatewayRouting.Proofs.Template.QueryOutline
import GatewayRouting.Proofs.Template.SegmentSplits
import GatewayRouting.Proofs.Template.Stretches
import GatewayRouting.Proofs.Template.Ways
import GatewayRouting.Proofs.Template.WaysOrder
import GatewayRouting.Proofs.Text.AsciiCase
import GatewayRouting.Proofs.Text.Cutting
import GatewayRouting.Proofs.Text.Decimal
import GatewayRouting.Proofs.Text.PercentDecoding
import GatewayRouting.Proofs.Text.Replacing
import GatewayRouting.Proofs.Text.SameText
import GatewayRouting.Proofs.Text.Trimming
import GatewayRouting.Query
import GatewayRouting.Request
import GatewayRouting.Resolution
import GatewayRouting.Route.Aggregate
import GatewayRouting.Route.Assembly
import GatewayRouting.Route.Basic
import GatewayRouting.Route.Dynamic
import GatewayRouting.Route.Static
import GatewayRouting.State
import GatewayRouting.Table
import GatewayRouting.Template.Error
import GatewayRouting.Template.Header
import GatewayRouting.Template.Pattern
import GatewayRouting.Template.Query
import GatewayRouting.Template.Token
import GatewayRouting.Template.Upstream
import GatewayRouting.Text.Ascii
import GatewayRouting.Text.Blank
import GatewayRouting.Text.CaseFold
import GatewayRouting.Text.CodeTable
import GatewayRouting.Text.Percent
import GatewayRouting.Text.Split
