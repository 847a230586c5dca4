import RegionGateway.Gateway.Token
import RegionGateway.Files.Tree
import RegionGateway.Interface.Document
import RegionGateway.Main
import RegionGateway.Widgets.Site
import RegionGateway.Proofs.Json.Loop
import RegionGateway.Proofs.Json.Numbers
import RegionGateway.Proofs.Json.Strings
import RegionGateway.Proofs.Json.CompactText
import RegionGateway.Proofs.Json.Traversal
import RegionGateway.Proofs.Json.ReadBack
import RegionGateway.Proofs.Json.AnyRead
import RegionGateway.Proofs.Json.Follow
import RegionGateway.Proofs.Json.Skip
import RegionGateway.Proofs.Json.TypedRead
import RegionGateway.Proofs.Gateway.UpdateMask
import RegionGateway.Proofs.Gateway.WriterCalls
import RegionGateway.Proofs.Gateway.Delivery
import RegionGateway.Proofs.Gateway.Frames
import RegionGateway.Proofs.Gateway.HandedBack
import RegionGateway.Proofs.Gateway.Handlers
import RegionGateway.Proofs.Widgets.Authorization
import RegionGateway.Proofs.Widgets.Calls
import RegionGateway.Proofs.Widgets.Updates
import RegionGateway.Proofs.Widgets.Disclosure
import RegionGateway.Proofs.Output.Wrappers
import RegionGateway.Proofs.Output.Ambiguity
import RegionGateway.Proofs.Output.Failures
import RegionGateway.Proofs.Output.Writing
import RegionGateway.Proofs.Output.Pruning
import RegionGateway.Proofs.Output.SentFields
import RegionGateway.Proofs.Output.Quoting
import RegionGateway.Proofs.Output.Enforcement
import RegionGateway.Proofs.Interface.SavedRequests
import RegionGateway.Proofs.Output.FailedRuns
import RegionGateway.Proofs.Output.GeneratedNames
import RegionGateway.Proofs.Output.Agreement
import RegionGateway.Proofs.Output.SharedOwners
import RegionGateway.Proofs.Interface.Accessors
import RegionGateway.Proofs.Output.TestGroups
import RegionGateway.Proofs.Gateway.CutReplies
import RegionGateway.Proofs.Gateway.MaskMeaning
import RegionGateway.Proofs.Interface.Views
import RegionGateway.Proofs.Output.TestDemands
import RegionGateway.Proofs.Output.TestNames
import RegionGateway.Proofs.Output.ImportedSymbols
import RegionGateway.Proofs.Text.CleanLines
import RegionGateway.Proofs.Output.RouteComments
import RegionGateway.Proofs.Output.RequestedModes
import RegionGateway.Proofs.Configuration.SavedConfigurations
import RegionGateway.Proofs.Gateway.TokenFiles
import RegionGateway.Proofs.Rust.SnakeCase
import RegionGateway.Proofs.Rust.Headings
import RegionGateway.Proofs.Output.FileLines
import RegionGateway.Proofs.Output.DeclaredLines
import RegionGateway.Proofs.Output.RoutingLines
