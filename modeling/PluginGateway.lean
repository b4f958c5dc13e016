import PluginGateway.Command.Arguments
import PluginGateway.Command.Basic
import PluginGateway.Command.Error
import PluginGateway.Command.Report
import PluginGateway.Command.Usage
import PluginGateway.Config.Basic
import PluginGateway.Config.Environment
import PluginGateway.Config.Extract
import PluginGateway.Config.Load
import PluginGateway.Config.Provision
import PluginGateway.Config.Save
import PluginGateway.Config.Setting
import PluginGateway.Contact.Action
import PluginGateway.Contact.Client
import PluginGateway.Contact.Error
import PluginGateway.Contact.Message
import PluginGateway.Contact.Plugin
import PluginGateway.Contact.Probe
import PluginGateway.Contact.Rehearsal
import PluginGateway.Contact.Session
import PluginGateway.Json.Basic
import PluginGateway.Json.Reader
import PluginGateway.Json.Scan
import PluginGateway.Json.Token
import PluginGateway.Json.Writer
import PluginGateway.Keyed
import PluginGateway.Main
import PluginGateway.Number.Binary64
import PluginGateway.Number.Double
import PluginGateway.Number.Shortest
import PluginGateway.Path.Conversion
import PluginGateway.Path.Run
import PluginGateway.Path.Table
import PluginGateway.Program
import PluginGateway.Proofs.AccountAnswers
import PluginGateway.Proofs.AccountLinks
import PluginGateway.Proofs.AskedActions
import PluginGateway.Proofs.Authorization
import PluginGateway.Proofs.CommandCourses
import PluginGateway.Proofs.CommandReports
import PluginGateway.Proofs.Composed
import PluginGateway.Proofs.ContactErrors
import PluginGateway.Proofs.ConvertedBodies
import PluginGateway.Proofs.Credentials
import PluginGateway.Proofs.Decisions
import PluginGateway.Proofs.DeviceConduct
import PluginGateway.Proofs.DocumentTexts
import PluginGateway.Proofs.Endpoints
import PluginGateway.Proofs.Exchange
import PluginGateway.Proofs.HarmlessRuns
import PluginGateway.Proofs.History
import PluginGateway.Proofs.JsonReaders
import PluginGateway.Proofs.LayeredSettings
import PluginGateway.Proofs.LinkRoundTrip
import PluginGateway.Proofs.ManagerReads
import PluginGateway.Proofs.MediaReads
import PluginGateway.Proofs.OrderedSettings
import PluginGateway.Proofs.OverriddenLeaves
import PluginGateway.Proofs.Overrides
import PluginGateway.Proofs.PathRuns
import PluginGateway.Proofs.Payloads
import PluginGateway.Proofs.PostedPayloads
import PluginGateway.Proofs.ProvidedInventory
import PluginGateway.Proofs.QualifiedLinks
import PluginGateway.Proofs.Qualifiers
import PluginGateway.Proofs.RecordFields
import PluginGateway.Proofs.ReplacedRuns
import PluginGateway.Proofs.Respelled
import PluginGateway.Proofs.Results
import PluginGateway.Proofs.RunScan
import PluginGateway.Proofs.SavedConfig
import PluginGateway.Proofs.SavedSections
import PluginGateway.Proofs.SegmentScan
import PluginGateway.Proofs.SharedSessions
import PluginGateway.Proofs.StatusPolling
import PluginGateway.Proofs.StoredResources
import PluginGateway.Proofs.StringContents
import PluginGateway.Proofs.StrippedPaths
import PluginGateway.Proofs.TableOrder
import PluginGateway.Proofs.TokenCache
import PluginGateway.Proofs.TomlDocuments
import PluginGateway.Proofs.TomlLines
import PluginGateway.Proofs.TomlStrings
import PluginGateway.Proofs.UrlAuthority
import PluginGateway.Proofs.UrlPaths
import PluginGateway.Proofs.ValidAnswers
import PluginGateway.Proofs.VariableNames
import PluginGateway.Proofs.Woven
import PluginGateway.Resource.Action
import PluginGateway.Resource.Device
import PluginGateway.Resource.Error
import PluginGateway.Resource.Inventory
import PluginGateway.Resource.Manager
import PluginGateway.Resource.Payload
import PluginGateway.Resource.Rehearsal
import PluginGateway.Resource.RemoteAccount
import PluginGateway.Resource.VirtualMedia
import PluginGateway.Text.Basic
import PluginGateway.Text.CodePoints
import PluginGateway.Text.Composition
import PluginGateway.Text.Direction
import PluginGateway.Text.Property
import PluginGateway.Text.Utf8
import PluginGateway.Toml.Basic
import PluginGateway.Toml.Moment
import PluginGateway.Toml.Reader
import PluginGateway.Toml.Text
import PluginGateway.Toml.Word
import PluginGateway.Toml.Writer
import PluginGateway.Url.Address
import PluginGateway.Url.Basic
import PluginGateway.Url.Domain
import PluginGateway.Url.Mapping
import PluginGateway.Url.Parser
import PluginGateway.Url.Percent
import PluginGateway.Url.Punycode
