import VaultRing.Backend
import VaultRing.Backend.Reading
import VaultRing.Base64
import VaultRing.Binary64
import VaultRing.Config
import VaultRing.Config.Reading
import VaultRing.Config.Storage
import VaultRing.Config.Writing
import VaultRing.Duration
import VaultRing.Environment
import VaultRing.Error
import VaultRing.FilePath
import VaultRing.FileTree
import VaultRing.Gateway.Client
import VaultRing.Gateway.Item
import VaultRing.Http
import VaultRing.Item
import VaultRing.Json.Fault
import VaultRing.Json.Number
import VaultRing.Json.Reader
import VaultRing.Json.Record
import VaultRing.Json.Skip
import VaultRing.Json.Text
import VaultRing.Json.Value
import VaultRing.Keyring
import VaultRing.Log
import VaultRing.Opening
import VaultRing.Payload
import VaultRing.Program
import VaultRing.Proofs.ManagedItems
import VaultRing.Proofs.ProgramRun
import VaultRing.Proofs.VaultStore
import VaultRing.Registry
import VaultRing.Scope
import VaultRing.Text.Decoded
import VaultRing.Text.Digits
import VaultRing.Text.Printable
import VaultRing.Text.Quoted
import VaultRing.Text.Ranges
import VaultRing.Timestamp
import VaultRing.Timestamp.Reading
import VaultRing.Token
import VaultRing.Transport
import VaultRing.Url
import VaultRing.Url.Domain
import VaultRing.Url.Domain.Composition
import VaultRing.Url.Domain.Direction
import VaultRing.Url.Domain.Joining
import VaultRing.Url.Domain.Mapping
import VaultRing.Url.Domain.Mark
import VaultRing.Url.Form
import VaultRing.Url.Host
import VaultRing.Url.Path
import VaultRing.Url.Percent
import VaultRing.Url.Punycode
import VaultRing.Vault.Call
import VaultRing.Vault.Item
import VaultRing.Vault.Memory
import VaultRing.World
import VaultRing.Yaml.Document
import VaultRing.Yaml.Event
import VaultRing.Yaml.Meaning
import VaultRing.Yaml.Source
import VaultRing.Yaml.Token
import VaultRing.Yaml.Token.Block
import VaultRing.Yaml.Token.Flow
import VaultRing.Yaml.Token.Property
import VaultRing.Yaml.Token.Lexer
import VaultRing.Yaml.Writing
import VaultRing.Proofs.WorldFrame
import VaultRing.Proofs.VaultAccess
import VaultRing.Proofs.VaultListing
import VaultRing.Proofs.VaultWriting
import VaultRing.Proofs.KeyringLookup
import VaultRing.Proofs.KeyringEffect
import VaultRing.Proofs.KeyringSession
import VaultRing.Proofs.TitleUniqueness
import VaultRing.Proofs.Ambiguity
import VaultRing.Proofs.KeyListing
import VaultRing.Proofs.Base64RoundTrip
import VaultRing.Proofs.JsonText
import VaultRing.Proofs.JsonReading
import VaultRing.Proofs.PayloadText
import VaultRing.Proofs.OrderedMap
import VaultRing.Proofs.KeyringMap
import VaultRing.Proofs.AllOrNothing
import VaultRing.Proofs.KeyringOutcome
import VaultRing.Proofs.Interchange
import VaultRing.Proofs.Interference
import VaultRing.Proofs.TitleFrame
import VaultRing.Proofs.SharedLookup
import VaultRing.Proofs.SharedOperation
import VaultRing.Proofs.Interleaving
import VaultRing.Proofs.Conversation
import VaultRing.Proofs.GatewayConversation
import VaultRing.Proofs.GatewayCaution
import VaultRing.Proofs.OwnItem
import VaultRing.Proofs.ItemRewriting
import VaultRing.Proofs.Requests
import VaultRing.Proofs.LazyClient
import VaultRing.Proofs.ScopesApart
import VaultRing.Proofs.SeenAlike
import VaultRing.Proofs.Noninterference
import VaultRing.Proofs.TimestampText
import VaultRing.Proofs.GatewayText
import VaultRing.Proofs.PercentText
import VaultRing.Proofs.PathNames
import VaultRing.Proofs.RequestAddress
import VaultRing.Proofs.RequestTrace
import VaultRing.Proofs.LazyUse
import VaultRing.Proofs.LazyRun
import VaultRing.Proofs.OpeningReport
import VaultRing.Proofs.TextDecoding
import VaultRing.Proofs.FormFields
import VaultRing.Proofs.TitleFilter
import VaultRing.Proofs.ListingCalls
import VaultRing.Proofs.MaskedItems
import VaultRing.Proofs.AlikeRuns
import VaultRing.Proofs.PayloadLength
import VaultRing.Proofs.AlikeOperations
import VaultRing.Proofs.AlikeKeyrings
import VaultRing.Proofs.LogSecrecy
import VaultRing.Proofs.YamlSpacing
import VaultRing.Proofs.YamlQuotes
import VaultRing.Proofs.YamlPlain
import VaultRing.Proofs.YamlLiterals
import VaultRing.Proofs.YamlPairs
import VaultRing.Proofs.YamlText
import VaultRing.Proofs.YamlMapping
import VaultRing.Proofs.FractionValue
import VaultRing.Proofs.NearestDouble
import VaultRing.Proofs.ShortestDecimal
import VaultRing.Proofs.NumberText
import VaultRing.Proofs.SecondsRounding
import VaultRing.Proofs.ConfigRoundTrip
import VaultRing.Proofs.RepeatedTitles
import VaultRing.Proofs.CoupledRuns
import VaultRing.Proofs.RetimedVault
import VaultRing.Proofs.RetimedKeyrings
import VaultRing.Proofs.Deadlines
import VaultRing.Proofs.JsonGrammar
import VaultRing.Proofs.JsonSkipping
import VaultRing.Proofs.JsonValues
import VaultRing.Proofs.JsonMembers
import VaultRing.Proofs.JsonWriting
import VaultRing.Proofs.Base64Canonical
import VaultRing.Proofs.PayloadReading
import VaultRing.Proofs.GatewayListing
import VaultRing.Proofs.VaultIds
import VaultRing.Proofs.WrittenItems
import VaultRing.Proofs.TokenResolution
