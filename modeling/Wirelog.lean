import Wirelog.Archive.Codec
import Wirelog.Archive.Document
import Wirelog.Authority.Basic
import Wirelog.Authority.Files
import Wirelog.Authority.Minting
import Wirelog.Authority.Numbered
import Wirelog.Authority.Pem
import Wirelog.Body.Coding
import Wirelog.Body.Record
import Wirelog.Body.Text
import Wirelog.Bytes
import Wirelog.Charset.DoubleByte
import Wirelog.Charset.Label
import Wirelog.Charset.MultiByte
import Wirelog.Charset.SingleByte
import Wirelog.Charset.Table.BigFive
import Wirelog.Charset.Table.Guobiao
import Wirelog.Charset.Table.GuobiaoRanges
import Wirelog.Charset.Table.Hangul
import Wirelog.Charset.Table.Jis0208
import Wirelog.Charset.Table.Jis0212
import Wirelog.Charset.Unicode
import Wirelog.Client.Basic
import Wirelog.Client.Identity
import Wirelog.CommandLine.Arguments
import Wirelog.CommandLine.Session
import Wirelog.Cookie
import Wirelog.Flate.Bits
import Wirelog.Flate.Checksum
import Wirelog.Flate.Container
import Wirelog.Flate.Huffman
import Wirelog.Flate.Inflate
import Wirelog.Fleet.Basic
import Wirelog.Fleet.Overlap
import Wirelog.Forward.Clock
import Wirelog.Forward.Dial
import Wirelog.Forward.Dispatch
import Wirelog.Forward.Failure
import Wirelog.Forward.Network
import Wirelog.Forward.Options
import Wirelog.Forward.Relay
import Wirelog.Forward.Target
import Wirelog.Forward.Tunnel
import Wirelog.Gateway.Answering
import Wirelog.Gateway.Basic
import Wirelog.Gateway.Overlap
import Wirelog.Gateway.Serve
import Wirelog.Gateway.Start
import Wirelog.Gateway.Tunnel
import Wirelog.Handling.Address
import Wirelog.Handling.Basic
import Wirelog.Handling.Enforcement
import Wirelog.Handling.Interceptor
import Wirelog.Handling.Script
import Wirelog.Handling.Standard
import Wirelog.Http.Headers
import Wirelog.Http.HopByHop
import Wirelog.Http.Message
import Wirelog.Http.Uri
import Wirelog.Http.Wire
import Wirelog.Json.Basic
import Wirelog.Json.Parser
import Wirelog.Json.Printer
import Wirelog.Main
import Wirelog.MediaType
import Wirelog.Net.Endpoint
import Wirelog.Net.Ip
import Wirelog.Pacing.Bucket
import Wirelog.Pacing.Limits
import Wirelog.Pacing.Overlap
import Wirelog.Pacing.Pipe
import Wirelog.Pacing.Stream
import Wirelog.Pattern.CharClass
import Wirelog.Pattern.Parser
import Wirelog.Pattern.Property
import Wirelog.Pattern.Reach
import Wirelog.Pattern.Replace
import Wirelog.Pattern.Search
import Wirelog.Pattern.Syntax
import Wirelog.Pattern.Table.CaseClass
import Wirelog.Pattern.Table.Category
import Wirelog.Pattern.Table.Property
import Wirelog.Pattern.Table.Script
import Wirelog.Policy.Basic
import Wirelog.Policy.Shelf
import Wirelog.Policy.Update
import Wirelog.Recording.Event
import Wirelog.Recording.Message
import Wirelog.Recording.Overlap
import Wirelog.Recording.Quiet
import Wirelog.Recording.Recorder
import Wirelog.Refusal
import Wirelog.Resolution.Book
import Wirelog.Resolution.Flight
import Wirelog.Resolution.Session
import Wirelog.Settings.Basic
import Wirelog.Settings.Document
import Wirelog.Text.Ascii
import Wirelog.Text.Base64
import Wirelog.Text.Blank
import Wirelog.Text.Ranges
import Wirelog.Text.Split
import Wirelog.Text.Utf8
import Wirelog.Time.Calendar
import Wirelog.Time.Instant
import Wirelog.Time.Span
import Wirelog.Toml.Basic
import Wirelog.Toml.Parser
import Wirelog.Toml.Read
import Wirelog.Toml.Scalar
import Wirelog.Url.Domain
import Wirelog.Url.Form
import Wirelog.Url.Punycode
import Wirelog.Url.Query
import Wirelog.Url.Table.Excluded
import Wirelog.Proofs.ExchangeHistory
import Wirelog.Proofs.ExchangeCorrelation
import Wirelog.Proofs.ExchangeLifecycle
import Wirelog.Proofs.LogSuccession
import Wirelog.Proofs.StageLaws
import Wirelog.Proofs.ExchangeOutcome
import Wirelog.Proofs.PolicyLaws
import Wirelog.Proofs.PolicyHistory
import Wirelog.Proofs.PolicySnapshots
import Wirelog.Proofs.Refusals
import Wirelog.Proofs.AnswerRecords
import Wirelog.Proofs.RequestPolicies
import Wirelog.Proofs.BandwidthBound
import Wirelog.Proofs.GrantLaws
import Wirelog.Proofs.CreditBalance
import Wirelog.Proofs.StreamTransparency
import Wirelog.Proofs.DigitRows
import Wirelog.Proofs.JsonLexemes
import Wirelog.Proofs.JsonGrammar
import Wirelog.Proofs.JsonParsing
import Wirelog.Proofs.JsonText
import Wirelog.Proofs.InstantText
import Wirelog.Proofs.ArchiveRecords
import Wirelog.Proofs.ArchiveFiles
import Wirelog.Proofs.Standing
import Wirelog.Proofs.TableLaws
import Wirelog.Proofs.LiteralHosts
import Wirelog.Proofs.BookLaws
import Wirelog.Proofs.RememberedNames
import Wirelog.Proofs.ForgottenNames
import Wirelog.Proofs.YardLaws
import Wirelog.Proofs.CreationSteps
import Wirelog.Proofs.RegisteredProxies
import Wirelog.Proofs.TableOrder
import Wirelog.Proofs.AuthorityLaws
import Wirelog.Proofs.ForwardedHeaders
import Wirelog.Proofs.RequestForms
import Wirelog.Proofs.TunnelChecks
import Wirelog.Proofs.TunnelTargets
import Wirelog.Proofs.BodyGates
import Wirelog.Proofs.HiddenHeaders
import Wirelog.Proofs.PageTurns
import Wirelog.Proofs.PageViews
import Wirelog.Proofs.PageNames
import Wirelog.Proofs.AcceptedSettings
import Wirelog.Proofs.SharedLeaves
import Wirelog.Proofs.PastedUrls
import Wirelog.Proofs.PatternPlaces
import Wirelog.Proofs.PatternTails
import Wirelog.Proofs.PatternBrackets
import Wirelog.Proofs.PatternBounds
import Wirelog.Proofs.WholeUrls
import Wirelog.Proofs.HeaderLaws
import Wirelog.Proofs.SubstitutedUrls
import Wirelog.Proofs.ConnectTargets
import Wirelog.Proofs.TouchedRequests
import Wirelog.Proofs.RecoveredBodies
import Wirelog.Proofs.TextPieces
import Wirelog.Proofs.TextFronts
import Wirelog.Proofs.LimitCuts
import Wirelog.Proofs.CutTexts
import Wirelog.Proofs.TypeSpelling
import Wirelog.Proofs.LetterCase
import Wirelog.Proofs.EntryTimes
import Wirelog.Proofs.QuietWaits
import Wirelog.Proofs.SweptNames
import Wirelog.Proofs.ConnectAttempts
import Wirelog.Proofs.FreePorts
import Wirelog.Proofs.StatusLines
import Wirelog.Proofs.TunnelHeads
import Wirelog.Proofs.ForwardedTargets
import Wirelog.Proofs.RelayAddresses
import Wirelog.Proofs.ArchiveShapes
import Wirelog.Proofs.ArchiveLayouts
import Wirelog.Proofs.NarrowedPages
import Wirelog.Proofs.KeptFiles
import Wirelog.Proofs.TimeTotals
