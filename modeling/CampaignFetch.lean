import CampaignFetch.Calendar.Date
import CampaignFetch.Calendar.Instant
import CampaignFetch.Calendar.Reading
import CampaignFetch.Calendar.Timestamp
import CampaignFetch.Cli.Arguments
import CampaignFetch.Cli.Ending
import CampaignFetch.Cli.Invocation
import CampaignFetch.Cli.Report
import CampaignFetch.Cli.Task
import CampaignFetch.Database.Decode
import CampaignFetch.Database.Fault
import CampaignFetch.Database.Program
import CampaignFetch.Database.Script
import CampaignFetch.Database.Server
import CampaignFetch.Database.Statement
import CampaignFetch.Database.Tables
import CampaignFetch.Digest.Hmac
import CampaignFetch.Digest.Sha256
import CampaignFetch.Fetch.Assembly
import CampaignFetch.Fetch.Column
import CampaignFetch.Fetch.Condition
import CampaignFetch.Fetch.Engine
import CampaignFetch.Fetch.Filter
import CampaignFetch.Fetch.JoinQuery
import CampaignFetch.Fetch.Request
import CampaignFetch.Fetch.Restriction
import CampaignFetch.Fetch.Row
import CampaignFetch.Fetch.Selection
import CampaignFetch.Fetch.Settings
import CampaignFetch.Http.Authentication
import CampaignFetch.Http.MediaType
import CampaignFetch.Http.Message
import CampaignFetch.Http.Problem
import CampaignFetch.Http.Rejection
import CampaignFetch.Http.Route
import CampaignFetch.Http.Router
import CampaignFetch.Http.Target
import CampaignFetch.Json.Fault
import CampaignFetch.Json.Parser
import CampaignFetch.Json.Printer
import CampaignFetch.Json.Reader
import CampaignFetch.Json.Record
import CampaignFetch.Json.Skip
import CampaignFetch.Json.Token
import CampaignFetch.Json.Value
import CampaignFetch.Main
import CampaignFetch.Model.AdGroup
import CampaignFetch.Model.Campaign
import CampaignFetch.Model.Status
import CampaignFetch.Number.Binary64
import CampaignFetch.Number.Shortest
import CampaignFetch.Proofs.AttachedCampaigns
import CampaignFetch.Proofs.AuthenticationGate
import CampaignFetch.Proofs.Base64Text
import CampaignFetch.Proofs.CalendarDays
import CampaignFetch.Proofs.ClauseReading
import CampaignFetch.Proofs.CommandLines
import CampaignFetch.Proofs.DatabaseRows
import CampaignFetch.Proofs.EnvironmentOverrides
import CampaignFetch.Proofs.Exchanges
import CampaignFetch.Proofs.FetchAnswers
import CampaignFetch.Proofs.FetchDirections
import CampaignFetch.Proofs.FetchPlans
import CampaignFetch.Proofs.FieldNames
import CampaignFetch.Proofs.FilterConjunction
import CampaignFetch.Proofs.FilterLists
import CampaignFetch.Proofs.FilterMeaning
import CampaignFetch.Proofs.FrontEnds
import CampaignFetch.Proofs.Grouping
import CampaignFetch.Proofs.HiddenFaults
import CampaignFetch.Proofs.IdentityGroups
import CampaignFetch.Proofs.IntegerText
import CampaignFetch.Proofs.JoinOrder
import CampaignFetch.Proofs.JoinedRows
import CampaignFetch.Proofs.Json.ReadBack
import CampaignFetch.Proofs.Json.RecordReaders
import CampaignFetch.Proofs.Json.Tokens
import CampaignFetch.Proofs.LimitBound
import CampaignFetch.Proofs.LiveLookup
import CampaignFetch.Proofs.ModelDocuments
import CampaignFetch.Proofs.NameResolution
import CampaignFetch.Proofs.ProgramRuns
import CampaignFetch.Proofs.Projection
import CampaignFetch.Proofs.QueryStrings
import CampaignFetch.Proofs.QueryText
import CampaignFetch.Proofs.RelationalJoin
import CampaignFetch.Proofs.RequestSequences
import CampaignFetch.Proofs.Results
import CampaignFetch.Proofs.ScopedNames
import CampaignFetch.Proofs.ServiceAnswers
import CampaignFetch.Proofs.ServiceReplies
import CampaignFetch.Proofs.ServiceRuns
import CampaignFetch.Proofs.Sql.Command
import CampaignFetch.Proofs.Sql.Evaluation
import CampaignFetch.Proofs.Sql.Grammar
import CampaignFetch.Proofs.Sql.Lexer
import CampaignFetch.Proofs.Sql.Query
import CampaignFetch.Proofs.StoreBlocks
import CampaignFetch.Proofs.StoreLoops
import CampaignFetch.Proofs.StoredFields
import CampaignFetch.Proofs.TableReads
import CampaignFetch.Proofs.TableWrites
import CampaignFetch.Proofs.TimestampText
import CampaignFetch.Proofs.TokenLifetimes
import CampaignFetch.Proofs.TokenValidation
import CampaignFetch.Proofs.TraceIds
import CampaignFetch.Proofs.TrimmedText
import CampaignFetch.Proofs.Utf8Text
import CampaignFetch.Service.AdGroups
import CampaignFetch.Service.Campaigns
import CampaignFetch.Service.Fault
import CampaignFetch.Settings
import CampaignFetch.Store.Memory
import CampaignFetch.Text.Ascii
import CampaignFetch.Text.Base64
import CampaignFetch.Text.Blank
import CampaignFetch.Text.CaseTable
import CampaignFetch.Text.Integer
import CampaignFetch.Text.Lowercase
import CampaignFetch.Text.Percent
import CampaignFetch.Text.PrintableTable
import CampaignFetch.Text.Quoted
import CampaignFetch.Text.Split
import CampaignFetch.Text.Utf8
import CampaignFetch.Token.Claims
import CampaignFetch.Token.EmbeddedKey
import CampaignFetch.Token.Signed
import CampaignFetch.Token.Validation
