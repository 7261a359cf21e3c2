import DataApi.Api.AuditLengths
import DataApi.Api.AuditRecords
import DataApi.Api.AuditTrail
import DataApi.Api.MissingMappings
import DataApi.Api.Permission
import DataApi.Api.Registration
import DataApi.Api.RegistrationAudit
import DataApi.Api.Router
import DataApi.Core.Exceptions
import DataApi.Infrastructure.EngineFailures
import DataApi.Infrastructure.TrinoClient
import DataApi.Library.Batches
import DataApi.Library.History
import DataApi.Library.OffsetPaging
import DataApi.Library.PythonStr
import DataApi.Library.Scanner
import DataApi.Library.SeparatedText
import DataApi.Library.Transactions
import DataApi.Library.TransitionSystem
import DataApi.Library.UniqueMap
import DataApi.PiiCache.CacheGrowth
import DataApi.PiiCache.ChangingTable
import DataApi.PiiCache.FailedLoad
import DataApi.PiiCache.GetMany
import DataApi.PiiCache.ReverseMap
import DataApi.PiiCache.Startup
import DataApi.PiiCache.SyncCursor
import DataApi.QueryEngine.BindAgreement
import DataApi.QueryEngine.CanonicalPostgres
import DataApi.QueryEngine.CommaSeparated
import DataApi.QueryEngine.ConcurrentUpdates
import DataApi.QueryEngine.DynamicParameters
import DataApi.QueryEngine.IntegerBounds
import DataApi.QueryEngine.LabTest
import DataApi.QueryEngine.ListParsers
import DataApi.QueryEngine.MappedRows
import DataApi.QueryEngine.MappingGrowth
import DataApi.QueryEngine.PageGrammar
import DataApi.QueryEngine.PagePartition
import DataApi.QueryEngine.PowerBiService
import DataApi.QueryEngine.PutBack
import DataApi.QueryEngine.RouteCatalogue
import DataApi.QueryEngine.RouteConflicts
import DataApi.QueryEngine.RouteExecution
import DataApi.QueryEngine.RouteSessions
import DataApi.QueryEngine.SegmentationFilter
import DataApi.QueryEngine.SqlPolicy
import DataApi.QueryEngine.SqlSafety
import DataApi.QueryEngine.Sqlglot
import DataApi.QueryEngine.UnorderedPages
import DataApi.Schemas.DynamicRouteBody
import DataApi.Schemas.PowerBi
import DataApi.Users.Directory
import DataApi.Users.OperatorScripts
import DataApi.Users.PasswordLedger
import DataApi.Users.RepeatedScripts
import DataApi.Users.SelfService
import DataApi.Users.SessionLifetime
import DataApi.Users.Tokens
import DataApi.Users.UserSessions
