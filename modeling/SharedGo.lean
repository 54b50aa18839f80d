import SharedGo.Annotations
import SharedGo.ApiKeys
import SharedGo.Atoms
import SharedGo.Authentication
import SharedGo.AuthenticationStack
import SharedGo.Authorization
import SharedGo.AuthorizationSetup
import SharedGo.BuilderSharing
import SharedGo.CacheStores
import SharedGo.CognitoNormalizer
import SharedGo.CompileMeaning
import SharedGo.Conjunction
import SharedGo.Counting
import SharedGo.DeviceFlow
import SharedGo.Encoding
import SharedGo.ErrGroup
import SharedGo.Extractor
import SharedGo.GrantWindow
import SharedGo.Grouping
import SharedGo.Guards
import SharedGo.Health
import SharedGo.HealthChecks
import SharedGo.ListCoercion
import SharedGo.MachineSubject
import SharedGo.NestedDispatch
import SharedGo.Once
import SharedGo.Paging
import SharedGo.ParcHandler
import SharedGo.PermissionCache
import SharedGo.PkceFlow
import SharedGo.Placeholders
import SharedGo.PolicyBuilder
import SharedGo.Provenance
import SharedGo.RedisKeys
import SharedGo.RequireAll
import SharedGo.RevocationBus
import SharedGo.RevocationStream
import SharedGo.Rounding
import SharedGo.RouteSelection
import SharedGo.RouteTracking
import SharedGo.RuleEvaluation
import SharedGo.ScopeEncoding
import SharedGo.SearchPages
import SharedGo.SearchTerms
import SharedGo.Searcher
import SharedGo.SharedRecords
import SharedGo.SliceIsolation
import SharedGo.Slices
import SharedGo.SortOrder
import SharedGo.SprintfLiteral
import SharedGo.StoreLifecycle
import SharedGo.Templates
import SharedGo.TierExpiry
import SharedGo.TierRevocation
import SharedGo.TierWrites
import SharedGo.TieredCache
import SharedGo.TokenRoundTrip
import SharedGo.Validation
import SharedGo.VersionDispatch
import SharedGo.VersionIsolation
import SharedGo.VersionPaths
import SharedGo.Wildcard
