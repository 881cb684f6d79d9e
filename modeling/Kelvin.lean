import Kelvin.Data.Table
import Kelvin.Data.Links
import Kelvin.Data.UnitOfWork
import Kelvin.Data.Outcome
import Kelvin.Data.Json
import Kelvin.Objects.Runtime
import Kelvin.Objects.Database
import Kelvin.Objects.Domain
import Kelvin.Objects.Managers
import Kelvin.Objects.GroupMembers
import Kelvin.Objects.Rereading
import Kelvin.Objects.MembershipPatch
import Kelvin.Objects.MembershipFlushes
import Kelvin.Objects.DnMapper
import Kelvin.Objects.Integrity
import Kelvin.Connector.Models
import Kelvin.Connector.Sync
import Kelvin.Connector.Handlers
import Kelvin.Connector.Run
import Kelvin.Connector.PrimarySchool
import Kelvin.Connector.LastEvent
import Kelvin.Connector.Resolution
import Kelvin.Connector.Readback
import Kelvin.Connector.Redelivery
import Kelvin.Data.Arrival
import Kelvin.Connector.Snapshot
import Kelvin.Connector.Convergence
import Kelvin.Connector.Senders
import Kelvin.Connector.Mapping
import Kelvin.Connector.MemberSchools
import Kelvin.Connector.Validation
import Kelvin.Connector.Consumer
import Kelvin.Connector.Acknowledgement
import Kelvin.Connector.Relevance
import Kelvin.Connector.Deletion
import Kelvin.Connector.Validity
import Kelvin.Data.Text
import Kelvin.Api.GroupNames
import Kelvin.Lib.RoleStrings
import Kelvin.Api.UserRoles
import Kelvin.Lib.SchoolRoles
import Kelvin.Lib.RoleOperations
import Kelvin.Data.Actions
import Kelvin.Lib.StoredUser
import Kelvin.Api.CustomRoles
import Kelvin.Lib.RoleParsers
import Kelvin.Api.UserUpdate
import Kelvin.Api.RoleRequests
import Kelvin.Api.CustomRoleParts
import Kelvin.Api.RoleUpdates
import Kelvin.Connector.HostGroups
import Kelvin.Connector.Dispatch
import Kelvin.Data.JsonPatch
import Kelvin.Data.JsonOperations
import Kelvin.Objects.Patch
import Kelvin.Objects.RoundTrip
import Kelvin.Objects.PatchDocuments
import Kelvin.Objects.UserOperations
import Kelvin.Objects.UserEffects
import Kelvin.Objects.GroupOperations
import Kelvin.Objects.PatchEffects
import Kelvin.Objects.PatchPaths
import Kelvin.Search.Patterns
import Kelvin.Api.GroupLookup
import Kelvin.Search.Query
import Kelvin.Search.Statements
import Kelvin.Data.Relational
import Kelvin.Search.Semantics
import Kelvin.Search.Boolean
import Kelvin.Data.Pages
import Kelvin.Search.Paging
import Kelvin.Search.Contains
import Kelvin.Search.PropertyFilters
import Kelvin.Connector.Verbatim
import Kelvin.Connector.SenderResolution
import Kelvin.Data.Caching
import Kelvin.Data.DistinguishedName
import Kelvin.Connector.SchoolOu
import Kelvin.Api.Urls
import Kelvin.Api.UrlSelection
import Kelvin.Data.Trim
import Kelvin.Importer.Usernames
import Kelvin.Importer.Templates
import Kelvin.Importer.NameCharacters
import Kelvin.Importer.NameLengths
import Kelvin.Importer.NameCounters
import Kelvin.Lib.Conversion
import Kelvin.Data.Resolution
import Kelvin.Data.Guards
import Kelvin.Importer.Schemes
import Kelvin.Importer.SchemeMethods
import Kelvin.Importer.SchemeResolution
import Kelvin.Api.RoleValidation
import Kelvin.Data.Renaming
import Kelvin.Api.SchoolCase
import Kelvin.Data.Regex
import Kelvin.Lib.NameAttributes
import Kelvin.Data.JsonDiff
import Kelvin.Objects.PatchPositions
import Kelvin.Connector.SupportedPatches
import Kelvin.Lib.SearchBase
import Kelvin.Lib.UserValidator
import Kelvin.Api.SchoolSelection
import Kelvin.Lib.GroupMemberships
import Kelvin.Lib.ConversionGroups
import Kelvin.Data.PercentCoding
import Kelvin.Data.UrlText
import Kelvin.Api.ResourceUrls
import Kelvin.Api.ShownRoles
import Kelvin.Data.Effects
import Kelvin.Importer.DryRun
import Kelvin.Importer.UniqueIds
import Kelvin.Importer.Dates
import Kelvin.Importer.MakeSchools
import Kelvin.Lib.Passwords
import Kelvin.Data.LdapFilter
import Kelvin.Api.SearchFilters
import Kelvin.Data.SignedTokens
import Kelvin.Api.TokenAuth
import Kelvin.Data.Staleness
import Kelvin.Api.SchoolLookup
import Kelvin.Api.UrlTransparency
import Kelvin.Search.TextSearch
import Kelvin.Search.UserSearch
import Kelvin.Lib.ClassShares
import Kelvin.Api.ClassRequests
import Kelvin.Search.GroupSearch
import Kelvin.Data.Overlay
import Kelvin.Importer.Configuration
import Kelvin.Importer.Setup
import Kelvin.Api.ImportConfig
