import Keyring.Interleave.Prog
import Keyring.Interleave.Run
import Keyring.Interleave.Memory
import Keyring.Interleave.Tally
import Keyring.Interleave.Tickets
import Keyring.Interleave.Logic
import Keyring.Interleave.Alone
import Keyring.Interleave.Decision
import Keyring.Interleave.Exclusion
import Keyring.Interleave.Invariant
import Keyring.Interleave.Raises
import Keyring.Interleave.Oracle
import Keyring.Interleave.Isolation
import Keyring.Interleave.Told
import Keyring.Throttle
import Keyring.SlidingWindow
import Keyring.Relational.Table
import Keyring.Relational.Trim
import Keyring.Relational.Numbered
import Keyring.Relational.Handle
import Keyring.Relational.Restrict
import Keyring.Domain.Text
import Keyring.Domain.Repr
import Keyring.Domain.Errors
import Keyring.Domain.Accounts
import Keyring.Domain.Rbac
import Keyring.Domain.Profiles
import Keyring.Secrets.Envelope
import Keyring.Storage.Database
import Keyring.Accounts.SqlStore
import Keyring.Accounts.SqlStoreSpec
import Keyring.Accounts.SqlRoles
import Keyring.Profiles.SqlStore
import Keyring.Profiles.SqlStoreSpec
import Keyring.Secrets.Sql
import Keyring.Storage.References
import Keyring.Storage.Connection
import Keyring.Accounts.RateLimit
import Keyring.World
import Keyring.Core.Preferences
import Keyring.StoreCalls
import Keyring.Accounts.Service
import Keyring.Credentials.OAuthClient
import Keyring.Credentials.Service
import Keyring.Credentials.Changes
import Keyring.Admin.Service
import Keyring.Accounts.Signing
import Keyring.Credentials.Kinds
import Keyring.Tokens.Decode
import Keyring.Tokens.Client
import Keyring.Tokens.Agreement
import Keyring.Credentials.Delegation
import Keyring.Api.Internal
import Keyring.Api.Subjects
import Keyring.Api.Actors
import Keyring.Calls
import Keyring.Draws
import Keyring.Runs
import Keyring.Scenario
import Keyring.Accounts.Footprint
import Keyring.Accounts.Stored
import Keyring.Credentials.Footprint
import Keyring.Writes
import Keyring.Credentials.Callbacks
import Keyring.Credentials.StoredNames
import Keyring.Credentials.Spelling
import Keyring.Credentials.Reauthentication
import Keyring.Credentials.RenewalSteps
import Keyring.Credentials.Renewal
import Keyring.Credentials.TokenResponses
import Keyring.Credentials.RefreshChain
import Keyring.Credentials.Placeholders
import Keyring.Credentials.Exchange
import Keyring.Credentials.ExchangeChain
import Keyring.Credentials.ExchangeAuthority
import Keyring.Accounts.GrantTokens
import Keyring.Accounts.ResetLinks
import Keyring.Accounts.LastOwner
import Keyring.Accounts.PasswordOrigin
import Keyring.Accounts.Permissions
import Keyring.Accounts.RoleIntegrity
import Keyring.Accounts.Deletion
import Keyring.Accounts.FirstOwner
import Keyring.Accounts.SessionSteps
import Keyring.Accounts.SessionCap
import Keyring.Accounts.SessionLifetime
import Keyring.Caps
import Keyring.Accounts.AdminDecisions
import Keyring.Accounts.WriteBack
import Keyring.Accounts.Documented
import Keyring.Accounts.Attempts
import Keyring.Accounts.Lockout
import Keyring.Accounts.GuessBudget
import Keyring.Accounts.Sweeping
import Keyring.Accounts.Windows
import Keyring.Admin.Footprint
import Keyring.Admin.Upwards
import Keyring.Admin.ResetBounds
import Keyring.Admin.Truthful
import Keyring.Python.Objects
import Keyring.Python.FormatSpec
import Keyring.Python.Markup
import Keyring.Python.Format
import Keyring.Python.Base32
import Keyring.Credentials.Material
import Keyring.Credentials.MaterialErrors
import Keyring.FixedWidth
import Keyring.Hearing
import Keyring.Python.Calendar
import Keyring.Python.Datetime
import Keyring.Storage.Times
import Keyring.Python.Json
import Keyring.Python.JsonSpec
import Keyring.Storage.Columns
import Keyring.Storage.ColumnsSpec
import Keyring.Relational.Represents
import Keyring.Accounts.SqlColumns
import Keyring.Accounts.SqlConditions
import Keyring.Profiles.SqlColumns
import Keyring.Storage.RoundTrip
import Keyring.Accounts.RoleSeeding
import Keyring.Audit.SqlLog
import Keyring.Core.Narrowing
import Keyring.Storage.Migrator
import Keyring.Storage.MigratorSpec
import Keyring.Storage.Resuming
import Keyring.Python.Dict
import Keyring.Core.Logging
import Keyring.Aead
import Keyring.Secrets.Vault
import Keyring.Secrets.VaultSpec
import Keyring.Secrets.VaultMap
import Keyring.Secrets.Agreement
import Keyring.Interleave.Sections
import Keyring.Tokens.Jwks
import Keyring.Pacing
import Keyring.Tokens.JwksFetches
import Keyring.Tokens.JwksHistory
import Keyring.Tokens.JwksColdStart
import Keyring.Tokens.JwksTrust
import Keyring.Credentials.OneTimeCodes
import Keyring.Percent
import Keyring.Credentials.Providers
import Keyring.Notifications.Templates
import Keyring.Credentials.Holdings
import Keyring.Credentials.Concerns
import Keyring.Credentials.Isolation
import Keyring.Credentials.Acting
import Keyring.Credentials.TwoStates
import Keyring.Interleave.Scripts
import Keyring.Api.Services
import Keyring.Api.Schemas
import Keyring.Api.Routes
import Keyring.Api.Served
import Keyring.Api.Vouched
import Keyring.Accounts.SessionOrigin
import Keyring.Api.Disclosed
import Keyring.Api.Earned
import Keyring.Api.Errors
import Keyring.Client.Credentials
import Keyring.Client.Conversation
