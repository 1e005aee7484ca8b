import Turnstile.Cache.Url
import Turnstile.Config.Document
import Turnstile.Config.Variables
import Turnstile.Http.Serve
import Turnstile.Password.Argon2
import Turnstile.Sql.Script
import Turnstile.Sql.Url
import Turnstile.Store.Memory
import Turnstile.Store.Remote
import Turnstile.Token.Keys
import Turnstile.Token.Uuid
import Turnstile.Proofs.Action
import Turnstile.Proofs.MemoryService
import Turnstile.Proofs.Gate
import Turnstile.Proofs.Lockout.Comparison
import Turnstile.Proofs.Lockout.Machine
import Turnstile.Proofs.Admin
import Turnstile.Proofs.Login
import Turnstile.Proofs.Run
import Turnstile.Proofs.Sessions
import Turnstile.Proofs.Lockout.GuessRate
import Turnstile.Proofs.Policy.Administration
import Turnstile.Proofs.Policy.Chain
import Turnstile.Proofs.Policy.Reload
import Turnstile.Proofs.Policy.Superadmin
import Turnstile.Proofs.Regex.Bounded
import Turnstile.Proofs.Policy.Decision
import Turnstile.Proofs.Regex.Enclosed
import Turnstile.Proofs.Regex.Anchored
import Turnstile.Proofs.Policy.Method
import Turnstile.Proofs.Policy.Operation
import Turnstile.Proofs.Regex.Spacing
import Turnstile.Proofs.Policy.Totality
import Turnstile.Proofs.Token.Issuing
import Turnstile.Proofs.Registration
import Turnstile.Proofs.Accounts
import Turnstile.Proofs.Blocking
import Turnstile.Proofs.Http.Mediation
import Turnstile.Proofs.Decimal
import Turnstile.Proofs.Encoding
import Turnstile.Proofs.Json.Writing
import Turnstile.Proofs.Json.Shape
import Turnstile.Proofs.Token.Compact
import Turnstile.Proofs.Token.Claims
import Turnstile.Proofs.Token.RoundTrip
import Turnstile.Proofs.Signature.Rsa
import Turnstile.Proofs.Token.Keys
import Turnstile.Proofs.Store.Whole
import Turnstile.Proofs.Store.Registration
import Turnstile.Proofs.Text
import Turnstile.Proofs.FirstLogin
import Turnstile.Proofs.TwoRuns
import Turnstile.Proofs.Lockout.Interference
import Turnstile.Proofs.Noninterference
import Turnstile.Proofs.Policy.Plain
import Turnstile.Proofs.Policy.Tables
import Turnstile.Proofs.Policy.Integrity
import Turnstile.Proofs.Policy.RoleNames
import Turnstile.Proofs.Policy.Loading
import Turnstile.Proofs.Time.Calendar
import Turnstile.Proofs.Time.Text
import Turnstile.Proofs.Cache.Record
import Turnstile.Proofs.Cache.Refinement
import Turnstile.Proofs.Token.Bearer
import Turnstile.Proofs.Entitlement
import Turnstile.Proofs.Login.Effect
import Turnstile.Proofs.Login.Renewal
import Turnstile.Proofs.Text.Lower
import Turnstile.Proofs.Identities
import Turnstile.Proofs.Policy.Membership
import Turnstile.Proofs.Lockout.History
import Turnstile.Proofs.Lockout.Release
import Turnstile.Proofs.Lockout.Escalation
import Turnstile.Proofs.Lockout.Unusable
import Turnstile.Proofs.Policy.RuleList
import Turnstile.Proofs.Regex.Row
import Turnstile.Proofs.Policy.LiteralPath
import Turnstile.Proofs.Policy.PathTemplate
import Turnstile.Proofs.Policy.SuperadminName
import Turnstile.Proofs.Policy.AllOrNothing
import Turnstile.Proofs.Sql.Exchange
import Turnstile.Proofs.Sql.Transaction
import Turnstile.Proofs.Sql.Policies
import Turnstile.Proofs.Policy.GrantOrder
import Turnstile.Proofs.Login.TokenRole
import Turnstile.Proofs.StoredTexts
import Turnstile.Proofs.Http.Judging
import Turnstile.Proofs.Http.ErrorAnswer
import Turnstile.Proofs.Json.Narrowing
import Turnstile.Proofs.Token.Session
import Turnstile.Proofs.Logout
import Turnstile.Proofs.Policy.UserPermissions
import Turnstile.Proofs.Settings
import Turnstile.Proofs.Token.Lifetime
import Turnstile.Proofs.Http.Origins
import Turnstile.Proofs.Lockout.Calls
