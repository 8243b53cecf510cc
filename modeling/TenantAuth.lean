import TenantAuth.Guard.Json
import TenantAuth.Binding.Worker
import TenantAuth.Http.Service
import TenantAuth.Json.Position
import TenantAuth.Json.Printer
import TenantAuth.Json.Reading
import TenantAuth.Token.Description
import TenantAuth.Proofs.Resolution.Precedence
import TenantAuth.Proofs.Token.Authenticity
import TenantAuth.Proofs.Token.Acceptance
import TenantAuth.Proofs.Token.Issuance
import TenantAuth.Proofs.Revocation.Run
import TenantAuth.Proofs.Token.Revocation
import TenantAuth.Proofs.Endpoint.Selection
import TenantAuth.Proofs.Http.Enforcement
import TenantAuth.Proofs.Endpoint.Versions
import TenantAuth.Proofs.Http.Coherence
import TenantAuth.Proofs.Binding.Isolation
import TenantAuth.Proofs.Permission.Covering
import TenantAuth.Proofs.Permission.Names
import TenantAuth.Proofs.Scope.Widest
import TenantAuth.Proofs.Access.Monotonicity
import TenantAuth.Proofs.Access.Resources
import TenantAuth.Proofs.Resolution.Privileges
import TenantAuth.Proofs.Resolution.Userless
import TenantAuth.Proofs.Http.Refusal
import TenantAuth.Proofs.Resolution.Rejection
import TenantAuth.Proofs.Endpoint.Uniqueness
import TenantAuth.Proofs.Endpoint.Succession
import TenantAuth.Proofs.Reach.Scoped
import TenantAuth.Proofs.Reach.Tenants
import TenantAuth.Proofs.Reach.Promotion
import TenantAuth.Proofs.Binding.Nesting
import TenantAuth.Proofs.Guard.Representation
import TenantAuth.Proofs.Guard.Bypass
import TenantAuth.Proofs.Access.Targets
import TenantAuth.Proofs.Endpoint.Construction
import TenantAuth.Proofs.Resolution.Account
import TenantAuth.Proofs.Resolution.Restatement
import TenantAuth.Proofs.Endpoint.Isolation
import TenantAuth.Proofs.Endpoint.Language
import TenantAuth.Proofs.Permission.Order
import TenantAuth.Proofs.Revocation.Purging
import TenantAuth.Proofs.Revocation.Renewal
import TenantAuth.Proofs.ServiceTokens.Reading
import TenantAuth.Proofs.Token.Leeway
import TenantAuth.Proofs.Identity.Building
import TenantAuth.Proofs.Endpoint.Visibility
