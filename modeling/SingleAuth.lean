import SingleAuth.Core.DatabaseHooks.Deletion
import SingleAuth.Core.LoginCSRF
import SingleAuth.Core.OAuthState.Integrity
import SingleAuth.Core.Secondary.Interleaving
import SingleAuth.Core.Secondary.Revocation
import SingleAuth.Core.Verification.SingleUse
import SingleAuth.Plugins.Admin.Bans
import SingleAuth.Plugins.Admin.Impersonation
import SingleAuth.Plugins.ApiKey.Quota
import SingleAuth.Plugins.ApiKey.Rejection
import SingleAuth.Plugins.ApiKey.Termination
import SingleAuth.Plugins.DeviceAuthorization
import SingleAuth.Plugins.EmailOtp.ChangeEmail
import SingleAuth.Plugins.MagicLink.Addressee
import SingleAuth.Plugins.OAuthProvider.Lineage
import SingleAuth.Plugins.OAuthProvider.Reauthentication
import SingleAuth.Plugins.OAuthProvider.SignedQuery
import SingleAuth.Plugins.OAuthProvider.SingleUse
import SingleAuth.Plugins.OAuthProvider.Subjects
import SingleAuth.Plugins.OAuthProxy.Authentic
import SingleAuth.Plugins.OidcProvider.EndSession
import SingleAuth.Plugins.OidcProvider.Pending
import SingleAuth.Plugins.OidcProvider.Pkce
import SingleAuth.Plugins.TwoFactor.Window
import SingleAuth.Plugins.TwoFactor.TrustedDevice
import SingleAuth.Plugins.TwoFactor.Attempts
import SingleAuth.Plugins.Organization.Owners
import SingleAuth.Plugins.Organization.Teams
import SingleAuth.Plugins.Passkey
import SingleAuth.Plugins.Scim.Users
import SingleAuth.Plugins.Sso.Callback
import SingleAuth.Plugins.Sso.Logout
import SingleAuth.Plugins.Sso.Providers
import SingleAuth.Protocol.SamlReplay
import SingleAuth.Security.Cookies
import SingleAuth.Security.RateLimit.Agreement
import SingleAuth.Security.RateLimit.Pruning
import SingleAuth.Security.RateLimit.Spelling
import SingleAuth.Security.RateLimit.Lifetime
import SingleAuth.Storage.Fallback
import SingleAuth.Storage.Memory.Atomic
import SingleAuth.Storage.Memory.Failures
