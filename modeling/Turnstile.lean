import Turnstile.Flow.Probe
import Turnstile.Main
import Turnstile.Program.Server
import Turnstile.Proofs.Flow.Gate
import Turnstile.Proofs.KeyStore.Rotation
import Turnstile.Proofs.Flow.Standard
import Turnstile.Proofs.Service.Routing
import Turnstile.Proofs.Service.Containment
import Turnstile.Proofs.Flow.Login
import Turnstile.Proofs.Service.Api
import Turnstile.Proofs.Service.Login
import Turnstile.Proofs.Service.Enumeration
import Turnstile.Proofs.FileTree.Paths
import Turnstile.Proofs.FileTree.Walk
import Turnstile.Proofs.KeyStore.Directory
import Turnstile.Proofs.Der
import Turnstile.Proofs.Program.Primes
import Turnstile.Proofs.Rsa.Written
import Turnstile.Proofs.KeyStore.NewKey
import Turnstile.Proofs.Text.Case
import Turnstile.Proofs.Users.History
import Turnstile.Proofs.Program.Lifetime
import Turnstile.Proofs.Service.Readiness
import Turnstile.Proofs.KeyStore.Loading
import Turnstile.Proofs.Users.Races
import Turnstile.Proofs.Service.Discretion
import Turnstile.Proofs.Program.Seeding
import Turnstile.Proofs.Service.Rejection
import Turnstile.Proofs.Token.Precedence
import Turnstile.Proofs.Flow.Order
import Turnstile.Proofs.KeyStore.Interchange
import Turnstile.Proofs.Service.Isolation
import Turnstile.Proofs.Flow.Rule
import Turnstile.Proofs.Service.Shutdown
import Turnstile.Proofs.Service.Accounting
import Turnstile.Proofs.Service.RequestId
import Turnstile.Proofs.Service.RequestLog
import Turnstile.Proofs.Token.Issue
import Turnstile.Proofs.Config.Decision
import Turnstile.Proofs.Flow.Values
import Turnstile.Proofs.Token.Codec
import Turnstile.Proofs.Config.Binding
import Turnstile.Proofs.TokenRequest
