import BearerAuth.Client.Execute
import BearerAuth.Client.Traffic
import BearerAuth.Decimal.Shortest
import BearerAuth.Ecdsa
import BearerAuth.Json.Record
import BearerAuth.Key.Load
import BearerAuth.Proofs.Client.ClosedForm
import BearerAuth.Proofs.Client.Deadline
import BearerAuth.Proofs.Client.FinalHook
import BearerAuth.Proofs.Client.Protocol
import BearerAuth.Proofs.Client.Schedule
import BearerAuth.Proofs.Client.Secrecy
import BearerAuth.Proofs.Client.Usable
import BearerAuth.Proofs.Json.Literal
import BearerAuth.Proofs.Json.Number
import BearerAuth.Proofs.Json.Record
import BearerAuth.Proofs.Key.Loading
import BearerAuth.Proofs.Key.Verdict
import BearerAuth.Proofs.Network.Pairing
import BearerAuth.Proofs.Signing.Verification
import BearerAuth.Proofs.Time.Profile
import BearerAuth.Proofs.Time.Written
import BearerAuth.Proofs.Token.Accounting
import BearerAuth.Proofs.Token.AnyOrder
import BearerAuth.Proofs.Token.Claims
import BearerAuth.Proofs.Token.Encoding
import BearerAuth.Proofs.Token.Failure
import BearerAuth.Proofs.Token.Kept
import BearerAuth.Proofs.Token.Linearization
import BearerAuth.Proofs.Token.MintSpacing
import BearerAuth.Proofs.Token.Secrecy
import BearerAuth.Proofs.Transport.Building
import BearerAuth.Proofs.Transport.Places
import BearerAuth.Proofs.Transport.Sharing
import BearerAuth.Proofs.Transport.Tracking
import BearerAuth.Sha2
import BearerAuth.Signing.Ecdsa
import BearerAuth.Token.Interleaving
import BearerAuth.Transport.HostLimits
import BearerAuth.Transport.Source
