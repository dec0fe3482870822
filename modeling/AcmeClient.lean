import AcmeClient.Challenge.Persistent
import AcmeClient.Client.Command
import AcmeClient.Proofs.Client.Nonces
import AcmeClient.Proofs.Client.Refresh
import AcmeClient.Proofs.Order.Agreement
import AcmeClient.Proofs.Client.Identifiers
import AcmeClient.Proofs.Client.Listings
import AcmeClient.Proofs.Poll.Deadline
import AcmeClient.Proofs.Poll.Schedule
import AcmeClient.Proofs.Poll.Cap
import AcmeClient.Proofs.Order.Gate
import AcmeClient.Proofs.Order.Payload
import AcmeClient.Proofs.Crypto.FixedWidth
import AcmeClient.Proofs.Encoding.Base64
import AcmeClient.Proofs.Json.Object
import AcmeClient.Proofs.Jws.Envelope
import AcmeClient.Proofs.Client.Signatures
import AcmeClient.Proofs.Client.Waiting
import AcmeClient.Proofs.Resource.RoundTrip
import AcmeClient.Proofs.Client.AccountUrl
import AcmeClient.Proofs.Challenge.RecordName
import AcmeClient.Proofs.Challenge.Issuers
import AcmeClient.Proofs.Challenge.SharedName
import AcmeClient.Proofs.Jws.Thumbprint
import AcmeClient.Proofs.Challenge.KeyAuthorization
import AcmeClient.Proofs.Net.AddressText
import AcmeClient.Proofs.Der.RoundTrip
import AcmeClient.Proofs.X509.Naming
import AcmeClient.Proofs.X509.Request
import AcmeClient.Proofs.X509.Renewal
import AcmeClient.Proofs.X509.StoredChains
import AcmeClient.Proofs.X509.Expiry
import AcmeClient.Proofs.X509.Subject
import AcmeClient.Proofs.Provider.Pebble
import AcmeClient.Proofs.Challenge.Lookups
import AcmeClient.Proofs.Provider.Roots
import AcmeClient.Proofs.Time.Calendar
import AcmeClient.Proofs.Time.Universal
import AcmeClient.Proofs.Order.Dates
import AcmeClient.Proofs.Time.RequestedWait
import AcmeClient.Proofs.Client.RequestedWaits
