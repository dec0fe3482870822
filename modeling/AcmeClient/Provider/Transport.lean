import AcmeClient.Pem.Sections
import AcmeClient.Provider.Basic
import AcmeClient.Settings

/-!
# Transports of providers

What a provider needs to reach its server. Pebble's root certificates come from the first
candidate file that can be read, holds only whole sections and at least one certificate.
-/

namespace AcmeClient

/-- The contents of the files that can be read, by path. -/
abbrev Files := String → Option Bytes

/-- The root certificates that a connection trusts besides the usual ones; none of those if there
is a list. -/
abbrev TrustedRoots := Option (List Bytes)

namespace Provider

/-- The certificates in a file, if there are any and all its sections are whole. -/
def rootsIn? (files : Files) (path : String) : Option (List Bytes) :=
  match (files path).bind Pem.certificatesIn? with
  | none => none
  | some [] => none
  | some certificates => some certificates

/-- The root certificates in the first usable candidate. -/
def loadRoots (files : Files) (candidates : List String) : Except Error (List Bytes) :=
  match candidates.findSome? (rootsIn? files) with
  | some certificates => .ok certificates
  | none => .error (.invalidConfiguration (.noTrustAnchor candidates))

/-- What a connection under some settings trusts, or why there can be none. The implementation of
TLS says which octets it accepts as a root certificate. -/
def transport (p : Provider) (files : Files) (acceptsRoot : Bytes → Bool)
    (settings : NetworkSettings) : Except Error TrustedRoots := do
  if !settings.isUsable then throw .network
  match p with
  | pebble candidates =>
    let roots ← loadRoots files candidates
    if roots.all acceptsRoot then return some roots
    else throw .network
  | _ => return none

end Provider

end AcmeClient
