import AcmeClient.Error
import AcmeClient.Url.Parser

/-!
# Network settings

How requests are sent: through which proxy, with which credentials and timeout, whether answers
may be compressed and whether one connector serves all requests. Settings compare by value.
-/

namespace AcmeClient

/-- What a proxy is given to identify the client. -/
structure ProxyCredentials where
  username : String
  password : String
  deriving DecidableEq, Repr

/-- Credentials as messages show them, without the password. -/
def ProxyCredentials.shown (c : ProxyCredentials) : String :=
  "ProxyCredentials \x7b username: " ++ Text.quoted c.username ++ ", password: \"<redacted>\" \x7d"

/-- How requests are sent. -/
structure NetworkSettings where
  proxy : Option Url := none
  timeout : Duration := .ofSeconds 30
  credentials : Option ProxyCredentials := none
  compression : Bool := true
  reuse : Bool := false
  deriving DecidableEq, Repr

namespace NetworkSettings

/-- Whether a variable of the environment allows compression: it does unless it is set to
something else than `true`. -/
def compressionFrom : Option String → Bool
  | none => true
  | some value => (Text.trimChars value.toList).map Char.toLower == "true".toList

/-- The settings in an environment whose variable for compression has a value. -/
def ofEnvironment (compression : Option String) : NetworkSettings :=
  { compression := compressionFrom compression }

/-- The settings with another timeout, which must not be zero. -/
def withTimeout (s : NetworkSettings) (timeout : Duration) : Except Error NetworkSettings :=
  if timeout.nanoseconds = 0 then .error (.invalidConfiguration .zeroTimeout)
  else .ok { s with timeout }

/-- Whether requests can be sent: a proxy needs a host. -/
def isUsable (s : NetworkSettings) : Bool :=
  match s.proxy with
  | none => true
  | some u => u.host.isSome

end NetworkSettings

end AcmeClient
