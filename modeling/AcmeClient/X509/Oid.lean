import AcmeClient.Der.Primitive

/-!
# Object identifiers

The identifiers of algorithms, attributes and extensions, as the content of their elements.
-/

namespace AcmeClient.X509.Oid

/-- Elliptic curve public keys. -/
def ecPublicKey : Bytes := [0x2A, 0x86, 0x48, 0xCE, 0x3D, 0x02, 0x01]

/-- The curve P-256. -/
def p256 : Bytes := [0x2A, 0x86, 0x48, 0xCE, 0x3D, 0x03, 0x01, 0x07]

/-- Signatures over the curve with SHA-256. -/
def ecdsaWithSha256 : Bytes := [0x2A, 0x86, 0x48, 0xCE, 0x3D, 0x04, 0x03, 0x02]

/-- The extensions that a request for a certificate asks for. -/
def extensionRequest : Bytes := [0x2A, 0x86, 0x48, 0x86, 0xF7, 0x0D, 0x01, 0x09, 0x0E]

/-- Alternative names of the subject. -/
def subjectAltName : Bytes := [0x55, 0x1D, 0x11]

/-- The key of the authority that signed a certificate. -/
def authorityKeyIdentifier : Bytes := [0x55, 0x1D, 0x23]

/-- The common name. -/
def commonName : Bytes := [0x55, 0x04, 0x03]

/-- The country. -/
def country : Bytes := [0x55, 0x04, 0x06]

/-- The serial number of a subject. -/
def serialNumber : Bytes := [0x55, 0x04, 0x05]

/-- A component of a domain name. -/
def domainComponent : Bytes := [0x09, 0x92, 0x26, 0x89, 0x93, 0xF2, 0x2C, 0x64, 0x01, 0x19]

/-- The identifier of a user. -/
def userId : Bytes := [0x09, 0x92, 0x26, 0x89, 0x93, 0xF2, 0x2C, 0x64, 0x01, 0x01]

/-- The short names of attributes, in lowercase. -/
def attributeNames : List (String × Bytes) := [
  ("cn", commonName), ("commonname", commonName), ("c", country), ("countryname", country),
  ("dc", domainComponent), ("domaincomponent", domainComponent), ("uid", userId),
  ("userid", userId), ("serialnumber", serialNumber),
  ("sn", [0x55, 0x04, 0x04]), ("surname", [0x55, 0x04, 0x04]),
  ("l", [0x55, 0x04, 0x07]), ("localityname", [0x55, 0x04, 0x07]),
  ("st", [0x55, 0x04, 0x08]), ("stateorprovincename", [0x55, 0x04, 0x08]),
  ("street", [0x55, 0x04, 0x09]), ("streetaddress", [0x55, 0x04, 0x09]),
  ("o", [0x55, 0x04, 0x0A]), ("organizationname", [0x55, 0x04, 0x0A]),
  ("ou", [0x55, 0x04, 0x0B]), ("organizationalunitname", [0x55, 0x04, 0x0B]),
  ("title", [0x55, 0x04, 0x0C]), ("description", [0x55, 0x04, 0x0D]),
  ("name", [0x55, 0x04, 0x29]), ("givenname", [0x55, 0x04, 0x2A]),
  ("initials", [0x55, 0x04, 0x2B]), ("generationqualifier", [0x55, 0x04, 0x2C]),
  ("dnqualifier", [0x55, 0x04, 0x2E]), ("houseidentifier", [0x55, 0x04, 0x33]),
  ("telephonenumber", [0x55, 0x04, 0x14]), ("postalcode", [0x55, 0x04, 0x11]),
  ("postaladdress", [0x55, 0x04, 0x10]), ("postofficebox", [0x55, 0x04, 0x12]),
  ("businesscategory", [0x55, 0x04, 0x0F]), ("member", [0x55, 0x04, 0x1F]),
  ("owner", [0x55, 0x04, 0x20]), ("seealso", [0x55, 0x04, 0x22]),
  ("userpassword", [0x55, 0x04, 0x23])]

end AcmeClient.X509.Oid
