import SecureChannel.Certificate.Outline
import SecureChannel.Path.Error
import SecureChannel.Spiffe.Id

/-! Reasons to refuse a peer. -/
namespace SecureChannel

inductive ParseFault
  /-- The names could not be read. -/
  | names (fault : Outline.Fault)
  /-- The certificate is not fit for a certification path. -/
  | certificate (error : PathError)
deriving DecidableEq

/-- Why a chain is not trusted. -/
inductive Distrust
  | stated (reason : String)
  | path (error : PathError)
  | invalidServerName (name : String)
deriving DecidableEq

inductive PeerError
  | missingCertificates
  | parseFailed (fault : ParseFault)
  | missingNames
  | namesRefused
  | noSpiffeId
  | multipleUris
  | invalidSpiffeId (text : String) (fault : SpiffeId.Fault)
  | unknownTrustDomain (domain : String)
  | untrusted (cause : Distrust)
deriving DecidableEq

def ParseFault.message : ParseFault → String
  | .names .certificate => "DER parse failed"
  | .names .duplicateNames => "invalid SAN extension: duplicate extensions"
  | .names .names => "invalid SAN extension: invalid extensions"
  | .certificate error => error.message

def Distrust.message : Distrust → String
  | .stated reason => reason
  | .path error => error.message
  | .invalidServerName name => "invalid server name '" ++ name ++ "': invalid dns name"

def PeerError.message : PeerError → String
  | .missingCertificates => "peer certificate(s) missing"
  | .parseFailed fault => "failed to parse peer certificate: " ++ fault.message
  | .missingNames => "peer certificate has no subject alternative names (missing SAN)"
  | .namesRefused => "peer certificate SAN check failed"
  | .noSpiffeId => "failed to extract SPIFFE ID from peer leaf certificate (no SPIFFE id)"
  | .multipleUris => "multiple URI SAN values found in the peer leaf certificate"
  | .invalidSpiffeId text fault => "invalid SPIFFE ID '" ++ text ++ "': " ++ fault.message
  | .unknownTrustDomain domain =>
    "SPIFFE trust map doesn't contain trust domain '" ++ domain ++
      "' from peer leaf certificate (unknown trust domain)"
  | .untrusted cause => "peer certificate chain rejected: " ++ cause.message

/-- The names of a peer's certificate. -/
def peerNames (certificate : Bytes) : Except PeerError (List AltName) :=
  (altNames certificate).mapError fun fault => .parseFailed (.names fault)

/-- Reads an identity that a peer claims. -/
def peerId (text : String) : Except PeerError SpiffeId :=
  (SpiffeId.parse text).mapError (.invalidSpiffeId text)

end SecureChannel
