import SecureChannel.Path.Search
import SecureChannel.Text.Pem
import SecureChannel.Trust.Question

/-! Leaves of trust: chains must lead to one of their anchors. -/
namespace SecureChannel

/-- The certificates of the anchors, and what paths need of them. -/
structure AnchoredTrust where
  issuers : List Bytes
  anchors : List Anchor
deriving DecidableEq

namespace AnchoredTrust

/-- There must be an anchor, and all of them must be well formed. -/
def ofCertificates (certificates : List Bytes) : Except ConfigError AnchoredTrust :=
  if certificates.isEmpty then .error .noTrustAnchors
  else
    match certificates.mapM Anchor.ofBytes with
    | .error e => .error (.invalidTrustAnchor e.message)
    | .ok anchors => .ok ⟨certificates, anchors⟩

def ofPem (text : Bytes) : Except ConfigError AnchoredTrust :=
  match Pem.certificates? text with
  | none => .error (.invalidTrustAnchor "PEM parse failed")
  | some certificates => ofCertificates certificates

def distrusted {α : Type} (r : Except PathError α) : Except PeerError α :=
  r.mapError fun e => .untrusted (.path e)

def verificationTime (now : Nat) (q : Question) : Nat := (q.params.bind (·.time)).getD now

def request (t : AnchoredTrust) (now : Nat) (q : Question) (intermediates : List Bytes)
    (purpose : KeyPurpose) : Path.Request :=
  ⟨t.anchors, intermediates, purpose, verificationTime now q⟩

/-- The name of the server counts if the transport identifies it. -/
def checkServerName (leaf : Certificate) (params : Option SslParams) : Except PeerError Unit :=
  match (params.filter SslParams.identifies).bind (·.serverName) with
  | none => .ok ()
  | some name =>
    match ServerName.parse? name with
    | none => .error (.untrusted (.invalidServerName name))
    | some expected => distrusted (leaf.checkServerName expected)

/-- Judges a chain, given the current time. -/
def judge (now : Nat) (t : AnchoredTrust) (q : Question) : Except PeerError Unit :=
  match q.chain with
  | [] => .error .missingCertificates
  | leaf :: intermediates =>
    match q.role with
    | .client => distrusted do
      Path.check (t.request now q intermediates .clientAuth) (← Certificate.ofBytes leaf)
    | .server => do
      let leaf ← (Certificate.ofBytes leaf).mapError fun e => .parseFailed (.certificate e)
      distrusted (Path.check (t.request now q intermediates .serverAuth) leaf)
      checkServerName leaf q.params

end AnchoredTrust
end SecureChannel
