import SecureChannel.Handshake.Signature
import SecureChannel.Net.Host
import SecureChannel.Trust.Tree

/-! Peers in handshakes, as trust managers see them. -/
namespace SecureChannel.Handshake

/-- The key exchange is not known when a peer is checked. -/
def unknownAuthType : String := "UNKNOWN"

/-- A server asked for by name, which the transport would identify. -/
def serverQuestion (leaf : Bytes) (intermediates : List Bytes) (name : ServerName) (time : Nat) :
    Question :=
  ⟨.server, leaf :: intermediates, unknownAuthType, some ⟨some "HTTPS", some name.display, some time⟩⟩

def clientQuestion (leaf : Bytes) (intermediates : List Bytes) (time : Nat) : Question :=
  ⟨.client, leaf :: intermediates, unknownAuthType, some ⟨none, none, some time⟩⟩

/-- All reasons to refuse a peer look the same from outside. -/
def outcome (r : Except PeerError Unit) : Except HandshakeError Unit :=
  r.mapError fun _ => .refused

/-- Subjects of issuers, to be sent to clients. Issuers that cannot be anchors are skipped. -/
def hints (issuers : List Bytes) : List Bytes :=
  issuers.filterMap fun bytes =>
    match Anchor.ofBytes bytes with
    | .ok anchor => some anchor.distinguishedName
    | .error _ => none

/-- Clients are asked for a certificate. -/
def offersClientAuth : Bool := true

/-- Clients without a certificate are refused. -/
def requiresClientAuth : Bool := true

end SecureChannel.Handshake
