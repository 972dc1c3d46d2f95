import SecureChannel.Peer.NamePolicy

/-! The identity that a chain claims for its peer. -/
namespace SecureChannel

/-- The text begins with the scheme of identities, in any mixture of cases. -/
def SpiffeId.hasScheme (text : String) : Bool :=
  (text.toList.take 9).map Char.toLower == "spiffe://".toList

/-- The identity of the first certificate: that of its only URI, if this has the right scheme. -/
def claimedId : Chain → Except PeerError (Option SpiffeId)
  | [] => .ok none
  | leaf :: _ => do
    match (← peerNames leaf).filterMap AltName.uri? with
    | [] => .ok none
    | [uri] => if SpiffeId.hasScheme uri then (peerId uri).map some else .ok none
    | _ => .error .multipleUris

end SecureChannel
