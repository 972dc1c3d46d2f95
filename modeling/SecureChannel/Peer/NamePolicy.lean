import SecureChannel.Matcher
import SecureChannel.Peer.Error

/-! The policy for the names of a peer: one of them must match one of the matchers. -/
namespace SecureChannel

/-- Certificates in encoded form, the peer's own one first. -/
abbrev Chain := List Bytes

/-- Without matchers every chain will do. -/
structure NamePolicy where
  matchers : List Matcher
deriving DecidableEq

namespace NamePolicy

def ofContext (context : ValidationContext) : Except ConfigError NamePolicy :=
  return ⟨← Matcher.ofSpecs context.matchers⟩

def isEmpty (policy : NamePolicy) : Bool := policy.matchers.isEmpty

/-- Some name that takes part in matching is accepted by a matcher. -/
def admits (policy : NamePolicy) (names : List AltName) : Bool :=
  names.any fun name =>
    match name.matchText? with
    | some text => Matcher.anyAccepts policy.matchers text
    | none => false

def checkLeaf (policy : NamePolicy) (certificate : Bytes) : Except PeerError Unit :=
  if policy.isEmpty then .ok ()
  else do
    let names ← peerNames certificate
    if names.isEmpty then .error .missingNames
    else if policy.admits names then .ok ()
    else .error .namesRefused

/-- Only the first certificate counts. -/
def check (policy : NamePolicy) : Chain → Except PeerError Unit
  | [] => if policy.isEmpty then .ok () else .error .missingCertificates
  | leaf :: _ => policy.checkLeaf leaf

end NamePolicy
end SecureChannel
